import Rollout.ProjectConfig
import Rollout.Trace
import Rollout.Text.Blank
namespace Rollout

-- What a command works on. A project and an app are not kept side by side, where it would have to be 
-- asserted that the app belongs to the project: an app stands for its own project as well, so that the 
-- two cannot disagree (`project?_of_app?`).
inductive Target
  | nothing
  | project (p : ProjectRef)
  | app (a : AppRef)
  deriving DecidableEq

namespace Target

def project? : Target → Option ProjectRef
  | nothing   => none
  | project p => some p
  | app a     => some a.projectRef

def app? : Target → Option AppRef
  | app a => some a
  | _     => none

end Target

-- What a command expects from its first argument.
inductive TargetMode
  -- Nothing: all arguments are its own.
  | free
  -- An app, for which flags or the configuration can stand in.
  | appRequired
  -- An app or a project, if there is an argument at all.
  | appOptional
  -- An app; anything else is an argument of its own.
  | projectRequired
  deriving DecidableEq, Repr

-- When the configuration is looked for.
inductive ConfigPolicy
  | load
  -- It may be missing.
  | loadOptional
  -- Only if the arguments leave the target open.
  | skip
  deriving DecidableEq, Repr

structure TargetFlags where
  project : Option String
  app     : Option String
  deriving DecidableEq, Repr

inductive TargetError
  | ref (e : RefError)
  | ambiguousApp (apps : List String)
  | noApps (project : String)
  | noConfig
  | config (f : Failure)
  deriving DecidableEq, Repr

def TargetError.message : TargetError → String
  | ref e             => "invalid target: " ++ e.message
  | ambiguousApp apps => 
    "This command requires a single targeted app. You have multiple apps defined\n" ++
    "(" ++ ", ".intercalate apps ++ ") so you can specify the app to target using the \"--app\" flag\n" ++
    "or a \"project/app\" argument."
  | noApps project    => 
    "project '" ++ project ++ "' declares no apps; specify an app target explicitly"
  | noConfig          => 
    "no " ++ ProjectConfig.fileName ++ " found in this directory or any parent; specify a " ++
    "\"project/app\" target or run inside a project"
  | config f          => "failed to load project configuration: " ++ f.full

-- What is known once the target has been found.
structure Resolution where
  target   : Target
  -- Whether the first argument named the target. Such a target can only be reached remotely.
  explicit : Bool
  -- The arguments that are left to the command.
  args     : List String
  config   : Option LoadedConfig
  deriving DecidableEq

namespace Target

-- The target that the first argument names. A command that also takes projects takes any argument 
-- that is not blank as the name of one, even if it is no word.
def positional? (mode : TargetMode) : List String → Except RefError (Option Target)
  | []         => return none
  | first :: _ =>
    match mode, TargetText.read first with
    | .free, _        => return none
    | _, .app p a     => return some (.app (← AppRef.ofNames p a))
    | .appOptional, _ => 
      if Text.isBlank first then return none else return some (.project (← ProjectRef.ofName first))
    | _, _            => return none

def needsConfig (mode : TargetMode) (policy : ConfigPolicy) (positional : Option Target) : Bool :=
  policy ≠ .skip || (mode ≠ .free && positional.isNone)

-- The project that the configuration stands for, which a flag can replace.
def configured (flags : TargetFlags) (c : ProjectConfig) : Except TargetError ProjectRef :=
  (ProjectRef.ofName ((Text.given? flags.project).getD c.project)).mapError .ref

-- The target if no argument names one. A command that needs an app takes the one of the flag, or the 
-- only one of the configuration.
def implied (mode : TargetMode) (flags : TargetFlags) (c : ProjectConfig) (project : ProjectRef) : 
    Except TargetError Target :=
  if mode ≠ .appRequired then .ok (.project project)
  else match Text.given? flags.app, c.apps with
    | some name, _ => ((project.app name).map .app).mapError .ref
    | none, [only] => ((project.app only).map .app).mapError .ref
    | none, []     => .error (.noApps project.name)
    | none, apps   => .error (.ambiguousApp apps)

-- What is known if the configuration has no say in it. An argument that names the target is not handed on.
def answer (args : List String) (config : Option LoadedConfig) : Option Target → Resolution
  | some t => ⟨t, true, args.tail, config⟩ 
  | none   => ⟨.nothing, false, args, config⟩ 

-- Finds the target of a command behind what its first argument names.
def resolveFrom (mode : TargetMode) (policy : ConfigPolicy) (flags : TargetFlags) 
    (search : Except Failure (Option LoadedConfig)) (args : List String) (positional : Option Target) : 
    Traced TargetError Resolution :=
  if !needsConfig mode policy positional then pure (answer args none positional)
  else do
    match ← (Traced.asked .askedConfig search).mapError .config with
    | some loaded =>
      let project ← Traced.of (configured flags loaded.config)
      if positional.isSome then pure (answer args (some loaded) positional)
      else do
        let target ← Traced.of (implied mode flags loaded.config project)
        return ⟨target, false, args, some loaded⟩ 
    | none =>
      if policy = .loadOptional && (mode ≠ .appRequired || positional.isSome) then 
        pure (answer args none positional)
      else Traced.fail .noConfig

-- Finds the target of a command, given what a search for the configuration would find.
def resolve (mode : TargetMode) (policy : ConfigPolicy) (flags : TargetFlags) 
    (search : Except Failure (Option LoadedConfig)) (args : List String) : 
    Traced TargetError Resolution := do
  resolveFrom mode policy flags search args (← (Traced.of (positional? mode args)).mapError .ref)

end Target
end Rollout
