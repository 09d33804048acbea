import Rollout.CommandLine
import Rollout.Dispatch
import Rollout.Environment
import Rollout.Transcript
namespace Rollout

-- All that a run of the program depends on, apart from its arguments.
structure World where
  files       : FileTree
  environment : RawEnvironment
  -- Where the program runs, unless that cannot be told.
  workingDir  : Except Failure Path
  -- Where programs keep their settings, if the system has a place for them.
  settingsDir : Option Path := none
  -- Whether a client can be set up that talks to a server.
  client      : Connection → Except Failure Unit := fun _ => .ok ()
  -- How the server behind a base URL answers while the command is being prepared, and how it answers
  -- the same questions afterwards.
  serverAt    : String → Server
  serverLater : String → Server := serverAt
  -- Whether a path is text, which not all of them are. Only what is text can be written as JSON; to a
  -- user the path is shown as well as can be.
  isText      : Path → Bool := fun _ => true

-- Why a run failed.
inductive RunError
  | init (e : InitError)
  | failure (f : Failure)
  | dispatch (e : DispatchError)
  -- The run did not come to an end by itself. The program tells nobody, and the exit code is not one of
  -- its own. What the system says about that is left out.
  | panicked
  deriving DecidableEq, Repr

namespace RunError

def ofOperation : OperationError → RunError
  | .failed f         => failure f
  | .alreadyReported  => dispatch .alreadyReported

-- What is still to be shown to the user, if anything.
def message? : RunError → Option String
  | init e     => some e.message
  | failure f  => some f.full
  | dispatch e => if e.isAlreadyReported then none else some e.message
  | panicked   => none

def exitCode : RunError → Nat
  | init e   => e.exitCode
  | panicked => 101
  | _        => 1

end RunError

namespace Command

def demands : Command → Demands
  | context => ⟨.appOptional, .loadOptional, false⟩ 
  | inspect => ⟨.appRequired, .load, true⟩ 
  | targets => ⟨.appOptional, .loadOptional, true⟩ 

-- The lines that describe a context.
def contextLines (c : CommandContext) : List String :=
  ["workspace: " ++ c.workspace.name]
    ++ (c.target.project?.map fun p => "project: " ++ p.name).toList
    ++ (c.target.app?.map fun a => "app: " ++ a.text).toList
    ++ (if c.explicit then ["target given explicitly; operations require a remote runner"] else [])
    ++ (c.config.map fun loaded => "config: " ++ loaded.path.text).toList
    ++ c.values.toList.map (fun v => "var " ++ v.name ++ "=" ++ v.value)
    ++ c.labels.map (fun (name, value) => "label " ++ name ++ "=" ++ value)
    ++ (if c.args.isEmpty then [] else ["args: " ++ " ".intercalate c.args])

-- The paths that are part of a context.
def paths (c : CommandContext) : List Path :=
  (c.config.map (·.path)).toList ++ c.values.toList.filterMap (·.source.path?)

def printContext (isText : Path → Bool) (c : CommandContext) (json : Bool) : Traced RunError Unit :=
  if json then 
    if (paths c).all isText then ⟨[.printed c.toJson.pretty], .ok ()⟩ 
    else Traced.fail (.failure ⟨[.other "serialize context"], .other "path contains invalid UTF-8 characters"⟩)
  else ⟨(contextLines c).map .output, .ok ()⟩ 

def inspectLine (mode : RunnerMode) (h : AppHandle) : String :=
  h.app.text ++ " (" ++ mode.text ++ " runner)"

-- Shows the plan without following it.
def runInspect (d : Dispatcher) : Traced RunError Unit := do
  let plan ← d.plan.mapError .ofOperation
  ⟨plan.tasks.map fun h => .output (inspectLine plan.mode h), .ok ()⟩ 

def targetLine (o : OperationContext) (h : AppHandle) : String :=
  h.app.text ++ " (workspace: " ++ h.workspace.name ++ ", " ++ o.mode.text ++ " runner)"

-- An operation that only shows what it is applied to. Its state is what has been shown.
def listTarget : Operation (List Event) := fun o h shown =>
  ({ result := .ok () }, shown ++ [.output (targetLine o h)])

def runTargets (d : Dispatcher) : Traced RunError Unit :=
  let run := d.dispatch listTarget false []
  ⟨d.plan.events ++ run.state, run.outcome.result.mapError .dispatch⟩ 

end Command

namespace CommandLine

-- What a run finds out before its command is prepared.
structure Setting where
  dir         : Path
  url         : Option String
  environment : Environment

def contexts (w : World) : ContextStore :=
  .inDirectory w.files (w.environment.contextDir w.settingsDir)

-- The URL behind which the server of a connection is reached.
def reach (w : World) (c : Connection) : Except Failure String := do
  let url ← c.baseUrl?
  Failure.during (.other "build http client") (w.client c)
  return url

-- Going through an environment ends the run if not all of it is text.
def capture (w : World) : Except RunError Environment :=
  match w.environment.variables? with
  | some env => .ok env
  | none     => .error .panicked

-- A connection is settled before anybody looks at the environment.
def settle (line : CommandLine) (w : World) : Traced RunError Setting := do
  let dir ← (Traced.of (Failure.during (.other "determine working directory") w.workingDir)).mapError 
    .failure
  let connection ← (Connection.resolve line.flags.server? (contexts w)).mapError .failure
  let url ← (Traced.of (connection.mapM (reach w))).mapError .failure
  let environment ← Traced.of (capture w)
  return ⟨dir, url, environment⟩ 

-- What a command line brings along to the preparation of its command.
def invocation (line : CommandLine) (w : World) (s : Setting) : Invocation where
  flags       := line.flags
  args        := line.args
  recognized  := recognized line.command
  workspace   := w.environment.workspace?
  environment := s.environment.assignments

-- What can be consulted while the command is being prepared.
def surroundings (w : World) (s : Setting) : Collaborators where
  files    := w.files
  config   := LoadedConfig.search w.files s.dir
  contexts := contexts w
  server   := s.url.map w.serverAt

-- What plans for the apps of a command. Its server may have changed since.
def dispatcher (w : World) (s : Setting) (c : CommandContext) : Dispatcher where
  context := c
  server  := s.url.map w.serverLater

-- What is left to be done once the command has been prepared.
def perform (line : CommandLine) (w : World) (s : Setting) (c : CommandContext) : Traced RunError Unit :=
  match line.command with
  | .context => Command.printContext w.isText c line.flags.json
  | .inspect => Command.runInspect (dispatcher w s c)
  | .targets => Command.runTargets (dispatcher w s c)

-- Misplaced flags are reported before anything else is looked at.
def run (line : CommandLine) (w : World) : Traced RunError Unit := do
  (Traced.of (FlagOrder.check line.args (recognized line.command))).mapError (.init ∘ .misplacedFlags)
  let s ← line.settle w
  let context ← (CommandContext.init (line.invocation w s) line.command.demands 
    (surroundings w s)).mapError .init
  line.perform w s context

-- Shows an error, unless that has been done where it occurred.
def report (x : Traced RunError Unit) : List Event × Nat :=
  match x.result with
  | .ok ()   => (x.events, 0)
  | .error e => (x.events ++ e.message?.toList.map .error, e.exitCode)

end CommandLine

namespace Program

-- The directories that a run may look into.
def directories (env : RawEnvironment) (settingsDir : Option Path) (workingDir : Except Failure Path) : 
    List Path :=
  workingDir.toOption.elim [] Path.ancestors ++ [env.contextDir settingsDir]

-- Whether a run may look at a file of that name in one of these directories.
def mayRead (name : String) : Bool :=
  name = ContextStore.defaultFile || VariableFile.isAutomatic name || 
    ".toml".toList.isSuffixOf name.toList

def files (args : List String) : List Path :=
  match CommandLine.read args with
  | .error _ => []
  | .ok line => line.flags.variableFiles

-- The program: reads its arguments, does what they say, and shows what came of it.
def run (args : List String) (w : World) : Transcript :=
  match CommandLine.read args with
  | .error stop => .ofStop stop
  | .ok line    => 
    let (events, exitCode) := CommandLine.report (line.run w)
    .ofEvents line.flags.plain events exitCode

end Program
end Rollout
