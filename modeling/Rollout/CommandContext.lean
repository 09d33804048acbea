import Rollout.Flags
import Rollout.InitError
import Rollout.KeyOrder
import Rollout.Precedence
import Rollout.VariableFile
namespace Rollout

-- What an invocation of a command brings along.
structure Invocation where
  flags       : Flags := {}
  args        : List String := []
  -- The names of all flags that the command knows.
  recognized  : List String := []
  -- The workspace and the variables that the environment sets.
  workspace   : Option String := none
  environment : List (String × String) := []

-- What a command demands before it starts.
structure Demands where
  target   : TargetMode := .free
  config   : ConfigPolicy := .load
  -- Whether a project that is targeted explicitly must be able to run remotely.
  runnable : Bool := false
  deriving DecidableEq, Repr

-- What can be consulted while a command is being prepared.
structure Collaborators where
  files    : FileTree
  config   : Except Failure (Option LoadedConfig)
  contexts : ContextStore
  server   : Option Server

-- All that a command knows when it starts. Nothing in it changes later.
structure CommandContext where
  workspace    : WorkspaceRef
  target       : Target
  explicit     : Bool
  args         : List String
  values       : Variables
  -- In order of their names.
  labels       : List (String × String)
  remoteSource : List (String × String)
  remote       : Bool
  plain        : Bool
  -- The flags as they were written, unless they are blank. Every other name makes up a project.
  flagProject  : Option ProjectRef
  flagApp      : Option String
  config       : Option LoadedConfig

namespace CommandContext

def toJson (c : CommandContext) : Json.Value :=
  let optional (s : Option String) : Json.Value := s.elim .null .string
  let table (pairs : List (String × String)) : Json.Value := 
    .object (pairs.map fun (name, value) => (name, .string value))
  .object [
    ("workspace", .string c.workspace.name),
    ("project", optional (c.target.project?.map (·.name))),
    ("app", c.target.app?.elim .null fun a => 
      .object [("project", .string a.project), ("app", .string a.app)]),
    ("requires_runner", .boolean c.explicit),
    ("args", .array (c.args.map .string)),
    ("variables", c.values.toJson),
    ("labels", table c.labels),
    ("remote_source", table c.remoteSource),
    ("remote", .boolean c.remote),
    ("plain", .boolean c.plain),
    ("flag_project", optional (c.flagProject.map (·.name))),
    ("flag_app", optional c.flagApp),
    ("config_path", optional (c.config.map (·.path.text)))]

-- Reads variable files in order, up to the first one that cannot be read.
def readFiles (t : FileTree) : List Path → Traced Failure (List (Path × List (String × String)))
  | []      => pure []
  | p :: ps => do
    let pairs ← Traced.asked (.readFile p) (VariableFile.read t p)
    let rest ← readFiles t ps
    return (p, pairs) :: rest

-- The files that a configuration brings along without naming them.
def automaticFiles (t : FileTree) : Option LoadedConfig → Traced Failure (List Path)
  | none   => pure []
  | some c => Traced.asked (.listedFiles c.dir) (VariableFile.automatic t c.dir)

-- Named files come after the ones that the configuration brings along, and so win over them.
def loadVariables (t : FileTree) (config : Option LoadedConfig) (inv : Invocation) : 
    Traced InitError Variables := do
  let automatic ← (automaticFiles t config).mapError .variableFile
  let files ← (readFiles t (automatic ++ inv.flags.variableFiles)).mapError .variableFile
  let flags := inv.flags.assignments.map fun a => (a.key, a.value)
  (Traced.of (Variables.merge ⟨inv.environment, files, flags⟩)).mapError .unnamed

-- Remote operations without an explicit app must be enabled in the configuration. Commands whose
-- target is optional decide about that later.
def checkRemote (demands : Demands) (flags : Flags) (r : Resolution) : Except InitError Unit :=
  if demands.target ≠ .appOptional && flags.remote && r.target.app?.isNone && 
    !r.config.any (·.config.runnerEnabled) then .error .remoteUnsupported
  else .ok ()

-- Whether the server is able to run operations of a project remotely. Without a server nothing is 
-- checked.
def checkRunner (server : Option Server) (p : ProjectRef) : Traced InitError Unit :=
  match server with
  | none   => pure ()
  | some s => do
    let project ← (Traced.asked (.askedProject p.name) (s.project p)).mapError .collaborator
    let routing ← (Routing.decide s project).mapError .collaborator
    if routing.mode = .remote then pure () else Traced.fail (.runnerUnavailable p.name routing)

def checkExplicit (demands : Demands) (server : Option Server) (r : Resolution) : 
    Traced InitError Unit :=
  match r.target.project? with
  | some p => if r.explicit && demands.runnable then checkRunner server p else pure ()
  | none   => pure ()

def pairsOf (assignments : List Assignment) : List (String × String) :=
  KeyOrder.ofList (assignments.map fun a => (a.key, a.value))

-- Prepares a command, stage by stage. A stage that fails ends the preparation, and no later stage
-- consults anything.
def init (inv : Invocation) (demands : Demands) (env : Collaborators) : 
    Traced InitError CommandContext := do
  (Traced.of (FlagOrder.check inv.args inv.recognized)).mapError .misplacedFlags
  let workspace ← (WorkspaceRef.resolve inv.flags.workspace inv.workspace env.contexts).mapError 
    .collaborator
  let r ← (Target.resolve demands.target demands.config ⟨inv.flags.project, inv.flags.app⟩ env.config 
    inv.args).mapError .target
  let values ← loadVariables env.files r.config inv
  Traced.of (checkRemote demands inv.flags r)
  checkExplicit demands env.server r
  return {
    workspace    := workspace
    target       := r.target
    explicit     := r.explicit
    args         := r.args
    values       := values
    labels       := pairsOf inv.flags.labels
    remoteSource := pairsOf inv.flags.remoteSource
    remote       := inv.flags.remote
    plain        := inv.flags.plain
    flagProject  := do (ProjectRef.ofName (← Text.verbatim? inv.flags.project)).toOption
    flagApp      := Text.verbatim? inv.flags.app
    config       := r.config
  }

end CommandContext
end Rollout
