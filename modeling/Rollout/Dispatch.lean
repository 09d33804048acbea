import Rollout.CommandContext
import Rollout.Outcome
namespace Rollout

-- An app that an operation is applied to.
structure AppHandle where
  app       : AppRef
  workspace : WorkspaceRef
  deriving DecidableEq

-- What every call of an operation can rely on.
structure OperationContext where
  -- Whether the run has been canceled when the call starts.
  canceled  : Bool
  mode      : RunnerMode
  workspace : WorkspaceRef
  -- The runner on this machine, if it is the one that the operations run on.
  runner    : Option String
  deriving DecidableEq

-- How an operation ended, and whether it asked for the run to be canceled.
structure Reply where
  result  : Except OperationError Unit
  cancels : Bool := false

-- What is done to each app. The state stands for everything that an operation reads and changes.
abbrev Operation (σ : Type) := OperationContext → AppHandle → σ → Reply × σ

-- How a run ended, whether it was canceled, and the state it left behind.
structure Run (σ : Type) where
  outcome  : DispatchOutcome
  canceled : Bool
  state    : σ

structure Plan where
  mode   : RunnerMode
  tasks  : List AppHandle
  runner : Option String
  deriving DecidableEq

namespace Plan

-- Applies an operation to one app after the other. Before each of them the signal is looked at, and
-- once it is set no further app is touched.
def executeFrom (p : Plan) (w : WorkspaceRef) (op : Operation σ) : 
    List AppHandle → Aggregate → Bool → σ → Run σ
  | [],        a, canceled, s => ⟨a.finish, canceled, s⟩ 
  | _ :: _,    a, true,     s => ⟨.canceled a, true, s⟩ 
  | h :: rest, a, false,    s =>
    let (reply, s) := op ⟨false, p.mode, w, p.runner⟩ h s
    p.executeFrom w op rest (a.record (.ofResult reply.result)) reply.cancels s

def execute (p : Plan) (w : WorkspaceRef) (op : Operation σ) (canceled : Bool) (s : σ) : Run σ :=
  p.executeFrom w op p.tasks {} canceled s

end Plan

-- A command that is about to operate on apps.
structure Dispatcher where
  context : CommandContext
  server  : Option Server
  -- A runner that has been started on this machine.
  runner  : Option String := none

namespace Dispatcher

-- Shows a message to the user and gives up.
def reject (message : String) : Traced OperationError α where
  events := [.error message]
  result := .error .alreadyReported

-- A failure is shown as soon as it occurs.
def report (x : Traced Failure α) : Traced OperationError α :=
  match x.result with
  | .ok a    => ⟨x.events, .ok a⟩ 
  | .error f => ⟨x.events ++ [.error f.full], .error .alreadyReported⟩ 

def announcement : RunnerMode → String
  | .here   => "Using local runner"
  | .remote => "Using remote runner"

-- The apps of those names in a project, up to the first name that is blank.
def appsOf (p : ProjectRef) : List String → Except Failure (List AppRef)
  | []            => .ok []
  | name :: names => do
    let a ← Failure.because .ref (p.app name)
    let rest ← appsOf p names
    return a :: rest

-- Where the operations run unless a flag names the project.
def ownMode (c : CommandContext) : RunnerMode :=
  if c.explicit || c.remote then .remote else .here

-- Asks the server where the operations of a project run and what its apps are.
def survey (server : Option Server) (p : ProjectRef) : 
    Traced OperationError (RunnerMode × List AppRef) :=
  match server with
  | none   => reject <|
    "Listing the apps of project '" ++ p.name ++ "' requires a server connection; " ++
    "set --server-addr or a default context."
  | some s => do
    let project ← report (Traced.asked (.askedProject p.name) (s.project p))
    let routing ← report (Routing.decide s project)
    Traced.emit (.output (announcement routing.mode))
    let apps ← report (Traced.of (appsOf p project.apps))
    return (routing.mode, apps)

-- Where the operations run, and the apps that the server lists if a flag names the project.
def listed (d : Dispatcher) : Traced OperationError (RunnerMode × List AppRef) :=
  match d.context.flagProject with
  | none   => pure (ownMode d.context, [])
  | some p => survey d.server p

-- The project that apps without one belong to.
def project? (d : Dispatcher) : Option ProjectRef :=
  d.context.flagProject.or d.context.target.project?

-- The apps to operate on. A target or a flag that names an app overrides all lists, and the apps of
-- the configuration stand in for an empty one.
def choose (d : Dispatcher) (listed : List AppRef) : Traced OperationError (List AppRef) :=
  match d.context.target.app?, d.context.flagApp with
  | some a, _         => pure [a]
  | none,   some name =>
    match d.project? with
    | none   => reject "No project targeted; specify --project or a \"project/app\" argument."
    | some p => report (Traced.of (appsOf p [name]))
  | none,   none      =>
    match listed, d.context.config, d.project? with
    | [], some c, some p => report (Traced.of (appsOf p c.config.apps))
    | apps, _, _         => pure apps

-- The apps to operate on and where that happens. Whatever goes wrong has been shown to the user.
def plan (d : Dispatcher) : Traced OperationError Plan := do
  let (mode, apps) ← d.listed
  let chosen ← d.choose apps
  return {
    mode   := mode
    tasks  := chosen.map (⟨·, d.context.workspace⟩)
    runner := if mode = .here then d.runner else none
  }

-- Plans, and then applies an operation to each app. The operation is not called if there is no plan.
def dispatch (d : Dispatcher) (op : Operation σ) (canceled : Bool) (s : σ) : Run σ :=
  match d.plan.result with
  | .ok p    => p.execute d.context.workspace op canceled s
  | .error e => ⟨.reduce [.ofResult (.error e)], canceled, s⟩ 

end Dispatcher
end Rollout
