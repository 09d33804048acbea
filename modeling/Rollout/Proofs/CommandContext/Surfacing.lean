import Rollout.Proofs.CommandContext.Footprint
import Rollout.Proofs.Ref
import Rollout.Proofs.Trace.Surfacing
namespace Rollout

open Traced (Surfaces)

variable {α : Type} {f : Failure} {s : Server} {p : ProjectRef} {ev : Event}

def Failure.of? : Except Failure α → Option Failure
  | .ok _    => none
  | .error f => some f

theorem Failure.of?_eq_some_iff {x : Except Failure α} : of? x = some f ↔ x = .error f := by
  cases x <;> simp [of?]

namespace Server

-- The failure that a server answers a question with, if it does.
def failure? (s : Server) : Event → Option Failure
  | .askedProject name => (ProjectRef.ofName name).toOption.bind fun p => Failure.of? (s.project p)
  | .askedProfiles     => Failure.of? s.profiles
  | _                  => none

theorem failure?_askedProject : s.failure? (.askedProject p.name) = some f ↔ s.project p = .error f := by
  simp [failure?, Except.toOption, Failure.of?_eq_some_iff]

theorem failure?_askedProfiles : s.failure? .askedProfiles = some f ↔ s.profiles = .error f :=
  Failure.of?_eq_some_iff

end Server

theorem Routing.surfaces_decide {answer? : Event → Option Failure} (project : Project)
    (h : ∀ f, answer? .askedProfiles = some f → s.profiles = .error f) : 
    Surfaces answer? (fun _ f => f) (fun _ => []) (decide s project) := by
  by_cases hu : project.Undecided
  case pos => 
    rw [decide_of_undecided hu]
    exact .bind (.asked h) fun _ _ => .pure _
  case neg => 
    have ⟨_, hr⟩ := decide_of_decided hu
    rw [hr]
    exact .pure _

-- The failure that a question is answered with while a command is being prepared.
def Collaborators.failure? (env : Collaborators) : Event → Option Failure
  | .askedDefault      => Failure.of? env.contexts.default
  | .askedContext name => Failure.of? (env.contexts.load name)
  | .askedConfig       => Failure.of? env.config
  | .listedFiles dir   => Failure.of? (VariableFile.automatic env.files dir)
  | .readFile p        => Failure.of? (VariableFile.read env.files p)
  | ev                 => env.server.bind (·.failure? ev)

-- The error that a failure leaves a preparation as. It depends on who has failed.
def InitError.carrying : Event → Failure → InitError
  | .askedConfig,   f => .target (.config f)
  | .listedFiles _, f => .variableFile f
  | .readFile _,    f => .variableFile f
  | _,              f => .collaborator f

namespace CommandContext

variable {inv : Invocation} {demands : Demands} {env : Collaborators}

namespace Stage

theorem carrying_workspace (h : ofEvent? ev = some workspace) : 
    InitError.collaborator f = .carrying ev f := by
  cases ev <;> first | rfl | cases h

theorem carrying_target (h : ofEvent? ev = some target) : 
    InitError.target (.config f) = .carrying ev f := by
  cases ev <;> first | rfl | cases h

theorem carrying_values (h : ofEvent? ev = some values) : 
    InitError.variableFile f = .carrying ev f := by
  cases ev <;> first | rfl | cases h

theorem carrying_runner (h : ofEvent? ev = some runner) : 
    InitError.collaborator f = .carrying ev f := by
  cases ev <;> first | rfl | cases h

end Stage

theorem surfaces_current : 
    Surfaces env.failure? (fun _ f => f) (fun _ => []) env.contexts.current := by
  refine .bind (.asked fun _ => Failure.of?_eq_some_iff.mp) fun name? _ => ?_
  cases name?
  case none      => exact .pure _
  case some name => exact .bind (.asked fun _ => Failure.of?_eq_some_iff.mp) fun _ _ => .pure _

theorem surfaces_resolve_workspace (flag environment : Option String) : 
    Surfaces env.failure? (fun _ f => f) (fun _ => []) 
      (WorkspaceRef.resolve flag environment env.contexts) := by
  unfold WorkspaceRef.resolve
  split
  case h_1 => exact .pure _
  case h_2 => exact .bind surfaces_current fun _ _ => .pure _

theorem surfaces_resolution : 
    Surfaces env.failure? (fun _ f => .config f) (fun _ => []) (resolution inv demands env) := by
  refine .bind (.of_silent rfl) fun positional _ => ?_
  unfold Target.resolveFrom
  split
  case isTrue  => exact .pure _
  case isFalse =>
    have searched : Surfaces env.failure? (fun _ f => f) (fun _ => []) 
        (Traced.asked .askedConfig env.config) := .asked fun _ => Failure.of?_eq_some_iff.mp
    refine .bind (searched.mapError fun _ _ _ => rfl) fun config _ => ?_
    cases config
    case some loaded =>
      refine .bind (.of_silent rfl) fun _ _ => ?_
      split
      · exact .pure _
      · exact .bind (.of_silent rfl) fun _ _ => .pure _
    case none        => 
      simp only
      split
      · exact .pure _
      · exact .of_silent rfl

theorem surfaces_automaticFiles (config : Option LoadedConfig) : 
    Surfaces env.failure? (fun _ f => f) (fun _ => []) (automaticFiles env.files config) := by
  cases config
  case none      => exact .pure _
  case some conf => exact .asked fun _ => Failure.of?_eq_some_iff.mp

theorem surfaces_readFiles (ps : List Path) : 
    Surfaces env.failure? (fun _ f => f) (fun _ => []) (readFiles env.files ps) := by
  induction ps
  case nil          => exact .pure _
  case cons p ps hi =>
    refine .bind (.asked fun _ => Failure.of?_eq_some_iff.mp) fun _ _ => ?_
    exact .bind hi fun _ _ => .pure _

theorem surfaces_loadVariables (config : Option LoadedConfig) : 
    Surfaces env.failure? InitError.carrying (fun _ => []) (loadVariables env.files config inv) := by
  refine .bind ?_ fun automatic _ => .bind ?_ fun files _ => .of_silent rfl
  case refine_1 => 
    exact (surfaces_automaticFiles config).mapError fun ev hm _ => 
      Stage.carrying_values (events_automaticFiles _ _ ev hm)
  case refine_2 => 
    exact (surfaces_readFiles _).mapError fun ev hm _ => 
      Stage.carrying_values (events_readFiles _ _ ev hm)

theorem surfaces_checkRunner (hs : env.server = some s) : 
    Surfaces env.failure? InitError.carrying (fun _ => []) (checkRunner (some s) p) := by
  have answer : env.failure? (.askedProject p.name) = s.failure? (.askedProject p.name) := by 
    simp [Collaborators.failure?, hs]
  have profiles : env.failure? .askedProfiles = s.failure? .askedProfiles := by 
    simp [Collaborators.failure?, hs]
  have project : Surfaces env.failure? (fun _ f => f) (fun _ => []) 
      (Traced.asked (.askedProject p.name) (s.project p)) := 
    .asked fun f hf => Server.failure?_askedProject.mp (answer.symm.trans hf)
  refine .bind (project.mapError fun ev hm _ => ?_) fun project _ => ?_
  case refine_1 => rw [List.mem_singleton.mp hm]; rfl
  case refine_2 =>
    have decided := Routing.surfaces_decide project fun f hf => 
      Server.failure?_askedProfiles.mp (profiles.symm.trans hf)
    refine .bind (decided.mapError fun ev hm _ => ?_) fun routing _ => ?_
    case refine_1 => exact Stage.carrying_runner (events_decide s project ev hm)
    case refine_2 => split <;> exact .of_silent rfl

theorem surfaces_checkExplicit (r : Resolution) : 
    Surfaces env.failure? InitError.carrying (fun _ => []) (checkExplicit demands env.server r) := by
  unfold checkExplicit
  split
  case h_2 => exact .pure _
  case h_1 =>
    split
    case isFalse => exact .pure _
    case isTrue  =>
      cases hs : env.server
      case none   => exact .pure _
      case some s => exact surfaces_checkRunner hs

-- Whoever fails while a command is being prepared, the preparation ends there and with that failure.
theorem surfaces_init (inv : Invocation) (demands : Demands) (env : Collaborators) : 
    Surfaces env.failure? InitError.carrying (fun _ => []) (init inv demands env) := by
  refine .bind (.of_silent rfl) fun _ _ => ?_
  refine .bind ?workspace fun w _ => .bind ?target fun r _ => .bind ?values fun v _ => ?_
  case workspace =>
    exact (surfaces_resolve_workspace _ _).mapError fun ev hm _ => 
      Stage.carrying_workspace (events_resolve_workspace _ _ _ ev hm)
  case target    =>
    exact surfaces_resolution.mapError fun ev hm _ => Stage.carrying_target (events_resolution ev hm)
  case values    => exact surfaces_loadVariables r.config
  exact .bind (.of_silent rfl) fun _ _ => .bind (surfaces_checkExplicit r) fun _ _ => .pure _

end CommandContext
end Rollout
