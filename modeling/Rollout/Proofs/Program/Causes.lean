import Rollout.Proofs.CommandContext.Surfacing
import Rollout.Proofs.Dispatch.Candidates
import Rollout.Proofs.Failure
import Rollout.Proofs.Program.Preparation
import Rollout.Proofs.Program.Report
namespace Rollout

open Traced (Surfaces)

variable {d : Dispatcher} {s : Server} {f : Failure} {ev : Event}

namespace Dispatcher

theorem surfaces_report {α : Type} {x : Traced Failure α} {answer? : Event → Option Failure}
    (h : Surfaces answer? (fun _ f => f) (fun _ => []) x) (he : ∀ m, answer? (.error m) = none) : 
    Surfaces answer? (fun _ _ => .alreadyReported) (fun f => [.error f.full]) (report x) := by
  unfold report
  split
  case h_1 a hr =>
    refine .of_unanswered fun ev hm => Option.eq_none_iff_forall_ne_some.mpr fun f hf => ?_
    cases hr.symm.trans (h.stops ev hm f hf)
  case h_2 g hr =>
    have same : ∀ ev ∈ x.events ++ [.error g.full], ∀ f, answer? ev = some f → f = g := by
      intro ev hm f hf
      cases List.mem_append.mp hm
      case inl hm => cases hr.symm.trans (h.stops ev hm f hf); rfl
      case inr hm => cases ((List.mem_singleton.mp hm ▸ he g.full).symm.trans hf)
    constructor <;> intro ev hm f hf
    case stops  => rfl
    case speaks => exact same ev hm f hf ▸ List.suffix_append _ _

theorem surfaces_reject {α : Type} (message : String) : 
    Surfaces s.failure? (fun _ _ => .alreadyReported) (fun f => [.error f.full]) 
      (reject message : Traced OperationError α) :=
  .of_unanswered (by simp [reject, Server.failure?])

theorem surfaces_listed (hs : d.server = some s) : 
    Surfaces s.failure? (fun _ _ => .alreadyReported) (fun f => [.error f.full]) d.listed := by
  cases hf : d.context.flagProject
  case none   =>
    rw [listed_of_noFlagProject hf]
    exact .pure _
  case some p =>
    rw [listed_of_flagProject hf, hs]
    have asked : Surfaces s.failure? (fun _ f => f) (fun _ => []) 
        (Traced.asked (.askedProject p.name) (s.project p)) := 
      .asked fun _ => Server.failure?_askedProject.mp
    refine .bind (surfaces_report asked fun _ => rfl) fun project _ => ?_
    have decided := Routing.surfaces_decide (s := s) project fun _ => 
      Server.failure?_askedProfiles.mp
    refine .bind (surfaces_report decided fun _ => rfl) fun routing _ => ?_
    refine .bind (.of_unanswered (by simp [Traced.emit, Server.failure?])) fun _ _ => ?_
    exact .bind (surfaces_report (.of_silent rfl) fun _ => rfl) fun _ _ => .pure _

theorem surfaces_choose (listed : List AppRef) : 
    Surfaces s.failure? (fun _ _ => .alreadyReported) (fun f => [.error f.full]) 
      (d.choose listed) := by
  unfold choose
  split
  case h_1 => exact .pure _
  case h_2 =>
    split
    case h_1 => exact surfaces_reject _
    case h_2 => exact surfaces_report (.of_silent rfl) fun _ => rfl
  case h_3 =>
    split
    case h_1 => exact surfaces_report (.of_silent rfl) fun _ => rfl
    case h_2 => exact .pure _

-- A server that fails while apps are being planned for is quoted in full, and nothing else follows.
theorem surfaces_plan (hs : d.server = some s) : 
    Surfaces s.failure? (fun _ _ => .alreadyReported) (fun f => [.error f.full]) d.plan :=
  .bind (surfaces_listed hs) fun _ _ => .bind (surfaces_choose _) fun _ _ => .pure _

end Dispatcher

namespace CommandLine

-- The last that is shown is an error, with all messages of a failure in their order.
def Tells (f : Failure) (shown : List Event × Nat) : Prop :=
  ∃ before text, shown.1 = before ++ [.error text] ∧ Text.InOrder f.messages text

theorem tells_append_iff {before : List Event} {text : String} {code : Nat} : 
    Tells f (before ++ [.error text], code) ↔ Text.InOrder f.messages text := by
  constructor
  case mp  =>
    rintro ⟨_, _, he, h⟩
    have ⟨_, he⟩ := List.append_inj' he rfl
    cases he
    exact h
  case mpr => exact fun h => ⟨before, text, rfl, h⟩

theorem report_of_init {x : Traced RunError Unit} {e : InitError} (h : x.result = .error (.init e)) : 
    report x = (x.events ++ [.error e.message], e.exitCode) :=
  report_of_error h

-- How much of a failure is told depends on who has failed.
theorem inOrder_carrying_iff : 
    Text.InOrder f.messages (InitError.carrying ev f).message ↔ 
      InitError.carrying ev f ≠ .collaborator f ∨ ∀ m ∈ f.messages.tail, m = "" := by
  have whole (lead : String) : Text.InOrder f.messages (lead ++ f.full) := 
    f.inOrder_full.append_left lead
  have first : Text.InOrder f.messages f.outermost ↔ 
      InitError.collaborator f ≠ .collaborator f ∨ ∀ m ∈ f.messages.tail, m = "" := by
    rw [Failure.inOrder_outermost_iff]
    exact (or_iff_right (absurd rfl ·)).symm
  cases ev
  case askedConfig => exact iff_of_true (whole _) (.inl nofun)
  case listedFiles => exact iff_of_true (whole _) (.inl nofun)
  case readFile    => exact iff_of_true (whole _) (.inl nofun)
  all_goals exact first

-- What has been shown already is not shown again.
theorem report_of_alreadyReported {x : Traced RunError Unit} 
    (h : x.result = .error (.dispatch .alreadyReported)) : report x = (x.events, 1) := by
  rw [report_of_error h]
  simp [RunError.message?, RunError.exitCode, DispatchError.isAlreadyReported]

theorem report_runInspect {e : OperationError} (h : d.plan.result = .error e) : 
    report (Command.runInspect d) = (d.plan.events, 1) := by
  rw [Command.runInspect_of_error h]
  exact report_of_alreadyReported rfl

theorem report_runTargets {e : OperationError} (h : d.plan.result = .error e) : 
    report (Command.runTargets d) = (d.plan.events, 1) := by
  rw [Command.runTargets_of_error h]
  exact report_of_alreadyReported rfl

-- Whoever fails, nothing is done after that, and the user is told. While a command is being prepared the
-- whole chain is told of files that cannot be used, but of a store or a server only the outermost message. 
-- While apps are being planned for, the server is quoted in full.
theorem causes_told (f : Failure) (ev : Event) : 
    (∀ inv demands env, ev ∈ (CommandContext.init inv demands env).events → 
      env.failure? ev = some f → 
        (CommandContext.init inv demands env).result = .error (.carrying ev f) ∧ 
        ∀ x : Traced RunError Unit, x.result = .error (.init (.carrying ev f)) → 
          (Tells f (report x) ↔ 
            InitError.carrying ev f ≠ .collaborator f ∨ ∀ m ∈ f.messages.tail, m = "")) ∧ 
    ∀ (d : Dispatcher) s, d.server = some s → ev ∈ d.plan.events → s.failure? ev = some f → 
      Tells f (report (Command.runInspect d)) ∧ Tells f (report (Command.runTargets d)) := by
  constructor
  case left  =>
    intro inv demands env hm hf
    refine ⟨(CommandContext.surfaces_init inv demands env).stops ev hm f hf, fun x hx => ?_⟩
    rw [report_of_init hx, tells_append_iff, inOrder_carrying_iff]
  case right =>
    intro d s hs hm hf
    have surfaces := Dispatcher.surfaces_plan hs
    have stopped := surfaces.stops ev hm f hf
    have ⟨before, shown⟩ := surfaces.speaks ev hm f hf
    rw [report_runInspect stopped, report_runTargets stopped, ← shown, tells_append_iff]
    exact ⟨f.inOrder_full, f.inOrder_full⟩

-- The same server fails for a target that an argument names, and for a project that a flag names.
theorem causes_told_shop : 
    let s := Server.unusable "http://h:1"
    let f : Failure := ⟨[.get "http://h:1/v1/projects/shop"], .unusableUrl⟩ 
    let inv : Invocation := { args := ["shop"] }
    let env : Collaborators := {
      files := { nodes := [] }, config := .ok none, contexts := ⟨.ok none, fun _ => .error f⟩ 
      server := some s 
    }
    let context : CommandContext := {
      workspace := .default, target := .nothing, explicit := false, args := [], values := ⟨[]⟩, labels := []
      remoteSource := [], remote := false, plain := false, flagProject := some ⟨"shop", by decide⟩ 
      flagApp := none, config := none 
    }
    (CommandContext.init inv ⟨.appOptional, .skip, true⟩ env).result = .error (.collaborator f) ∧ 
      ¬Tells f (report ⟨[], .error (.init (.collaborator f))⟩) ∧ 
      Tells f (report (Command.runInspect ⟨context, some s, none⟩)) := by
  intro s f inv env context
  have ⟨prepared, planned⟩ := causes_told f (.askedProject "shop")
  have ⟨stopped, told⟩ := prepared inv ⟨.appOptional, .skip, true⟩ env (by decide +kernel) 
    (by decide +kernel)
  have ⟨quoted, _⟩ := planned ⟨context, some s, none⟩ s rfl (by decide +kernel) (by decide +kernel)
  exact ⟨stopped, fun h => absurd ((told _ rfl).mp h) (by decide +kernel), quoted⟩

-- A directory stands in the place of the default context. That it is one is told only if the context is 
-- read for the connection in it.
theorem directory_untold : 
    let w : World := {
      files := { nodes := [(["config"], .directory), (["context", "config"], .directory), 
        ([".default", "context", "config"], .file (.text "prod\n")), 
        (["prod.toml", "context", "config"], .directory)] }
      environment := ⟨[("DEPLOYCTL_CONFIG_DIR", "/config")]⟩ 
      workingDir  := .ok ⟨"/"⟩ 
      serverAt    := Server.unusable
    }
    let f : Failure := ⟨[.read ⟨"/config/context/prod.toml"⟩], .file .isADirectory⟩ 
    let line : CommandLine := ⟨.context, { serverAddress := some "h:1" }, []⟩ 
    (contexts w).load "prod" = .error f ∧ .askedContext "prod" ∈ (line.run w).events ∧ 
      ¬Tells f (report (line.run w)) ∧ 
      Program.run ["context", "--server-addr", "h:1"] w = ⟨1, "", "! read /config/context/prod.toml\n"⟩ ∧ 
      Program.run ["context"] w = 
        ⟨1, "", "! read /config/context/prod.toml: Is a directory (os error 21)\n"⟩ := by
  intro w f line
  have shown : report (line.run w) = 
      ([.askedDefault, .askedContext "prod"] ++ [.error f.outermost], 1) := by decide +kernel
  refine ⟨by decide +kernel, by decide +kernel, ?_, by decide +kernel, by decide +kernel⟩
  rw [shown, tells_append_iff, Failure.inOrder_outermost_iff]
  decide +kernel

end CommandLine
end Rollout
