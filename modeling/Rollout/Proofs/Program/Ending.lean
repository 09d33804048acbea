import Rollout.Proofs.Dispatch.Refusal
import Rollout.Proofs.Program.Preparation
namespace Rollout

namespace Command

variable {d : Dispatcher} {p : Plan} {e : OperationError}

theorem result_printContext_of_text {isText : Path → Bool} {c : CommandContext} {json : Bool} 
    (h : json → ∀ p ∈ paths c, isText p) : (printContext isText c json).result = .ok () := by
  cases json
  case false => rfl
  case true  => rw [printContext, if_pos rfl, if_pos (List.all_eq_true.mpr (h rfl))]

theorem printContext_of_notText {isText : Path → Bool} {c : CommandContext} {p : Path} (hm : p ∈ paths c) 
    (h : ¬isText p) : 
    printContext isText c true = Traced.fail (.failure
      ⟨[.other "serialize context"], .other "path contains invalid UTF-8 characters"⟩) := by
  rw [printContext, if_pos rfl, if_neg fun ha => h (List.all_eq_true.mp ha p hm)]

-- Showing each target never fails.
theorem executeFrom_listTarget {p : Plan} {w : WorkspaceRef} (tasks : List AppHandle) 
    {a : Aggregate} (ha : a.finish = .succeeded) (shown : List Event) : 
    p.executeFrom w listTarget tasks a false shown = 
      ⟨.succeeded, false, 
        shown ++ tasks.map fun h => .output (targetLine ⟨false, p.mode, w, p.runner⟩ h)⟩ := by
  induction tasks generalizing a shown
  case nil            => simp [Plan.executeFrom, ha]
  case cons h rest hi =>
    have hr : (a.record .succeeded).finish = .succeeded := by
      simpa [Aggregate.finish, Aggregate.record, AppOutcome.failure?] using ha
    simp [Plan.executeFrom, listTarget, AppOutcome.ofResult, hi hr]

theorem execute_listTarget (p : Plan) (w : WorkspaceRef) : 
    p.execute w listTarget false [] = 
      ⟨.succeeded, false, p.tasks.map fun h => .output (targetLine ⟨false, p.mode, w, p.runner⟩ h)⟩ :=
  executeFrom_listTarget p.tasks rfl []

theorem runInspect_of_ok (h : d.plan.result = .ok p) : 
    runInspect d = 
      ⟨d.plan.events ++ p.tasks.map fun h => .output (inspectLine p.mode h), .ok ()⟩ := by
  rw [runInspect, Traced.mapError_bind_of_ok h]

theorem runInspect_of_error (h : d.plan.result = .error e) : 
    runInspect d = ⟨d.plan.events, .error (.dispatch .alreadyReported)⟩ := by
  rw [runInspect, Traced.mapError_bind_of_error h, Dispatcher.eq_alreadyReported_of_plan e h]
  rfl

theorem runTargets_of_ok (h : d.plan.result = .ok p) : 
    runTargets d = 
      let context : OperationContext := ⟨false, p.mode, d.context.workspace, p.runner⟩ 
      ⟨d.plan.events ++ p.tasks.map fun h => .output (targetLine context h), .ok ()⟩ := by
  simp only [runTargets, Dispatcher.dispatch_of_ok h, execute_listTarget]
  rfl

theorem runTargets_of_error (h : d.plan.result = .error e) : 
    runTargets d = ⟨d.plan.events, .error (.dispatch .alreadyReported)⟩ := by
  cases Dispatcher.eq_alreadyReported_of_plan e h
  simp only [runTargets, Dispatcher.dispatch_of_error h, List.append_nil]
  rfl

end Command

namespace CommandLine

-- How a prepared command ends.
inductive Performs (line : CommandLine) (w : World) (s : Setting) (c : CommandContext) : 
    Except RunError Unit → Prop
  | printed (command : line.command = .context) 
    (text : line.flags.json → ∀ p ∈ Command.paths c, w.isText p) : Performs line w s c (.ok ())
  | unwritable {p} (command : line.command = .context) (json : line.flags.json) 
    (path : p ∈ Command.paths c) (notText : ¬w.isText p) : 
    Performs line w s c (.error (.failure
      ⟨[.other "serialize context"], .other "path contains invalid UTF-8 characters"⟩))
  | planned {p} (command : line.command ≠ .context) (plan : (dispatcher w s c).plan.result = .ok p) : 
    Performs line w s c (.ok ())
  -- Whatever stands in the way of a plan has been shown.
  | unplanned {e} (command : line.command ≠ .context) 
    (plan : (dispatcher w s c).plan.result = .error e) : 
    Performs line w s c (.error (.dispatch .alreadyReported))

-- How a run ends.
inductive Ends (line : CommandLine) (w : World) : Except RunError Unit → Prop
  | misplaced {m} (placement : FlagOrder.check line.args (recognized line.command) = .error m) : 
    Ends line w (.error (.init (.misplacedFlags m)))
  | unsettled {e} (placement : FlagOrder.check line.args (recognized line.command) = .ok ())
    (unsettled : Unsettled line w e) : Ends line w (.error e)
  | unprepared {s e} (placement : FlagOrder.check line.args (recognized line.command) = .ok ())
    (settles : Settles line w s) (preparation : (line.preparation w s).result = .error e) : 
    Ends line w (.error (.init e))
  | performed {s c r} (placement : FlagOrder.check line.args (recognized line.command) = .ok ())
    (settles : Settles line w s) (preparation : (line.preparation w s).result = .ok c) 
    (performs : Performs line w s c r) : Ends line w r

variable {line : CommandLine} {w : World} {s : Setting} {c : CommandContext} {r : Except RunError Unit}

theorem perform_of_context (h : line.command = .context) : 
    line.perform w s c = Command.printContext w.isText c line.flags.json := by
  rw [perform, h]

theorem perform_of_planned {p : Plan} (hc : line.command ≠ .context) 
    (h : (dispatcher w s c).plan.result = .ok p) : (line.perform w s c).result = .ok () := by
  unfold perform
  split
  case h_1 => contradiction
  case h_2 => exact congrArg Traced.result (Command.runInspect_of_ok h)
  case h_3 => exact congrArg Traced.result (Command.runTargets_of_ok h)

theorem perform_of_unplanned {e : OperationError} (hc : line.command ≠ .context) 
    (h : (dispatcher w s c).plan.result = .error e) : 
    (line.perform w s c).result = .error (.dispatch .alreadyReported) := by
  unfold perform
  split
  case h_1 => contradiction
  case h_2 => exact congrArg Traced.result (Command.runInspect_of_error h)
  case h_3 => exact congrArg Traced.result (Command.runTargets_of_error h)

theorem Performs.result_perform (h : Performs line w s c r) : (line.perform w s c).result = r := by
  cases h
  case printed command text                 => 
    rw [perform_of_context command, Command.result_printContext_of_text text]
  case unwritable command json path notText => 
    rw [perform_of_context command, json, Command.printContext_of_notText path notText]
    rfl
  case planned command plan                 => exact perform_of_planned command plan
  case unplanned command plan               => exact perform_of_unplanned command plan

theorem performs_perform (line : CommandLine) (w : World) (s : Setting) (c : CommandContext) : 
    Performs line w s c (line.perform w s c).result := by
  by_cases command : line.command = .context
  case pos =>
    by_cases text : line.flags.json → ∀ p ∈ Command.paths c, w.isText p
    case pos => 
      have printed : Performs line w s c _ := .printed command text
      exact printed.result_perform ▸ printed
    case neg =>
      simp only [Classical.not_imp, not_forall] at text
      have ⟨json, _, path, notText⟩ := text
      have unwritable : Performs line w s c _ := .unwritable command json path notText
      exact unwritable.result_perform ▸ unwritable
  case neg =>
    cases plan : (dispatcher w s c).plan.result
    case ok      => exact perform_of_planned command plan ▸ .planned command plan
    case error e => exact perform_of_unplanned command plan ▸ .unplanned command plan

-- Every run ends in one of these ways.
theorem ends_run (line : CommandLine) (w : World) : Ends line w (line.run w).result := by
  cases placement : FlagOrder.check line.args (recognized line.command)
  case error m => exact run_of_misplaced placement w ▸ .misplaced placement
  case ok      =>
    rw [run_eq placement]
    cases hs : (line.settle w).result
    case error e => 
      exact Traced.result_bind_of_error hs ▸ .unsettled placement (settle_eq_error_iff.mp hs)
    case ok s    =>
      have settles := settle_eq_ok_iff.mp hs
      rw [Traced.result_bind_of_ok hs]
      cases hp : (line.preparation w s).result
      case error e => exact Traced.mapError_bind_of_error hp ▸ .unprepared placement settles hp
      case ok c    => 
        exact Traced.mapError_bind_of_ok hp ▸ .performed placement settles hp (performs_perform _ _ _ _)

-- And in no other.
theorem Ends.result_run (h : Ends line w r) : (line.run w).result = r := by
  cases h
  case misplaced placement                              => rw [run_of_misplaced placement]; rfl
  case unsettled placement unsettled                    => 
    rw [run_eq placement, Traced.result_bind_of_error (settle_eq_error_iff.mpr unsettled)]
  case unprepared placement settles preparation         =>
    rw [run_eq placement, Traced.result_bind_of_ok (settle_eq_ok_iff.mpr settles), 
      Traced.mapError_bind_of_error preparation]
  case performed placement settles preparation performs =>
    rw [run_eq placement, Traced.result_bind_of_ok (settle_eq_ok_iff.mpr settles), 
      Traced.mapError_bind_of_ok preparation]
    exact performs.result_perform

theorem result_run_eq_iff : (line.run w).result = r ↔ Ends line w r where
  mp h  := h ▸ ends_run line w
  mpr h := h.result_run

end CommandLine
end Rollout
