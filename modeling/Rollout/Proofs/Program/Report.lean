import Rollout.Proofs.Dispatch.Account
import Rollout.Proofs.Program.Ending
namespace Rollout

open Event (errors)
open Traced (Accounted)

-- How many errors have not been shown yet when a run fails.
def RunError.owed (e : RunError) : Nat :=
  if e = .dispatch .alreadyReported then 0 else 1

theorem RunError.owed_ofOperation (e : OperationError) : (ofOperation e).owed = e.owed := by
  cases e <;> rfl

theorem RunError.owed_eq_zero_iff {e : RunError} : e.owed = 0 ↔ e = .dispatch .alreadyReported := by
  simp [owed]

-- Nothing else is left out at the end of a run that comes to one.
theorem RunError.length_message? {e : RunError} (h : e ≠ .panicked) : 
    e.message?.toList.length = e.owed := by
  cases e
  case dispatch e => cases e <;> rfl
  case panicked   => contradiction
  all_goals rfl

theorem ErrorKind.exitCode_eq_two_iff {k : ErrorKind} : k.exitCode = 2 ↔ k = .inputShape := by
  cases k <;> decide

theorem RunError.exitCode_eq_two_iff {e : RunError} : 
    e.exitCode = 2 ↔ ∃ i, e = .init i ∧ i.kind = .inputShape := by
  cases e <;> simp [exitCode, InitError.exitCode, ErrorKind.exitCode_eq_two_iff]

theorem RunError.exitCode_of_ne_panicked {e : RunError} (h : e ≠ .panicked) : 
    e.exitCode = 1 ∨ e.exitCode = 2 := by
  cases e
  case init e   => cases h : e.kind <;> simp [exitCode, InitError.exitCode, h, ErrorKind.exitCode]
  case panicked => contradiction
  all_goals exact .inl rfl

theorem RunError.exitCode_pos (e : RunError) : 0 < e.exitCode := by
  by_cases h : e = .panicked
  case pos => simp [h, exitCode]
  case neg => have := e.exitCode_of_ne_panicked h; omega

theorem CommandContext.errors_init (inv : Invocation) (demands : Demands) (env : Collaborators) : 
    errors (init inv demands env).events = 0 := 
  Stage.errors_eq_zero (events_init inv demands env)

namespace Command

theorem accounted_printContext (isText : Path → Bool) (c : CommandContext) (json : Bool) : 
    Accounted RunError.owed (printContext isText c json) := by
  unfold printContext
  split
  case isFalse => exact ⟨fun _ _ => Event.errors_map_output id _, nofun⟩
  case isTrue  =>
    split
    case isTrue  => exact ⟨fun _ _ => rfl, nofun⟩
    case isFalse => 
      refine ⟨nofun, ?_⟩
      rintro _ ⟨⟩
      rfl

theorem accounted_runInspect (d : Dispatcher) : Accounted RunError.owed (runInspect d) := by
  refine .bind (d.accounted_plan.mapError RunError.owed_ofOperation) fun _ _ => ?_
  exact ⟨fun _ _ => Event.errors_map_output _ _, nofun⟩

theorem accounted_runTargets (d : Dispatcher) : Accounted RunError.owed (runTargets d) := by
  cases h : d.plan.result
  case error e =>
    rw [runTargets_of_error h]
    constructor <;> intro _ h' <;> cases h'
    case error => 
      cases Dispatcher.eq_alreadyReported_of_plan e h
      exact d.accounted_plan.error _ h
  case ok p =>
    rw [runTargets_of_ok h]
    constructor <;> intro _ h' <;> cases h'
    case ok => simp [d.accounted_plan.ok p h, Event.errors_map_output]

end Command

namespace CommandLine

variable {line : CommandLine} {w : World} {e : RunError}

theorem accounted_settle (line : CommandLine) (w : World) : 
    Accounted RunError.owed (line.settle w) where
  ok _ _    := CommandContext.Stage.errors_eq_zero (events_settle line w)
  error e h := by
    have other : e ≠ .dispatch .alreadyReported := by
      rintro rfl
      cases settle_eq_error_iff.mp h
    rw [CommandContext.Stage.errors_eq_zero (events_settle line w), RunError.owed, if_neg other]

theorem accounted_run (line : CommandLine) (w : World) : Accounted RunError.owed (line.run w) := by
  refine .bind (.of_silent rfl fun _ => rfl) fun _ _ => ?_
  refine .bind (accounted_settle line w) fun s _ => ?_
  refine .bind (.of_silent (CommandContext.errors_init _ _ _) fun _ => rfl) fun context _ => ?_
  unfold perform
  split
  case h_1 => exact Command.accounted_printContext _ _ _
  case h_2 => exact Command.accounted_runInspect _
  case h_3 => exact Command.accounted_runTargets _

-- A run that finds something in the environment that is not text does not come to an end by itself. 
inductive Panics (line : CommandLine) (w : World) : Prop
  | intro {dir url} (placement : FlagOrder.check line.args (recognized line.command) = .ok ()) 
    (located : w.workingDir = .ok dir) (connects : Connects line w url) 
    (foreign : w.environment.Foreign)

theorem panics_iff : (line.run w).result = .error .panicked ↔ Panics line w := by
  rw [result_run_eq_iff]
  constructor
  case mp  =>
    intro h
    cases h
    case unsettled placement unsettled =>
      cases unsettled
      case foreign located connects foreign => exact .intro placement located connects foreign
    case performed performs            => cases performs
  case mpr =>
    rintro ⟨placement, located, connects, foreign⟩
    exact .unsettled placement (.foreign located connects foreign)

-- How a run, what it shows to the user and how it exits belong together.
structure ShownOnce (line : CommandLine) (w : World) : Prop where
  ends     : ∀ r, (line.run w).result = r ↔ Ends line w r
  once     : ¬Panics line w → 
    (report (line.run w)).2 = 0 ∧ errors (report (line.run w)).1 = 0 ∨ 
    ((report (line.run w)).2 = 1 ∨ (report (line.run w)).2 = 2) ∧ errors (report (line.run w)).1 = 1
  panics   : Panics line w → (report (line.run w)).2 = 101 ∧ errors (report (line.run w)).1 = 0
  success  : (report (line.run w)).2 = 0 ↔ (line.run w).result = .ok ()
  shape    : (report (line.run w)).2 = 2 ↔ 
    ∃ e, (line.run w).result = .error (.init e) ∧ e.kind = .inputShape
  reported : (line.run w).result = .error (.dispatch .alreadyReported) → (report (line.run w)).2 = 1
  -- The error has been shown before the end of the run exactly if the run says so.
  early    : errors (line.run w).events = 1 ↔ (line.run w).result = .error (.dispatch .alreadyReported)

theorem report_of_ok {x : Traced RunError Unit} (h : x.result = .ok ()) : report x = (x.events, 0) := by
  rw [report, h]

theorem report_of_error {x : Traced RunError Unit} (h : x.result = .error e) : 
    report x = (x.events ++ e.message?.toList.map .error, e.exitCode) := by 
  rw [report, h]

theorem errors_report_of_error (h : (line.run w).result = .error e) (hp : e ≠ .panicked) : 
    errors (report (line.run w)).1 = 1 := by
  rw [report_of_error h, Event.errors_append, Event.errors_map_error, RunError.length_message? hp]
  exact (accounted_run line w).error e h

-- Without a word, since none of the errors that are shown ends a run like this.
theorem errors_report_of_panicked (h : (line.run w).result = .error .panicked) : 
    errors (report (line.run w)).1 = 0 := by
  have hs := (accounted_run line w).error _ h
  rw [report_of_error h]
  simpa [RunError.owed, RunError.message?] using hs

theorem shownOnce (line : CommandLine) (w : World) : ShownOnce line w where
  ends _   := result_run_eq_iff
  once hp  := by
    cases h : (line.run w).result
    case ok      => rw [report_of_ok h]; exact .inl ⟨rfl, (accounted_run line w).ok () h⟩
    case error e => 
      have other : e ≠ .panicked := fun he => hp (panics_iff.mp (he ▸ h))
      refine .inr ⟨?_, errors_report_of_error h other⟩
      rw [report_of_error h]
      exact RunError.exitCode_of_ne_panicked other
  panics hp := by
    have h := panics_iff.mpr hp
    refine ⟨?_, errors_report_of_panicked h⟩ 
    rw [report_of_error h]
    rfl
  success  := by
    cases h : (line.run w).result
    case ok      => simp [report_of_ok h]
    case error e => simp [report_of_error h, e.exitCode_pos.ne']
  shape    := by
    cases h : (line.run w).result
    case ok      => simp [report_of_ok h]
    case error e => simp [report_of_error h, RunError.exitCode_eq_two_iff]
  reported h := by
    rw [report_of_error h]
    rfl
  early    := by
    cases h : (line.run w).result
    case ok      => simp [(accounted_run line w).ok () h]
    case error e => 
      have hs := (accounted_run line w).error e h
      rw [Except.error.injEq, ← RunError.owed_eq_zero_iff]
      omega

end CommandLine

namespace Program

-- Whatever the surroundings are and whatever the server answers, a run that fails shows one error, 
-- and a run that does not fail shows none. There is no other run unless the environment ends it.
theorem errors_shown_once (line : CommandLine) (w : World) : 
    CommandLine.ShownOnce line w ∧ 
    ∀ args, CommandLine.read args = .ok line → 
      run args w = 
        let shown := CommandLine.report (line.run w)
        .ofEvents line.flags.plain shown.1 shown.2 :=
  ⟨CommandLine.shownOnce line w, fun _ h => run_of_read h w⟩

-- Without a server nobody can say what the apps of a project are. The plan shows that, and nothing 
-- is said about it again.
theorem errors_shown_once_unplanned : 
    let empty : World := {
      files := { nodes := [] }, environment := ⟨[]⟩, workingDir := .ok ⟨"/"⟩, serverAt := Server.unusable
    }
    let line : CommandLine := ⟨.targets, { project := some "billing" }, ["shop"]⟩ 
    CommandLine.Ends line empty (.error (.dispatch .alreadyReported)) ∧ 
    errors (line.run empty).events = 1 ∧ 
    errors (CommandLine.report (line.run empty)).1 = 1 ∧ 
    (CommandLine.report (line.run empty)).2 = 1 ∧ 
    run ["targets", "--project", "billing", "shop"] empty = 
      ⟨1, "", "! Listing the apps of project 'billing' requires a server connection; " ++
        "set --server-addr or a default context.\n"⟩ := by
  intro empty line
  have ⟨shown, told⟩ := errors_shown_once line empty
  have h : (line.run empty).result = .error (.dispatch .alreadyReported) := by decide +kernel
  have ends := (shown.ends _).mp h
  have settled : ¬CommandLine.Panics line empty := fun ⟨_, _, _, _, hm, _⟩ => nomatch hm
  have hc := shown.reported h
  have ho := shown.once settled
  refine ⟨ends, shown.early.mpr h, by omega, hc, ?_⟩
  rw [told _ (by decide +kernel)]
  decide +kernel

-- A variable that has nothing to do with the program ends the run, and nothing is said about it.
theorem silent_if_foreign : 
    let w : World := {
      files := { nodes := [] }, environment := ⟨[("FOO", .notText)]⟩, workingDir := .ok ⟨"/"⟩ 
      serverAt := Server.unusable
    }
    let line : CommandLine := ⟨.context, {}, []⟩ 
    CommandLine.read ["context"] = .ok line ∧ (CommandLine.report (line.run w)).2 = 101 ∧ 
      errors (CommandLine.report (line.run w)).1 = 0 := by
  decide +kernel

end Program
end Rollout
