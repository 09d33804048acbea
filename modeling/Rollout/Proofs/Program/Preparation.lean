import Rollout.Proofs.CommandContext.Prepared
import Rollout.Proofs.Program.Settling
import Rollout.Proofs.Program.Staging
namespace Rollout.CommandLine

variable {line : CommandLine} {w : World} {e : InitError} {s : Setting}

def preparation (line : CommandLine) (w : World) (s : Setting) : Traced InitError CommandContext :=
  CommandContext.init (line.invocation w s) line.command.demands (surroundings w s)

-- A run settles what it needs to know, prepares the command and performs it.
theorem run_eq (h : FlagOrder.check line.args (recognized line.command) = .ok ()) : 
    line.run w = 
      line.settle w >>= fun s => (line.preparation w s).mapError .init >>= line.perform w s := by
  simp only [run, h]
  rfl

theorem run_of_settled (h : FlagOrder.check line.args (recognized line.command) = .ok ()) 
    (hs : (line.settle w).result = .ok s) : 
    line.run w = 
      let prepared := (line.preparation w s).mapError .init >>= line.perform w s
      ⟨(line.settle w).events ++ prepared.events, prepared.result⟩ := by
  rw [run_eq h, Traced.bind_eq, Traced.bind_of_ok _ hs]

theorem events_preparation (line : CommandLine) (w : World) (s : Setting) : 
    ∀ ev ∈ (line.preparation w s).events, ∃ s, CommandContext.Stage.ofEvent? ev = some s :=
  CommandContext.events_init _ _ _

-- Nothing can be made of a command line: its flags are misplaced, what it needs to know cannot be told, 
-- or the preparation of its command fails.
def Unprepared (line : CommandLine) (w : World) : Prop :=
  ∀ s c, (line.settle w).result = .ok s → (line.preparation w s).result ≠ .ok c

-- How a run goes: it stops while everybody is still being asked, or it performs the command.
inductive Course (line : CommandLine) (w : World) : Prop
  | stopped {asked : List Event} {e : RunError} (unprepared : Unprepared line w)
    (quiet : ∀ ev ∈ asked, ∃ s, CommandContext.Stage.ofEvent? ev = some s) 
    (run : line.run w = ⟨asked, .error e⟩)
  | performed {asked : List Event} {s : Setting} {c : CommandContext} 
    (quiet : ∀ ev ∈ asked, ∃ s, CommandContext.Stage.ofEvent? ev = some s)
    (settled : (line.settle w).result = .ok s) (prepared : (line.preparation w s).result = .ok c)
    (run : line.run w = ⟨asked ++ (line.perform w s c).events, (line.perform w s c).result⟩)

theorem unprepared_of_misplaced {m : FlagOrder.Misplaced} 
    (h : FlagOrder.check line.args (recognized line.command) = .error m) : Unprepared line w := by
  intro s c _ hc
  cases CommandContext.init_eq_ok_iff.mp hc
  case intro placement _ _ _ _ _ => cases h.symm.trans placement

theorem course (line : CommandLine) (w : World) : Course line w := by
  cases h : FlagOrder.check line.args (recognized line.command)
  case error m => 
    exact .stopped (unprepared_of_misplaced h) (List.forall_mem_nil _) (run_of_misplaced h w)
  case ok      =>
    have run := run_eq (w := w) h
    cases hs : (line.settle w).result
    case error e => 
      have unprepared : Unprepared line w := fun _ _ ho => nomatch hs.symm.trans ho
      exact .stopped unprepared (events_settle line w) (run.trans (Traced.bind_of_error _ hs))
    case ok s    =>
      rw [Traced.bind_eq, Traced.bind_of_ok _ hs] at run
      have quiet : ∀ ev ∈ (line.settle w).events ++ (line.preparation w s).events, 
          ∃ s, CommandContext.Stage.ofEvent? ev = some s := 
        List.forall_mem_append.mpr ⟨events_settle line w, events_preparation line w s⟩ 
      cases hi : (line.preparation w s).result
      case error e => 
        have unprepared : Unprepared line w := by
          intro s' c ho hc
          cases hs.symm.trans ho
          cases hi.symm.trans hc
        exact .stopped unprepared quiet (by rw [run, Traced.mapError_bind_of_error hi])
      case ok c    => 
        refine .performed quiet hs hi ?_
        rw [run, Traced.mapError_bind_of_ok hi, List.append_assoc]

theorem settle_ne_init : (line.settle w).result ≠ .error (.init e) := by
  intro h
  cases settle_eq_error_iff.mp h

theorem perform_ne_init (s : Setting) (c : CommandContext) : 
    (line.perform w s c).result ≠ .error (.init e) := by
  intro h
  unfold perform at h
  split at h
  case h_1 => 
    unfold Command.printContext at h
    split at h
    case isTrue  => split at h <;> cases h
    case isFalse => cases h
  case h_2 =>
    cases Traced.result_bind_eq_error_iff.mp h
    case inl h => 
      have ⟨e, _, he⟩ := Traced.result_mapError_eq_error_iff.mp h
      cases e <;> cases he
    case inr h => 
      have ⟨_, _, h⟩ := h
      cases h
  case h_3 =>
    have ⟨_, _, he⟩ := Traced.mapError_eq_error_iff.mp h
    cases he

-- A run is refused for misplaced flags, or because the preparation is.
theorem run_eq_init_iff : 
    (line.run w).result = .error (.init e) ↔ 
      (∃ m, FlagOrder.check line.args (recognized line.command) = .error m ∧ e = .misplacedFlags m) ∨ 
      FlagOrder.check line.args (recognized line.command) = .ok () ∧ 
        ∃ s, (line.settle w).result = .ok s ∧ (line.preparation w s).result = .error e := by
  cases h : FlagOrder.check line.args (recognized line.command)
  case error m => simp [run_of_misplaced h, eq_comm]
  case ok      =>
    simp only [run_eq h, Traced.result_bind_eq_error_iff, Traced.result_mapError_eq_error_iff, 
      Traced.result_mapError_eq_ok_iff, settle_ne_init, perform_ne_init]
    simp

-- The preparation looks for misplaced flags once more, and finds as many as before.
theorem preparation_ne_misplaced {m : FlagOrder.Misplaced} 
    (h : FlagOrder.check line.args (recognized line.command) = .ok ()) :
    (line.preparation w s).result ≠ .error (.misplacedFlags m) := by
  intro hp
  have ⟨s, f⟩ := CommandContext.init_eq_error_iff.mp hp
  have hr := f.raises
  cases s
  case placement =>
    have ⟨_, hf, _⟩ := Traced.result_mapError_eq_error_iff.mp f.fails
    cases h.symm.trans hf
  all_goals simp [CommandContext.Stage.Raises] at hr

-- A run is refused for the flags that are misplaced.
def Refuses (line : CommandLine) (w : World) (m : FlagOrder.Misplaced) : Prop :=
  (line.run w).result = .error (.init (.misplacedFlags m))

theorem refuses_iff {m : FlagOrder.Misplaced} : 
    Refuses line w m ↔ FlagOrder.check line.args (recognized line.command) = .error m := by
  rw [Refuses, run_eq_init_iff]
  constructor
  case mp =>
    rintro (⟨_, h, ⟨⟩⟩ | ⟨h, _, _, hp⟩)
    case inl => exact h
    case inr => exact absurd hp (preparation_ne_misplaced h)
  case mpr => exact fun h => .inl ⟨m, h, rfl⟩

end Rollout.CommandLine
