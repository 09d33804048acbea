import Mathlib.Data.List.TakeDrop
import Mathlib.Data.List.TakeWhile
namespace Rollout.Text

-- Texts that are cut in two in front of the first mark.
section

variable {mark : Char} {cs front rest : List Char}

theorem ne_of_not_mem (h : mark ∉ front) : ∀ c ∈ front, decide (c ≠ mark) = true :=
  fun _ hc => decide_eq_true (ne_of_mem_of_not_mem hc h)

theorem span_mark_eq_iff (h : mark ∉ front) : 
    cs.span (· ≠ mark) = (front, mark :: rest) ↔ cs = front ++ mark :: rest := by
  rw [List.span_eq_takeWhile_dropWhile]
  constructor <;> intro hs
  case mp  => 
    have ⟨hf, hr⟩ := Prod.mk.inj hs
    rw [← hf, ← hr, List.takeWhile_append_dropWhile]
  case mpr =>
    rw [hs, List.takeWhile_append_of_pos (ne_of_not_mem h), List.dropWhile_append_of_pos (ne_of_not_mem h)]
    simp

theorem span_mark_append (h : mark ∉ front) (rest : List Char) : 
    (front ++ mark :: rest).span (· ≠ mark) = (front, mark :: rest) :=
  (span_mark_eq_iff h).mpr rfl

theorem span_mark_of_not_mem (h : mark ∉ cs) : cs.span (· ≠ mark) = (cs, []) := by
  rw [List.span_eq_takeWhile_dropWhile, List.takeWhile_eq_self_iff.mpr (ne_of_not_mem h), 
    List.dropWhile_eq_nil_iff.mpr (ne_of_not_mem h)]

end

end Rollout.Text
