import Rollout.Path
namespace Rollout.Path

variable {silent : α → Bool} {xs ys after : List α}

theorem dropTrailing_prefix_self (silent : α → Bool) (xs : List α) : dropTrailing silent xs <+: xs := by
  simpa [dropTrailing] using List.reverse_prefix.mpr (xs.reverse.dropWhile_suffix silent)

theorem not_silent_of_getLast? {a : α} (h : (dropTrailing silent xs).getLast? = some a) : 
    silent a = false := by
  have hd := List.head?_dropWhile_not silent xs.reverse
  rw [dropTrailing, List.getLast?_reverse] at h
  simpa [h] using hd

theorem dropTrailing_append (h : ∀ a ∈ after, silent a) (ys : List α) : 
    dropTrailing silent (ys ++ after) = dropTrailing silent ys := by
  have ha : ∀ a ∈ after.reverse, silent a := fun a ha => h a (List.mem_reverse.mp ha)
  rw [dropTrailing, List.reverse_append, List.dropWhile_append_of_pos ha, dropTrailing]

theorem dropTrailing_of_last (h : ∀ a ∈ ys.getLast?, silent a = false) : dropTrailing silent ys = ys := by
  cases ys.eq_nil_or_concat
  case inl hn => rw [hn]; rfl
  case inr hl => 
    obtain ⟨before, a, rfl⟩ := hl
    have ha := h a (by simp)
    simp [dropTrailing, ha]

-- What is left of a list when the elements at its end that do not count are dropped.
structure DropsTrailing (silent : α → Bool) (xs ys : List α) : Prop where
  rest : ∃ after, xs = ys ++ after ∧ ∀ a ∈ after, silent a
  last : ∀ a ∈ ys.getLast?, silent a = false

theorem dropsTrailing_iff : DropsTrailing silent xs ys ↔ dropTrailing silent xs = ys := by
  constructor
  case mp  => 
    intro ⟨⟨after, hx, ha⟩, hl⟩ 
    rw [hx, dropTrailing_append ha, dropTrailing_of_last hl]
  case mpr =>
    rintro rfl
    refine ⟨⟨(xs.reverse.takeWhile silent).reverse, ?_, ?_⟩, fun _ => not_silent_of_getLast?⟩
    case refine_1 => 
      rw [dropTrailing, ← List.reverse_append, List.takeWhile_append_dropWhile, List.reverse_reverse]
    case refine_2 =>
      intro a ha
      exact List.all_eq_true.mp List.all_takeWhile a (List.mem_reverse.mp ha)

end Rollout.Path
