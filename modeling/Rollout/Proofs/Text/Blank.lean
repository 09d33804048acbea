import Rollout.Text.Blank
namespace Rollout.Text

variable {s t : String}

theorem all_dropWhile (cs : List Char) (p : Char → Bool) : (cs.dropWhile p).all p = cs.all p := by
  induction cs
  case nil          => rfl
  case cons c cs hi => cases hc : p c <;> simp [hc, hi]

-- Cutting off blanks leaves something unless there is nothing else.
@[simp]
theorem isBlank_trim (s : String) : isBlank (trim s) = isBlank s := by
  rw [isBlank, toList_trim, trimChars, List.all_reverse, all_dropWhile, List.all_reverse, 
    all_dropWhile, isBlank]

theorem given?_eq_some_iff {s : Option String} :
    given? s = some t ↔ ∃ u, s = some u ∧ isBlank u = false ∧ trim u = t := by
  cases s
  case none   => simp [given?]
  case some u => cases h : isBlank u <;> simp [given?, Option.filter, h]

theorem given?_eq_none_iff {s : Option String} : given? s = none ↔ s.all isBlank := by
  cases s
  case none   => simp [given?]
  case some u => cases h : isBlank u <;> simp [given?, Option.filter, h]

theorem not_isBlank_of_given? {s : Option String} (h : given? s = some t) : isBlank t = false := by
  obtain ⟨u, _, hu, rfl⟩ := given?_eq_some_iff.mp h
  rw [isBlank_trim, hu]

theorem verbatim?_eq_some_iff {s : Option String} : 
    verbatim? s = some t ↔ s = some t ∧ isBlank t = false := by
  simp [verbatim?]

theorem verbatim?_eq_none_iff {s : Option String} : verbatim? s = none ↔ s.all isBlank := by
  cases s <;> simp [verbatim?]

-- No blanks stand around an optional text, if it says anything.
def Trimmed (s : Option String) : Prop :=
  ∀ t, s = some t → isBlank t = false → trim t = t

theorem trimmed_some_iff (h : isBlank s = false) : Trimmed (some s) ↔ trim s = s := by
  simp [Trimmed, h]

end Rollout.Text
