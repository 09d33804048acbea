import Rollout.FlagOrder
namespace Rollout.FlagOrder

variable {args recognized before after : List String} {name : String} {m : Misplaced}

theorem check_eq_error_iff : 
    check args recognized = .error m ↔ m.flags = misplaced args recognized ∧ m.flags ≠ [] := by
  unfold check
  cases m
  cases misplaced args recognized <;> simp [eq_comm]
  rintro rfl
  simp

-- Whether flags are misplaced, and which ones, is all that there is to a check.
theorem check_eq_check_iff {args' recognized' : List String} : 
    (∀ m, check args recognized = .error m ↔ check args' recognized' = .error m) ↔ 
      misplaced args recognized = misplaced args' recognized' := by
  simp only [check_eq_error_iff]
  constructor
  case mpr => intro h; simp [h]
  case mp =>
    intro h
    cases hm : misplaced args recognized
    case cons => simpa [hm] using h ⟨misplaced args recognized⟩
    case nil  => 
      cases hm' : misplaced args' recognized'
      case nil  => rfl
      case cons => simpa [hm, hm'] using h ⟨misplaced args' recognized'⟩

@[simp]
theorem misplaced_nil : misplaced [] recognized = [] :=
  rfl

theorem mem_misplaced_iff : 
    name ∈ misplaced args recognized ↔ 
      name ∈ recognized ∧ ∃ arg ∈ args.takeWhile (· ≠ "--"), flagName? arg = some name := by
  simp [misplaced, List.mem_eraseDups, and_comm]

-- The arguments behind a separator are not looked at.
theorem misplaced_append_separator : 
    misplaced (before ++ "--" :: after) recognized = misplaced before recognized := by
  have h : (before ++ "--" :: after).takeWhile (· ≠ "--") = before.takeWhile (· ≠ "--") := by
    induction before
    case nil          => simp
    case cons a l hi => 
      rw [List.cons_append, List.takeWhile_cons, List.takeWhile_cons, hi]
  rw [misplaced, misplaced, h]

end Rollout.FlagOrder
