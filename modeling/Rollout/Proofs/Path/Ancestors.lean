import Rollout.Proofs.Path.Parent
namespace Rollout.Path

-- A path leads up to another one, parent by parent.
inductive Ascends : Path → Path → Prop
  | refl {p} : Ascends p p
  | up {p q r} (parent : p.parent? = some q) (rest : Ascends q r) : Ascends p r

variable {p q : Path} {n m : Nat}

theorem parent?_of_length (h : p.text.length = 0) : p.parent? = none := by
  have ht : p.text = "" := by simpa using h
  simp [parent?, segments, ht, pieces, dropTrailing]

theorem steps_ne_nil_of_parent? (h : p.parent? = some q) (hq : q ≠ ⟨""⟩) : p.steps ≠ [] := by
  cases hasParent_of_parent? h
  case lone              => exact absurd rfl hq
  case outermost hs hl   => simp [steps_eq hs, hl]
  case inner hs _ _ hl   => simp [steps_eq hs, hl]

-- A parent is shorter, also that of a path that does not move.
theorem length_lt_of_parent? (h : p.parent? = some q) : q.text.length < p.text.length := by
  have hp : p.text.length ≠ 0 := fun hp => by simp [parent?_of_length hp] at h
  by_cases hq : q = ⟨""⟩
  case pos => 
    have hl : q.text.length = 0 := by simp [hq]
    omega
  case neg =>
    have ht := text_of_parent? h
    rw [← String.length_toList, ← String.length_toList]
    refine Nat.lt_of_le_of_ne ht.length_le fun hl => ?_
    have he : q = p := Path.ext (String.ext_iff.mpr (ht.eq_of_length hl))
    have hs := congrArg List.length (steps_of_parent? h)
    have := List.length_pos_iff.mpr (steps_ne_nil_of_parent? h hq)
    rw [he, List.length_dropLast] at hs
    omega

theorem ancestorsWithin_eq (hn : p.text.length ≤ n) (hm : p.text.length ≤ m) : 
    ancestorsWithin n p = ancestorsWithin m p := by
  induction n generalizing p m
  case zero      => 
    have hp := parent?_of_length (Nat.le_zero.mp hn)
    cases m <;> simp [ancestorsWithin, hp]
  case succ n hi => 
    cases m
    case zero   => simp [ancestorsWithin, parent?_of_length (Nat.le_zero.mp hm)]
    case succ m =>
      cases hp : p.parent?
      case none   => simp [ancestorsWithin, hp]
      case some q => 
        have hl := length_lt_of_parent? hp
        simp [ancestorsWithin, hp, hi (p := q) (m := m) (by omega) (by omega)]

-- The bound on the walk upwards is never reached.
theorem ancestors_eq (p : Path) : p.ancestors = p :: p.parent?.elim [] ancestors := by
  cases hp : p.parent?
  case none   => 
    unfold ancestors
    cases p.text.length <;> simp [ancestorsWithin, hp]
  case some q => 
    have hl := length_lt_of_parent? hp
    obtain ⟨n, hn⟩ : ∃ n, p.text.length = n + 1 := Nat.exists_eq_add_one.mpr (by omega)
    simp only [ancestors, hn, ancestorsWithin, hp, Option.elim_some]
    rw [ancestorsWithin_eq (by omega) (Nat.le_refl _)]

-- What holds of a path if it holds of its parent holds of all paths.
theorem parent?_induction {P : Path → Prop} (step : ∀ p, (∀ q, p.parent? = some q → P q) → P p) (p : Path) : 
    P p := by
  induction hn : p.text.length using Nat.strongRecOn generalizing p
  case ind n hi =>
    subst hn
    exact step p fun q hq => hi _ (length_lt_of_parent? hq) q rfl

theorem mem_ancestors_iff : q ∈ p.ancestors ↔ Ascends p q := by
  constructor
  case mp  =>
    induction p using parent?_induction
    case step p hi =>
      intro h
      rw [ancestors_eq] at h
      obtain rfl | h := List.mem_cons.mp h
      case inl => exact .refl
      case inr => 
        cases hp : p.parent?
        case none   => simp [hp] at h
        case some r => exact .up hp (hi r hp (by simpa [hp] using h))
  case mpr =>
    intro h
    induction h
    case refl       => 
      rw [ancestors_eq]
      exact List.mem_cons_self
    case up hp _ hi => 
      rw [ancestors_eq, hp]
      exact List.mem_cons_of_mem _ hi

end Rollout.Path
