-- Computations that may fail, taken apart.
namespace Except

variable {ε ε' α β : Type} {x : Except ε α} {f : α → Except ε β} {b : β} {e : ε}

@[simp]
theorem throw_eq (e : ε) : (throw e : Except ε α) = .error e :=
  rfl

@[simp]
theorem pure_eq (a : α) : (pure a : Except ε α) = .ok a :=
  rfl

@[simp]
theorem ok_bind (a : α) (f : α → Except ε β) : (.ok a : Except ε α) >>= f = f a :=
  rfl

@[simp]
theorem error_bind (e : ε) (f : α → Except ε β) : (.error e : Except ε α) >>= f = .error e :=
  rfl

@[simp]
theorem ok_map (f : α → β) (a : α) : (.ok a : Except ε α).map f = .ok (f a) :=
  rfl

@[simp]
theorem ok_mapError (f : ε → ε') (a : α) : (.ok a : Except ε α).mapError f = .ok a :=
  rfl

@[simp]
theorem error_mapError (f : ε → ε') (e : ε) : (.error e : Except ε α).mapError f = .error (f e) :=
  rfl

theorem toOption_eq_some_iff {a : α} : x.toOption = some a ↔ x = .ok a := by
  cases x <;> simp [Except.toOption]

theorem map_eq_ok_iff {g : α → β} : x.map g = .ok b ↔ ∃ a, x = .ok a ∧ g a = b := by
  cases x <;> simp [Except.map]

theorem map_eq_error_iff {g : α → β} : x.map g = .error e ↔ x = .error e := by
  cases x <;> simp [Except.map]

theorem bind_eq_ok_iff : x >>= f = .ok b ↔ ∃ a, x = .ok a ∧ f a = .ok b := by
  cases x <;> simp

theorem bind_eq_error_iff : x >>= f = .error e ↔ x = .error e ∨ ∃ a, x = .ok a ∧ f a = .error e := by
  cases x <;> simp

theorem map_mapError (f : ε → ε') (g : α → β) : (x.mapError f).map g = (x.map g).mapError f := by
  cases x <;> rfl

-- All that is left of a computation without its value is how it fails.
theorem map_unit_eq_iff {y : Except ε β} : 
    (x.map fun _ => ()) = (y.map fun _ => ()) ↔ ∀ e, x = .error e ↔ y = .error e := by
  constructor
  case mp  => 
    intro h e
    have hx : x = .error e ↔ (x.map fun _ => ()) = .error e := map_eq_error_iff.symm
    rw [hx, h, map_eq_error_iff]
  case mpr =>
    intro h
    cases x
    case error e => 
      rw [(h e).mp rfl]
      rfl
    case ok      =>
      cases y
      case error e => exact nomatch (h e).mpr rfl
      case ok      => rfl

end Except
