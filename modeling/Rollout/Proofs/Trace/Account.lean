import Rollout.Proofs.Trace
namespace Rollout

namespace Event

-- Whether an error is shown to the user.
def isError : Event → Bool
  | .error _ => true
  | _        => false

-- How many errors are shown to the user.
def errors (es : List Event) : Nat :=
  es.countP isError

@[simp]
theorem errors_append (es es' : List Event) : errors (es ++ es') = errors es + errors es' :=
  List.countP_append

@[simp]
theorem errors_singleton (ev : Event) : errors [ev] = if ev.isError then 1 else 0 :=
  List.countP_singleton

theorem errors_map_output (f : α → String) (l : List α) : errors (l.map fun a => .output (f a)) = 0 := by
  simp [errors, isError]

theorem errors_map_error (messages : List String) : errors (messages.map .error) = messages.length := by
  simp [errors, isError]

end Event

namespace Traced

open Event (errors)

-- A computation that shows nothing unless it fails, and then one error. For some failures the error
-- has been shown already, and for others it is still owed to the user.
structure Accounted (owed : ε → Nat) (x : Traced ε α) : Prop where
  ok    : ∀ a, x.result = .ok a → errors x.events = 0
  error : ∀ e, x.result = .error e → errors x.events + owed e = 1

namespace Accounted

variable {ε ε' α β : Type} {x : Traced ε α} {f : α → Traced ε β} {owed : ε → Nat} {owed' : ε' → Nat}

theorem pure (a : α) : Accounted owed (pure a : Traced ε α) where
  ok _ _    := rfl
  error _ h := nomatch h

-- Later failures may have been shown, but earlier ones ended the computation.
theorem bind (hx : Accounted owed x) (hf : ∀ a, x.result = .ok a → Accounted owed (f a)) : 
    Accounted owed (x >>= f) := by
  cases h : x.result
  case error e =>
    constructor
    case ok    => simp [result_bind_of_error h]
    case error => simpa [result_bind_of_error h, events_bind_of_error h] using hx.error e h
  case ok a =>
    have hs := hx.ok a h
    constructor
    case ok    => simpa [result_bind_of_ok h, events_bind_of_ok h, hs] using (hf a h).ok
    case error => simpa [result_bind_of_ok h, events_bind_of_ok h, hs] using (hf a h).error

theorem mapError {g : ε → ε'} (hx : Accounted owed x) (hg : ∀ e, owed' (g e) = owed e) : 
    Accounted owed' (x.mapError g) where
  ok a h    := hx.ok a (result_mapError_eq_ok_iff.mp h)
  error e h := by
    have ⟨e', he, hg'⟩ := result_mapError_eq_error_iff.mp h
    rw [events_mapError, ← hg', hg, hx.error e' he]

-- A failure that nothing has been shown of is owed.
theorem of_silent {g : ε → ε'} (h : errors x.events = 0) (hg : ∀ e, owed' (g e) = 1) : 
    Accounted owed' (x.mapError g) where
  ok _ _     := h
  error e he := by
    have ⟨e', he⟩ := exists_of_mapError he
    rw [events_mapError, h, he, hg]

end Accounted
end Traced
end Rollout
