import Rollout.Failure
import Rollout.Proofs.Trace
namespace Rollout.Traced

variable {ε ε' α β : Type} {answer? : Event → Option Failure} {carry : Event → Failure → ε} 
variable {carry' : Event → Failure → ε'} {voice : Failure → List Event} {x : Traced ε α}
variable {f : α → Traced ε β}

-- A computation that cannot go on once it gets a failure for an answer. Its error is what carries the 
-- failure on from there, and the last that it shows is what it says about the failure.
structure Surfaces (answer? : Event → Option Failure) (carry : Event → Failure → ε) 
    (voice : Failure → List Event) (x : Traced ε α) : Prop where
  stops  : ∀ ev ∈ x.events, ∀ f, answer? ev = some f → x.result = .error (carry ev f)
  speaks : ∀ ev ∈ x.events, ∀ f, answer? ev = some f → voice f <:+ x.events

namespace Surfaces

theorem of_unanswered (h : ∀ ev ∈ x.events, answer? ev = none) : Surfaces answer? carry voice x where
  stops ev hm f hf  := by simp [h ev hm] at hf
  speaks ev hm f hf := by simp [h ev hm] at hf

theorem of_silent (h : x.events = []) : Surfaces answer? carry voice x :=
  of_unanswered (by simp [h])

theorem pure (a : α) : Surfaces answer? carry voice (pure a : Traced ε α) :=
  of_silent rfl

theorem asked {ev : Event} {r : Except Failure α} (h : ∀ f, answer? ev = some f → r = .error f) : 
    Surfaces answer? (fun _ f => f) (fun _ => []) (asked ev r) where
  stops _ hm f hf := h f (List.mem_singleton.mp hm ▸ hf)
  speaks _ _ _ _  := List.nil_suffix

-- A failure in front ends everything, and what follows can only fail for itself.
theorem bind (hx : Surfaces answer? carry voice x) 
    (hf : ∀ a, x.result = .ok a → Surfaces answer? carry voice (f a)) : 
    Surfaces answer? carry voice (x >>= f) := by
  cases h : x.result
  case error e =>
    have hb : x >>= f = ⟨x.events, .error e⟩ := by rw [bind_eq, bind_of_error f h]
    rw [hb]
    constructor <;> intro ev hm g hg
    case stops  => 
      cases h.symm.trans (hx.stops ev hm g hg)
      rfl
    case speaks => exact hx.speaks ev hm g hg
  case ok a =>
    have hb : x >>= f = ⟨x.events ++ (f a).events, (f a).result⟩ := by rw [bind_eq, bind_of_ok f h]
    have inside : ∀ ev ∈ x.events ++ (f a).events, ∀ g, answer? ev = some g → ev ∈ (f a).events := by
      intro ev hm g hg
      cases List.mem_append.mp hm
      case inl hm => cases (hx.stops ev hm g hg).symm.trans h
      case inr hm => exact hm
    rw [hb]
    constructor <;> intro ev hm g hg
    case stops  => exact (hf a h).stops ev (inside ev hm g hg) g hg
    case speaks => 
      exact ((hf a h).speaks ev (inside ev hm g hg) g hg).trans (List.suffix_append _ _)

theorem mapError {k : ε → ε'} (hx : Surfaces answer? carry voice x) 
    (hk : ∀ ev ∈ x.events, ∀ f, k (carry ev f) = carry' ev f) : 
    Surfaces answer? carry' voice (x.mapError k) where
  stops ev hm f hf  := by
    rw [result_mapError, hx.stops ev hm f hf, ← hk ev hm f]
    rfl
  speaks ev hm f hf := hx.speaks ev hm f hf

end Surfaces
end Rollout.Traced
