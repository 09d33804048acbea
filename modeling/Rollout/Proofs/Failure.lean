import Rollout.Failure
namespace Rollout

namespace Text

-- Texts that occur in another one in this order, without overlap.
inductive InOrder : List String → String → Prop
  | nil {s} : InOrder [] s
  | cons {s before m rest ms} (whole : s = before ++ m ++ rest) (others : InOrder ms rest) : 
    InOrder (m :: ms) s

variable {m s : String} {ms : List String}

theorem InOrder.append_left (h : InOrder ms s) (t : String) : InOrder ms (t ++ s) := by
  cases h
  case nil               => exact .nil
  case cons others whole => exact .cons (by rw [whole, ← String.append_assoc, ← String.append_assoc]) others

theorem inOrder_empty_iff : InOrder ms "" ↔ ∀ m ∈ ms, m = "" := by
  constructor
  case mp  =>
    intro h
    induction ms
    case nil          => nofun
    case cons m ms hi =>
      cases h
      case cons others whole =>
        have ⟨hl, hr⟩ := String.append_eq_empty_iff.mp whole.symm
        have ⟨_, hm⟩ := String.append_eq_empty_iff.mp hl
        exact List.forall_mem_cons.mpr ⟨hm, hi (hr ▸ others)⟩
  case mpr =>
    intro h
    induction ms
    case nil          => exact .nil
    case cons m ms hi =>
      have ⟨hm, h⟩ := List.forall_mem_cons.mp h
      exact .cons (show "" = "" ++ m ++ "" by rw [hm]; rfl) (hi h)

-- A text leaves no room beside itself.
theorem inOrder_cons_self_iff : InOrder (m :: ms) m ↔ ∀ m ∈ ms, m = "" := by
  rw [← inOrder_empty_iff]
  constructor
  case mp  =>
    intro h
    cases h
    case cons before rest others whole =>
      have hl := congrArg String.length whole
      rw [String.length_append, String.length_append] at hl
      rwa [← String.length_eq_zero_iff.mp (show rest.length = 0 by omega)]
  case mpr => exact fun h => .cons (by rw [String.empty_append, String.append_empty]) h

theorem inOrder_intercalate (s : String) (ms : List String) : InOrder ms (s.intercalate ms) := by
  induction ms
  case nil          => exact .nil
  case cons m ms hi =>
    cases ms
    case nil       => 
      rw [String.intercalate_singleton]
      exact inOrder_cons_self_iff.mpr nofun
    case cons n ms => 
      rw [String.intercalate_cons_cons, String.append_assoc]
      exact .cons (by rw [String.empty_append]) (hi.append_left s)

end Text

namespace Failure

variable {f : Failure}

theorem messages_eq (f : Failure) : ∃ ms, f.messages = f.outermost :: ms := by
  unfold messages outermost
  cases f.steps
  case nil       => exact ⟨[], rfl⟩
  case cons s ss => exact ⟨_, rfl⟩

-- The whole chain tells every message, and the outermost message tells nothing of what follows it.
theorem inOrder_full (f : Failure) : Text.InOrder f.messages f.full :=
  Text.inOrder_intercalate ": " f.messages

theorem inOrder_outermost_iff : 
    Text.InOrder f.messages f.outermost ↔ ∀ m ∈ f.messages.tail, m = "" := by
  have ⟨ms, hm⟩ := f.messages_eq
  rw [hm, List.tail_cons, Text.inOrder_cons_self_iff]

end Failure
end Rollout
