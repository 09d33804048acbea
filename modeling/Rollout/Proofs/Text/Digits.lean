import Mathlib.Data.List.Basic
import Rollout.Text.Blank
namespace Rollout.Text

-- The decimal digits of numbers.
def digits (n : Nat) : List Char :=
  Nat.toDigits 10 n

variable {n : Nat} {c : Char}

theorem toList_toString (n : Int) : (toString n).toList = (if n < 0 then ['-'] else []) ++ digits n.natAbs := by
  rw [Int.toString_eq_repr, Int.repr_eq_if]
  split
  case isTrue h  => 
    have hn : n.toNat = n.natAbs := by omega
    simp [Nat.repr_eq_ofList_toDigits, digits, hn, Int.not_lt.mpr h]
  case isFalse h => 
    have hn : (-n).toNat = n.natAbs := by omega
    simp [Nat.repr_eq_ofList_toDigits, digits, hn, Int.not_le.mp h]

theorem digits_ne_nil (n : Nat) : digits n ≠ [] :=
  Nat.toDigits_ne_nil

theorem isDigit_of_mem (h : c ∈ digits n) : c.isDigit :=
  Nat.isDigit_of_mem_toDigits (by decide) (by decide) h

theorem eq_zero_of_digitChar : ∀ n < 10, n.digitChar = '0' → n = 0 := by
  decide

-- No number but zero begins with a zero.
theorem eq_zero_of_head? (h : (digits n).head? = some '0') : n = 0 := by
  induction n using Nat.strongRecOn
  case ind n hi =>
    by_cases hn : n < 10
    case pos => 
      rw [digits, Nat.toDigits_of_lt_base hn] at h
      exact eq_zero_of_digitChar n hn (Option.some.inj h)
    case neg => 
      have hl : digits n = digits (n / 10) ++ [(n % 10).digitChar] := 
        Nat.toDigits_of_base_le (by decide) (by omega)
      rw [hl, List.head?_append_of_ne_nil _ (digits_ne_nil _)] at h
      have := hi (n / 10) (by omega) h
      omega

theorem digits_eq_of_head? (h : (digits n).head? = some '0') : digits n = ['0'] := by
  rw [eq_zero_of_head? h]
  rfl

theorem foldl_digits (n : Nat) : (digits n).foldl (fun m c => 10 * m + (c.toNat - '0'.toNat)) 0 = n :=
  Nat.ofDigitChars_ten_toDigits

end Rollout.Text
