import Rollout.Proofs.Json.Spelling
import Rollout.Proofs.Text.Digits
namespace Rollout.Json.Numeral

open Text (digits)

-- The numeral that an integer is written with.
def ofInt (n : Int) : Numeral where
  negative := n < 0
  whole    := digits n.natAbs
  fraction := []
  exponent := none

theorem writes_ofInt (n : Int) : (ofInt n).Writes (toString n).toList := by
  have hd : Document.Digits (digits n.natAbs) := ⟨Text.digits_ne_nil _, fun _ => Text.isDigit_of_mem⟩
  have hw : (ofInt n).Writes _ := .intro hd Text.digits_eq_of_head? .missing .missing
  rw [Text.toList_toString]
  simpa using hw

theorem le_foldl_digits (cs : List Char) (s : Nat) : s ≤ cs.foldl (fun m c => 10 * m + digitValue c) s := by
  induction cs generalizing s
  case nil          => exact Nat.le_refl s
  case cons c cs hi => exact Nat.le_trans (by omega) (hi (10 * s + digitValue c))

-- No digit is dropped from a number of 64 bits.
theorem wholeDigits_eq (cs : List Char) (s : Nat) 
    (h : cs.foldl (fun m c => 10 * m + digitValue c) s < Nat.pow 2 64) : 
    wholeDigits s cs = (cs.foldl (fun m c => 10 * m + digitValue c) s, 0) := by
  induction cs generalizing s
  case nil          => rfl
  case cons c cs hi =>
    have hlt := Nat.lt_of_le_of_lt (le_foldl_digits cs (10 * s + digitValue c)) h
    rw [wholeDigits, if_pos hlt, hi _ h, List.foldl_cons]

theorem wholeDigits_digits {n : Nat} (h : n < Nat.pow 2 64) : wholeDigits 0 (digits n) = (n, 0) := by
  have hf : (digits n).foldl (fun m c => 10 * m + digitValue c) 0 = n := Text.foldl_digits n
  rw [wholeDigits_eq _ _ (hf.symm ▸ h), hf]

-- Integers of 64 bits are kept as what they are.
theorem text_ofInt {n : Int} (hl : -(Nat.pow 2 63 : Int) ≤ n) (hh : n < (Nat.pow 2 64 : Int)) : 
    (ofInt n).read?.map Number.text = some (toString n) := by
  have hn : n.natAbs < Nat.pow 2 64 := by
    have hp : Nat.pow 2 63 < Nat.pow 2 64 := by decide
    omega
  by_cases h0 : n < 0
  case neg => 
    obtain ⟨m, rfl⟩ := Int.eq_ofNat_of_zero_le (Int.not_lt.mp h0)
    have hr : (ofInt m).read? = some (.natural m) := by
      simp only [read?, ofInt, wholeDigits_digits hn]
      simp [h0]
    rw [hr]
    rfl
  case pos =>
    have hz : n.natAbs ≠ 0 := by omega
    have hs : ¬Nat.pow 2 63 < n.natAbs := by omega
    have hc : -((n.natAbs : Nat) : Int) = n := by omega
    have hr : (ofInt n).read? = some (.negative n) := by
      simp only [read?, ofInt, wholeDigits_digits hn, hc]
      simp [h0, hz, hs]
    rw [hr]
    rfl

end Rollout.Json.Numeral
