import Mathlib.Data.List.TakeWhile
import Rollout.Proofs.Text.Digits
import Rollout.Proofs.Toml.Layout
namespace Rollout.Toml

open Text (digits)

namespace Scalar

variable {cs ds : List Char} {n : Nat} {c : Char}

theorem not_mem_digits (h : c.isDigit = false) (n : Nat) : c ∉ digits n := by
  intro hm
  simp [Text.isDigit_of_mem hm] at h

theorem separated_of_not_mem (isDigit : Char → Bool) (h : '_' ∉ ds) (ready : Bool) : 
    separated isDigit ready ds := by
  induction ds generalizing ready
  case nil          => rfl
  case cons c ds hi =>
    rw [List.mem_cons, not_or] at h
    unfold separated
    split
    case h_1 he => cases he
    case h_2 he => 
      cases he
      exact absurd rfl h.left
    case h_3 he => 
      cases he
      exact absurd rfl h.left
    case h_4 he => 
      cases he
      exact hi h.right _

theorem numeral_digits (n : Nat) : numeral 10 (digits n) = n := by
  refine Eq.trans (List.foldl_ext _ _ _ fun m c hc => ?_) (Text.foldl_digits n)
  simp [digitValue, Text.isDigit_of_mem hc]

theorem isDigitIn_of_isDigit (h : c.isDigit) : isDigitIn 10 c := by
  have hc : 48 ≤ c.toNat ∧ c.toNat ≤ 57 := Char.isDigit_iff_toNat.mp h
  have h0 : '0'.toNat = 48 := rfl
  simp only [isDigitIn, digitValue, h, if_true, decide_eq_true_eq, h0]
  omega

theorem integer_digits (negative : Bool) (n : Nat) : 
    integer negative 10 (digits n) = .integer (signed negative n) := by
  have hf : (digits n).filter (· ≠ '_') = digits n := 
    List.filter_eq_self.mpr fun c hc => decide_eq_true fun he => not_mem_digits rfl n (he ▸ hc)
  have ha : (digits n).all (isDigitIn 10) := 
    List.all_eq_true.mpr fun c hc => isDigitIn_of_isDigit (Text.isDigit_of_mem hc)
  unfold integer
  simp only [hf, ha, numeral_digits]
  simp [Text.digits_ne_nil]

theorem dropWhile_digits (n : Nat) : (digits n).dropWhile Char.isDigit = [] :=
  List.dropWhile_eq_nil_iff.mpr fun _ => Text.isDigit_of_mem

-- The digits of a number are read as the number, behind any sign.
theorem decimal?_digits (sign : Option Bool) (n : Nat) : 
    decimal? sign (digits n) = some (.integer (signed (sign.getD false) n)) := by
  have hz : ¬((digits n).head? = some '0' ∧ 1 < (digits n).length) := by
    intro ⟨h, hl⟩
    rw [Text.digits_eq_of_head? h] at hl
    simp at hl
  have hs := fun ready => separated_of_not_mem (isDigitIn 16) (not_mem_digits (c := '_') rfl n) ready
  simp only [not_and, Nat.not_lt] at hz
  simp only [decimal?, dropWhile_digits, integer_digits, hs]
  simpa [Text.digits_ne_nil] using hz

theorem sign?_digits (n : Nat) : sign? (digits n) = (none, digits n) := by
  unfold sign?
  split
  case h_1 he => exact absurd (he ▸ List.mem_cons_self) (not_mem_digits (c := '-') rfl n)
  case h_2 he => exact absurd (he ▸ List.mem_cons_self) (not_mem_digits (c := '+') rfl n)
  case h_3    => rfl

theorem number?_eq_decimal? (hx : 'x' ∉ cs) (ho : 'o' ∉ cs) (hb : 'b' ∉ cs) (hn : 'n' ∉ (sign? cs).2) : 
    number? cs = decimal? (sign? cs).1 (sign? cs).2 := by
  unfold number?
  split
  case h_1 => simp at hx
  case h_2 => simp at ho
  case h_3 => simp at hb
  case h_4 =>
    have hi : (sign? cs).2 ≠ ['i', 'n', 'f'] := fun he => by simp [he] at hn
    have hm : (sign? cs).2 ≠ ['n', 'a', 'n'] := fun he => by simp [he] at hn
    simp only [hi, hm, if_false]

theorem toList_toString_cases (n : Int) : 
    0 ≤ n ∧ (toString n).toList = digits n.natAbs ∨ n < 0 ∧ (toString n).toList = '-' :: digits n.natAbs := by
  rw [Text.toList_toString]
  split
  case isTrue h  => exact .inr ⟨h, rfl⟩
  case isFalse h => exact .inl ⟨by omega, rfl⟩

theorem ne_nil_toString (n : Int) : (toString n).toList ≠ [] := by
  obtain ⟨_, he⟩ | ⟨_, he⟩ := toList_toString_cases n <;> rw [he]
  case inl => exact Text.digits_ne_nil _
  case inr => exact List.cons_ne_nil _ _

-- There is nothing but digits in a number, and a minus.
theorem not_mem_toString (n : Int) (ds : List Char) (h : ds.all fun d => !d.isDigit && d ≠ '-') : 
    ∀ c ∈ (toString n).toList, c ∉ ds := by
  intro c hc hm
  have hd := List.all_eq_true.mp h c hm
  simp only [Bool.and_eq_true, Bool.not_eq_true', decide_eq_true_eq] at hd
  obtain ⟨_, he⟩ | ⟨_, he⟩ := toList_toString_cases n <;> rw [he] at hc
  case inl => exact not_mem_digits hd.left _ hc
  case inr => exact (List.mem_cons.mp hc).elim hd.right (not_mem_digits hd.left _)

theorem toString_not_mem (n : Int) (h : c.isDigit = false) (hm : c ≠ '-') : c ∉ (toString n).toList :=
  fun hc => not_mem_toString n [c] (by simp [h, hm]) c hc List.mem_cons_self

theorem number?_toString (n : Int) : number? (toString n).toList = some (.integer n) := by
  have hs : (sign? (toString n).toList).2 = digits n.natAbs ∧ 
      signed ((sign? (toString n).toList).1.getD false) n.natAbs = n := by
    obtain ⟨h, he⟩ | ⟨h, he⟩ := toList_toString_cases n
    case inl => 
      rw [he, sign?_digits]
      exact ⟨rfl, Int.natAbs_of_nonneg h⟩
    case inr => 
      rw [he]
      refine ⟨rfl, ?_⟩
      change -(n.natAbs : Int) = n
      omega
  rw [number?_eq_decimal? (toString_not_mem n rfl (by decide)) (toString_not_mem n rfl (by decide)) 
    (toString_not_mem n rfl (by decide)) (hs.left ▸ not_mem_digits rfl _), hs.left, decimal?_digits, hs.right]

theorem isMomentLike_toString (n : Int) : isMomentLike (toString n).toList = false := by
  obtain ⟨_, he⟩ | ⟨_, he⟩ := toList_toString_cases n <;> rw [he]
  case inl => simp [isMomentLike, dropWhile_digits]
  case inr => simp [isMomentLike, Char.isDigit]

theorem read?_toString (n : Int) : read? (toString n).toList = some (.integer n) := by
  have ht : (toString n).toList ≠ ['t', 'r', 'u', 'e'] := 
    fun he => toString_not_mem n (c := 't') rfl (by decide) (he ▸ List.mem_cons_self)
  have hf : (toString n).toList ≠ ['f', 'a', 'l', 's', 'e'] := 
    fun he => toString_not_mem n (c := 'f') rfl (by decide) (he ▸ List.mem_cons_self)
  rw [read?, if_neg ht, if_neg hf, isMomentLike_toString, if_neg Bool.false_ne_true, number?_toString]

end Scalar

namespace Writer

open Scalar

theorem written_integer (n : Int) : Written (toString n) (.integer n) where
  single := by
    have hn := ne_nil_toString n
    refine ⟨?starts, fun rest => ?cut⟩
    case starts =>
      have hd := not_mem_toString n [' ', '\t', '#', '\n', '\r', '[', '\x7b'] rfl
      have ⟨c, cs, hc⟩ := List.exists_cons_of_ne_nil hn
      exact ⟨c, cs, hc, hd c (hc ▸ List.mem_cons_self)⟩
    case cut    =>
      have hd := not_mem_toString n ['=', ',', '[', ']', '\x7b', '\x7d', '#', ' ', '\t', '\r', '\n'] rfl
      have hc : Word.cut (!Word.isDelimiter ·) ((toString n).toList ++ '\n' :: rest) = 
          ((toString n).toList, '\n' :: rest) := by
        refine Word.cut_unquoted hn (toString_not_mem n rfl (by decide)) (toString_not_mem n rfl (by decide)) 
          (fun c hc => ?_) (by simp [Word.isDelimiter])
        have := hd c hc
        simp_all [Word.isDelimiter]
      simp only [Word.cutScalar, hc]
      split <;> simp_all
  value? := by
    have hq : Word.isQuoted (toString n).toList = false := by
      have hs := not_mem_toString n [Quoting.quote, Quoting.apostrophe] rfl
      have ⟨c, cs, hc⟩ := List.exists_cons_of_ne_nil (ne_nil_toString n)
      have := hs c (hc ▸ List.mem_cons_self)
      rw [hc]
      simp_all [Word.isQuoted]
    rw [Word.value?, hq, if_neg Bool.false_ne_true, read?_toString]

end Writer
end Rollout.Toml
