import Mathlib.Data.List.Basic
import Rollout.Json.Document
namespace Rollout.Json

namespace Document

-- How the characters of a text are written between the quotes of a string: as themselves, or escaped. Two
-- escapes stand for a character that has no code of four digits.
inductive Spells : List Char → List Char → Prop
  | nil : Spells [] []
  | plain {c cs w} (printable : 0x20 ≤ c.toNat) (ne_quote : c ≠ '"') (ne_backslash : c ≠ '\\') 
    (rest : Spells cs w) : Spells (c :: cs) (c :: w)
  | short {c d cs w} (escape : escape? d = some c) (rest : Spells cs w) : Spells (c :: cs) ('\\' :: d :: w)
  | code {c a b d e cs w} (unit : unit? [a, b, d, e] = some (.char c)) (rest : Spells cs w) : 
    Spells (c :: cs) ('\\' :: 'u' :: a :: b :: d :: e :: w)
  | pair {m n c a b d e a' b' d' e' cs w} (high : unit? [a, b, d, e] = some (.half m)) 
    (low : unit? [a', b', d', e'] = some (.half n)) (joined : joined? m n = some c) (rest : Spells cs w) : 
    Spells (c :: cs) ('\\' :: 'u' :: a :: b :: d :: e :: '\\' :: 'u' :: a' :: b' :: d' :: e' :: w)

variable {cs w rest : List Char}

@[simp]
theorem emit_some {u : StringUnit} {us : List StringUnit} : 
    emit (some u) (some (us, rest)) = some (u :: us, rest) :=
  rfl

-- A string is read up to its closing quote, as the text that it was written for.
theorem Spells.units? (h : Spells cs w) (rest : List Char) : 
    ∃ us, units? (w ++ '"' :: rest) = some (us, rest) ∧ chars? us = some cs := by
  induction h
  case nil => exact ⟨[], rfl, rfl⟩
  case plain c _ _ hp hq hb _ hi =>
    have ⟨us, hu, hc⟩ := hi
    have hp : ¬c.toNat < 0x20 := by omega
    exact ⟨.char c :: us, by simp [Document.units?, hp, hb, hu], by simp [chars?, hc]⟩
  case short c d _ _ he _ hi =>
    have ⟨us, hu, hc⟩ := hi
    refine ⟨.char c :: us, ?_, by simp [chars?, hc]⟩
    unfold escape? at he
    split at he <;> cases he <;> simp [Document.units?, escape?, hu]
  case code c _ _ _ _ _ _ hc' _ hi =>
    have ⟨us, hu, hc⟩ := hi
    exact ⟨.char c :: us, by simp [Document.units?, hc', hu], by simp [chars?, hc]⟩
  case pair m n _ _ _ _ _ _ _ _ _ _ _ hm hn hj _ hi =>
    have ⟨us, hu, hc⟩ := hi
    exact ⟨.half m :: .half n :: us, by simp [Document.units?, hm, hn, hu], by simp [chars?, hj, hc]⟩

-- What does not go on with a number.
def Ends (rest : List Char) : Prop :=
  ∀ c ∈ rest.head?, c.isDigit = false ∧ c ≠ '.' ∧ c ≠ 'e' ∧ c ≠ 'E'

-- A run of digits, with at least one in it.
structure Digits (w : List Char) : Prop where
  ne_nil : w ≠ []
  all    : ∀ c ∈ w, c.isDigit

theorem digitRun_append (h : Digits w) (hr : ∀ c ∈ rest.head?, c.isDigit = false) : 
    digitRun (w ++ rest) = w ∧ afterRun (w ++ rest) = rest := by
  rw [digitRun, afterRun, List.takeWhile_append_of_pos h.all, List.dropWhile_append_of_pos h.all]
  cases rest <;> simp_all

end Document

namespace Numeral

open Document

-- How the digits behind the point are written, and how the exponent is. Both can be missing.
inductive WritesFraction : List Char → List Char → Prop
  | missing : WritesFraction [] []
  | point {ds} (digits : Digits ds) : WritesFraction ds ('.' :: ds)

def exponentOf (negative : Bool) (ds : List Char) : Int :=
  let n : Int := ds.foldl (fun n c => 10 * n + digitValue c) 0
  if negative then -n else n

inductive WritesExponent : Option Int → List Char → Prop
  | missing : WritesExponent none []
  | plain {e ds} (letter : e = 'e' ∨ e = 'E') (digits : Digits ds) : 
    WritesExponent (some (exponentOf false ds)) (e :: ds)
  | signed {e s ds} (letter : e = 'e' ∨ e = 'E') (sign : s = '+' ∨ s = '-') (digits : Digits ds) : 
    WritesExponent (some (exponentOf (s = '-') ds)) (e :: s :: ds)

-- How a number is written. Only a zero that stands alone is the first digit of the whole part.
inductive Writes : Numeral → List Char → Prop
  | intro {negative whole fraction exponent f e} (digits : Digits whole) 
    (first : whole.head? = some '0' → whole = ['0']) (decimals : WritesFraction fraction f) 
    (power : WritesExponent exponent e) : 
    Writes ⟨negative, whole, fraction, exponent⟩ ((if negative then ['-'] else []) ++ whole ++ f ++ e)

variable {n : Numeral} {whole fraction ds w f rest : List Char} {exponent : Option Int}

theorem whole?_append (h : Digits whole) (hz : whole.head? = some '0' → whole = ['0']) 
    (hr : ∀ c ∈ rest.head?, c.isDigit = false) : whole? (whole ++ rest) = some (whole, rest) := by
  have ⟨ht, hd⟩ := digitRun_append h hr
  unfold whole?
  rw [ht, hd]
  split
  case h_1         => exact absurd rfl h.ne_nil
  case h_2         => simp at hz
  case h_3         => rfl

theorem WritesFraction.fraction?_append (h : WritesFraction fraction f) 
    (hr : ∀ c ∈ rest.head?, c.isDigit = false ∧ c ≠ '.') : fraction? (f ++ rest) = some (fraction, rest) := by
  cases h
  case missing  => 
    rw [List.nil_append]
    unfold fraction?
    split
    case h_1 => simp at hr
    case h_2 => rfl
  case point hd =>
    have ⟨ht, ha⟩ := digitRun_append hd fun c hc => (hr c hc).left
    simp [fraction?, ht, ha, hd.ne_nil]

theorem sign_digits (h : Digits ds) (rest : List Char) : sign (ds ++ rest) = (false, ds ++ rest) := by
  have ⟨hn, ha⟩ := h
  cases ds
  case nil       => contradiction
  case cons c ds => 
    have hc := ha c List.mem_cons_self
    rw [List.cons_append]
    unfold sign
    split
    case h_3 => rfl
    all_goals simp_all [Char.isDigit]

theorem exponentDigits?_append (h : Digits ds) (hr : ∀ c ∈ rest.head?, c.isDigit = false) : 
    exponentDigits? (ds ++ rest) = some (some (exponentOf false ds), rest) ∧ 
    exponentDigits? ('+' :: ds ++ rest) = some (some (exponentOf false ds), rest) ∧ 
    exponentDigits? ('-' :: ds ++ rest) = some (some (exponentOf true ds), rest) := by
  have ⟨ht, ha⟩ := digitRun_append h hr
  have hp : sign ('+' :: (ds ++ rest)) = (false, ds ++ rest) := rfl
  have hm : sign ('-' :: (ds ++ rest)) = (true, ds ++ rest) := rfl
  simp [exponentDigits?, sign_digits h, hp, hm, ht, ha, h.ne_nil, exponentOf]

theorem WritesExponent.exponent?_append (h : WritesExponent exponent w) (hr : Ends rest) : 
    exponent? (w ++ rest) = some (exponent, rest) := by
  have hd : ∀ c ∈ rest.head?, c.isDigit = false := fun c hc => (hr c hc).left
  cases h
  case missing         => 
    rw [List.nil_append]
    unfold exponent?
    split
    case h_3 => rfl
    all_goals simp [Ends] at hr
  case plain he hds     =>
    have ⟨h, _⟩ := exponentDigits?_append hds hd
    obtain rfl | rfl := he <;> simp [exponent?, h]
  case signed he hs hds =>
    have ⟨_, hp, hm⟩ := exponentDigits?_append hds hd
    rw [List.cons_append] at hp hm
    obtain rfl | rfl := he <;> obtain rfl | rfl := hs <;> simp [exponent?, hp, hm]

-- What follows the whole part of a number, or its fraction, is no further digit.
theorem WritesExponent.head? (h : WritesExponent exponent w) (hr : Ends rest) : 
    ∀ c ∈ (w ++ rest).head?, c.isDigit = false ∧ c ≠ '.' := by
  cases h
  case missing       => exact fun c hc => ⟨(hr c hc).left, (hr c hc).right.left⟩
  case plain he _    => obtain rfl | rfl := he <;> simp [Char.isDigit]
  case signed he _ _ => obtain rfl | rfl := he <;> simp [Char.isDigit]

theorem WritesFraction.head? (h : WritesFraction fraction f) 
    (hr : ∀ c ∈ rest.head?, c.isDigit = false ∧ c ≠ '.') : ∀ c ∈ (f ++ rest).head?, c.isDigit = false := by
  cases h
  case missing => exact fun c hc => (hr c hc).left
  case point   => simp [Char.isDigit]

theorem numeral?_append (negative : Bool) (hw : Digits whole) (hz : whole.head? = some '0' → whole = ['0']) 
    (hf : WritesFraction fraction f) (he : WritesExponent exponent w) (hr : Ends rest) : 
    numeral? negative (whole ++ (f ++ (w ++ rest))) = some (⟨negative, whole, fraction, exponent⟩, rest) := by
  have hhe := he.head? hr
  simp [numeral?, whole?_append hw hz (hf.head? hhe), hf.fraction?_append hhe, he.exponent?_append hr]

end Numeral
end Rollout.Json
