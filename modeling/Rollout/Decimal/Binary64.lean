namespace Rollout

-- Binary floating point with 53 significant bits, in exact arithmetic: a finite magnitude is
-- `mantissa * 2 ^ exponent`. Mantissas have their top bit set, unless the exponent is the lowest.
structure Magnitude where
  mantissa : Nat
  exponent : Int
  deriving DecidableEq, Repr

inductive Binary64
  | finite (negative : Bool) (m : Magnitude)
  | infinite (negative : Bool)
  | nan
  deriving DecidableEq, Repr

namespace Magnitude

def precision : Nat := 53

def lowestExponent : Int := -1074

def highestExponent : Int := 971

def zero : Magnitude where
  mantissa := 0
  exponent := lowestExponent

-- The quotient, rounded to the nearer integer; a half goes to the even one.
def roundDiv (num den : Nat) : Nat :=
  let q := num / den
  let r := num % den
  if den < 2 * r || (2 * r = den && q % 2 = 1) then q + 1 else q

-- `num / den` as a fraction of `2 ^ e`.
def scaled (num den : Nat) : Int → Nat × Nat
  | .ofNat e   => (num, den * Nat.pow 2 e)
  | .negSucc e => (num * Nat.pow 2 (e + 1), den)

-- The exponent at which the quotient has as many bits as the precision allows.
def exponentFor (num den : Nat) : Int :=
  let e : Int := (Nat.log2 num : Int) - Nat.log2 den - (precision - 1 : Nat)
  let (n, d) := scaled num den e
  max lowestExponent (if n / d < Nat.pow 2 (precision - 1) then e - 1 else e)

-- The magnitude nearest to `num / den`, of two equally near ones that with the even mantissa.
-- There is none if the quotient is too large.
def nearest (num den : Nat) : Option Magnitude :=
  if num = 0 then some zero
  else
    let e := exponentFor num den
    let (n, d) := scaled num den e
    let m := roundDiv n d
    let (m, e) := if m = Nat.pow 2 precision then (Nat.pow 2 (precision - 1), e + 1) else (m, e)
    if highestExponent < e then none else some ⟨m, e⟩ 

-- The exact value as a quotient of natural numbers.
def quotient (m : Magnitude) : Nat × Nat :=
  match m.exponent with
  | .ofNat e   => (m.mantissa * Nat.pow 2 e, 1)
  | .negSucc e => (m.mantissa, Nat.pow 2 (e + 1))

def ofNat (n : Nat) : Option Magnitude :=
  nearest n 1

-- Products and quotients, correctly rounded.
def mul (a b : Magnitude) : Option Magnitude :=
  let (an, ad) := a.quotient
  let (bn, bd) := b.quotient
  nearest (an * bn) (ad * bd)

def div (a b : Magnitude) : Option Magnitude :=
  let (an, ad) := a.quotient
  let (bn, bd) := b.quotient
  nearest (an * bd) (ad * bn)

-- The magnitude nearest to `digits * Nat.pow 10 exponent`. Exponents far outside the range are decided
-- by their size, since their powers of ten would be too long to write down.
def ofDecimal (digits : Nat) (exponent : Int) : Option Magnitude :=
  let size : Int := (Nat.toDigits 10 digits).length + exponent
  if digits = 0 || size < -400 then some zero
  else if 400 < size then none
  else match exponent with
    | .ofNat e   => nearest (digits * Nat.pow 10 e) 1
    | .negSucc e => nearest digits (Nat.pow 10 (e + 1))

end Magnitude
end Rollout
