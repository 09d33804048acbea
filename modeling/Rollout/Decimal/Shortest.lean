import Rollout.Decimal.Binary64
namespace Rollout

-- Decimal text of a floating-point number: the fewest digits that read back as the same number,
-- and of those the nearest to it.

-- The value `digits * Nat.pow 10 exponent`.
structure Decimal where
  digits   : Nat
  exponent : Int
  deriving DecidableEq, Repr

namespace Decimal

-- What a format decides about the text of a number.
structure Layout where
  -- Of two digit strings that are equally near, the larger one (otherwise the even one).
  tiesUp     : Bool
  -- The positions of the decimal point for which all places are written out, from `lowest` to
  -- `highest`; outside of them an exponent is written. Without limits it never is.
  limits     : Option (Int × Int)
  -- What follows a whole number that is written out.
  wholeTail  : String
  -- The mark in front of an exponent that is not negative.
  exponentUp : String
  infinity   : String
  notANumber : String

-- Whether a value lies among the reals that round to the magnitude. The numbers compared are
-- multiples of a quarter of the last place; the ends count only for an even mantissa. Below a power
-- of two the neighbour is only half as far away.
def readsBack (m : Magnitude) (num den : Nat) : Bool :=
  let (n, d) := Magnitude.scaled num den (m.exponent - 2)
  let below := if m.mantissa = Nat.pow 2 (Magnitude.precision - 1) && Magnitude.lowestExponent < m.exponent 
    then 1 else 2
  let low  := (4 * m.mantissa - below) * d
  let high := (4 * m.mantissa + 2) * d
  if m.mantissa % 2 = 0 then low ≤ n && n ≤ high else low < n && n < high

-- The value of `digits * Nat.pow 10 e` as a quotient.
def quotient (digits : Nat) : Int → Nat × Nat
  | .ofNat e   => (digits * Nat.pow 10 e, 1)
  | .negSucc e => (digits, Nat.pow 10 (e + 1))

def digitCount (n : Nat) : Nat :=
  (Nat.toDigits 10 n).length

-- The exponent of the first decimal digit of a positive quotient.
def leadingExponent (num den : Nat) : Int :=
  if den ≤ num then (digitCount (num / den) : Int) - 1
  else -(digitCount ((den + num - 1) / num - 1) : Int)

-- The candidates at a grid of `n` digits: the two neighbours of the value, nearer one first.
def candidates (tiesUp : Bool) (m : Magnitude) (n : Nat) : List Decimal :=
  let (num, den) := m.quotient
  let e := leadingExponent num den - n + 1
  let (vn, vd) := match e with
    | .ofNat k   => (num, den * Nat.pow 10 k)
    | .negSucc k => (num * Nat.pow 10 (k + 1), den)
  let low  := vn / vd
  let rest := 2 * (vn % vd)
  let lowFirst := rest < vd || (rest = vd && !tiesUp && low % 2 = 0)
  if lowFirst then [⟨low, e⟩, ⟨low + 1, e⟩] else [⟨low + 1, e⟩, ⟨low, e⟩]

def shortest (tiesUp : Bool) (m : Magnitude) : Decimal :=
  if m.mantissa = 0 then ⟨0, 0⟩ 
  else 
    let hits := (List.range 17).flatMap fun n => 
      (candidates tiesUp m (n + 1)).filter fun c => 
        let (num, den) := quotient c.digits c.exponent
        readsBack m num den
    hits.head?.getD ⟨m.mantissa, 0⟩

-- Zeros at the end of the digits belong to the exponent.
def withoutTrailingZeros (digits : List Char) (e : Int) : List Char × Int :=
  let zeros := (digits.reverse.takeWhile (· = '0')).length
  (digits.take (digits.length - zeros), e + zeros)

def zeros (n : Nat) : List Char :=
  List.replicate n '0'

def positive (layout : Layout) (d : Decimal) : List Char :=
  let (digits, e) := withoutTrailingZeros (Nat.toDigits 10 d.digits) d.exponent
  let point : Int := digits.length + e
  if layout.limits.all fun (low, high) => low ≤ point && point ≤ high then
    if 0 ≤ e then digits ++ zeros e.toNat ++ layout.wholeTail.toList
    else if 0 < point then digits.take point.toNat ++ '.' :: digits.drop point.toNat
    else '0' :: '.' :: zeros (-point).toNat ++ digits
  else
    let up := if 0 < point then layout.exponentUp else "e-"
    let shown := up.toList ++ Nat.toDigits 10 (point - 1).natAbs
    match digits with
    | [d]     => d :: shown
    | d :: ds => d :: '.' :: ds ++ shown
    | []      => shown

def magnitudeText (layout : Layout) (m : Magnitude) : String :=
  if m.mantissa = 0 then "0" ++ layout.wholeTail 
  else .ofList (positive layout (shortest layout.tiesUp m))

def signed (negative : Bool) (text : String) : String :=
  if negative then "-" ++ text else text

def text (layout : Layout) : Binary64 → String
  | .finite negative m => signed negative (magnitudeText layout m)
  | .infinite negative => signed negative layout.infinity
  | .nan               => layout.notANumber

end Decimal
end Rollout
