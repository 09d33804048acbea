import Rollout.Decimal.Shortest
namespace Rollout.Json

-- A number as it is written: its digits before and after the point, and its exponent.
structure Numeral where
  negative : Bool
  whole    : List Char
  fraction : List Char
  exponent : Option Int
  deriving DecidableEq, Repr

-- The values of a document, as written: objects keep all members in order, also repeated ones, and
-- numbers keep their digits. A string with half of a surrogate pair has no text, and an object with
-- such a name has no members that could be looked up.
inductive Value
  | null
  | boolean (b : Bool)
  | number (n : Numeral)
  | string (s : String)
  | unpaired
  | array (items : List Value)
  | object (members : List (String × Value))

-- The numbers that can be kept: integers of 64 bits, with or without a sign, and floats.
inductive Number
  | natural (n : Nat)
  | negative (n : Int)
  | real (x : Binary64)
  deriving DecidableEq, Repr

namespace Number

-- How floats are written: with a point or an exponent, so that they are not taken for integers.
def layout : Decimal.Layout where
  tiesUp     := false
  limits     := some (-4, 16)
  wholeTail  := ".0"
  exponentUp := "e+"
  infinity   := "null"
  notANumber := "null"

def text : Number → String
  | natural n  => toString n
  | negative n => toString n
  | real x     => Decimal.text layout x

end Number

namespace Numeral

def digitValue (c : Char) : Nat :=
  c.toNat - '0'.toNat

-- Digits are gathered while they fit into 64 bits. Digits of the whole part that do not fit any more
-- raise the exponent instead.
def wholeDigits (significand : Nat) : List Char → Nat × Nat
  | []      => (significand, 0)
  | c :: cs =>
    let next := 10 * significand + digitValue c
    if next < Nat.pow 2 64 then wholeDigits next cs else (significand, (c :: cs).length)

-- Digits of the fraction lower the exponent, and are dropped from the first one that does not fit.
def fractionDigits (significand : Nat) (taken : Nat) : List Char → Nat × Nat
  | []      => (significand, taken)
  | c :: cs =>
    let next := 10 * significand + digitValue c
    if next < Nat.pow 2 64 then fractionDigits next (taken + 1) cs else (significand, taken)

def powerOfTen (n : Nat) : Magnitude :=
  (Magnitude.ofDecimal 1 n).getD .zero

-- The highest power of ten that a float can hold.
def highestPower : Nat := 308

-- The significand moved by the exponent, in one rounded step for each power of ten that fits into a 
-- float. Three steps downwards reach zero from any significand.
def shift : Nat → Magnitude → Int → Option Magnitude
  | 0,     m, _ => some m
  | n + 1, m, e =>
    if e.natAbs ≤ highestPower then
      if 0 ≤ e then m.mul (powerOfTen e.toNat) else m.div (powerOfTen (-e).toNat)
    else if m.mantissa = 0 then some m
    else if 0 ≤ e then none
    else (m.div (powerOfTen highestPower)).bind fun m => shift n m (e + highestPower)

def magnitude? (n : Numeral) : Option Magnitude := do
  let (significand, dropped) := wholeDigits 0 n.whole
  let (significand, taken) := fractionDigits significand 0 n.fraction
  shift 4 (← Magnitude.ofNat significand) ((dropped : Int) - taken + n.exponent.getD 0)

-- The number that a numeral stands for, unless it is too large. Whole numerals are integers if they
-- fit; the negative zero is a float.
def read? (n : Numeral) : Option Number :=
  let (significand, dropped) := wholeDigits 0 n.whole
  if n.fraction.isEmpty && n.exponent.isNone && dropped = 0 then
    if !n.negative then some (.natural significand)
    else if significand = 0 || Nat.pow 2 63 < significand then
      (Magnitude.ofNat significand).map fun m => .real (.finite true m)
    else some (.negative (-significand))
  else n.magnitude?.map fun m => .real (.finite n.negative m)

end Numeral
end Rollout.Json
