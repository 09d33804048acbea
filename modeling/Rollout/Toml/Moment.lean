namespace Rollout.Toml

-- Dates and times as a document writes them: a date, a time of day, or both, and with both possibly
-- an offset from universal time. The numbers are in range, but no calendar is applied to them beyond
-- the lengths of months.
structure Date where
  year  : Nat
  month : Nat
  day   : Nat
  deriving DecidableEq, Repr

structure Time where
  hour   : Nat
  minute : Nat
  second : Nat
  nano   : Nat
  deriving DecidableEq, Repr

inductive Offset
  | universal
  | minutes (m : Int)
  deriving DecidableEq, Repr

inductive Moment
  | date (d : Date)
  | time (t : Time)
  | both (d : Date) (t : Time) (offset : Option Offset)
  deriving DecidableEq, Repr

-- A number with leading zeros up to a width.
def padded (width n : Nat) : List Char :=
  let digits := Nat.toDigits 10 n
  List.replicate (width - digits.length) '0' ++ digits

def number (digits : List Char) : Nat :=
  digits.foldl (fun n c => 10 * n + (c.toNat - '0'.toNat)) 0

-- A number of exactly that many digits in front of the rest.
def fixed? (width : Nat) (cs : List Char) : Option (Nat × List Char) :=
  let digits := cs.take width
  if digits.length = width && digits.all Char.isDigit then some (number digits, cs.drop width)
  else none

namespace Date

def isLeap (year : Nat) : Bool :=
  year % 4 = 0 && (year % 100 ≠ 0 || year % 400 = 0)

def daysIn (year month : Nat) : Nat :=
  if month = 2 then (if isLeap year then 29 else 28)
  else if month ∈ [4, 6, 9, 11] then 30
  else 31

def chars (d : Date) : List Char :=
  padded 4 d.year ++ '-' :: padded 2 d.month ++ '-' :: padded 2 d.day

def read? (cs : List Char) : Option (Date × List Char) := do
  let (year, cs) ← fixed? 4 cs
  let '-' :: cs := cs | none
  let (month, cs) ← fixed? 2 cs
  let '-' :: cs := cs | none
  let (day, cs) ← fixed? 2 cs
  guard (1 ≤ month && month ≤ 12 && 1 ≤ day && day ≤ daysIn year month)
  return (⟨year, month, day⟩, cs)

end Date

namespace Time

-- The digits of a fraction count from the first one on, so nine of them make nanoseconds. Finer
-- ones are cut off.
def fraction (digits : List Char) : Nat :=
  number (digits.take 9) * Nat.pow 10 (9 - digits.length)

-- The fraction is written without trailing zeros, and not at all if it is zero.
def fractionChars (nano : Nat) : List Char :=
  if nano = 0 then [] 
  else '.' :: ((padded 9 nano).reverse.dropWhile (· = '0')).reverse

def chars (t : Time) : List Char :=
  padded 2 t.hour ++ ':' :: padded 2 t.minute ++ ':' :: padded 2 t.second ++ fractionChars t.nano

def readSeconds? (cs : List Char) : Option ((Nat × Nat) × List Char) :=
  match cs with
  | ':' :: cs => do
    let (second, cs) ← fixed? 2 cs
    match cs with
    | '.' :: cs =>
      let digits := cs.takeWhile Char.isDigit
      if digits.isEmpty then none else some ((second, fraction digits), cs.dropWhile Char.isDigit)
    | cs => some ((second, 0), cs)
  | cs => some ((0, 0), cs)

-- Seconds may be missing, and the sixtieth is that of a leap second.
def read? (cs : List Char) : Option (Time × List Char) := do
  let (hour, cs) ← fixed? 2 cs
  let ':' :: cs := cs | none
  let (minute, cs) ← fixed? 2 cs
  let ((second, nano), cs) ← readSeconds? cs
  guard (hour ≤ 23 && minute ≤ 59 && second ≤ 60)
  return (⟨hour, minute, second, nano⟩, cs)

end Time

namespace Offset

def chars : Offset → List Char
  | universal => ['Z']
  | minutes m =>
    (if m < 0 then '-' else '+') :: padded 2 (m.natAbs / 60) ++ ':' :: padded 2 (m.natAbs % 60)

def readMinutes? (cs : List Char) : Option (Nat × List Char) := do
  let (hour, cs) ← fixed? 2 cs
  let ':' :: cs := cs | none
  let (minute, cs) ← fixed? 2 cs
  guard (hour ≤ 23 && minute ≤ 59)
  return (60 * hour + minute, cs)

def read? : List Char → Option (Offset × List Char)
  | 'Z' :: cs => some (universal, cs)
  | 'z' :: cs => some (universal, cs)
  | '+' :: cs => (readMinutes? cs).map fun (m, cs) => (minutes m, cs)
  | '-' :: cs => (readMinutes? cs).map fun (m, cs) => (minutes (-m), cs)
  | _         => none

end Offset

namespace Moment

def chars : Moment → List Char
  | date d      => d.chars
  | time t      => t.chars
  | both d t offset => d.chars ++ 'T' :: t.chars ++ offset.elim [] Offset.chars

def text (m : Moment) : String :=
  .ofList m.chars

-- What may follow a date: nothing, or a time of day and then possibly an offset.
def readAfterDate? (d : Date) : List Char → Option Moment
  | []      => some (date d)
  | c :: cs => do
    guard (c = 'T' || c = 't' || c = ' ')
    match ← Time.read? cs with
    | (t, []) => return both d t none
    | (t, cs) =>
      match ← Offset.read? cs with
      | (offset, []) => return both d t (some offset)
      | _            => none

-- Reads the whole text as a date, a time or both.
def read? (cs : List Char) : Option Moment :=
  match Date.read? cs with
  | some (d, cs) => readAfterDate? d cs
  | none         =>
    match Time.read? cs with
    | some (t, []) => some (time t)
    | _            => none

end Moment
end Rollout.Toml
