import Rollout.Json.Value
namespace Rollout.Json

-- Why a text is not taken for a document: it is not written like one, or it holds a number or a
-- string that cannot be kept.
inductive Error
  | malformed
  | unsound
  deriving DecidableEq, Repr

def Error.message : Error → String
  | malformed => "malformed JSON"
  | unsound   => "malformed JSON: value out of range"

namespace Document

def isSpace (c : Char) : Bool :=
  c = ' ' || c = '\n' || c = '\t' || c = '\r'

def skipSpaces (cs : List Char) : List Char :=
  cs.dropWhile isSpace

-- A unit of a string: a character, or half of a surrogate pair that an escape stands for.
inductive StringUnit
  | char (c : Char)
  | half (n : Nat)

def hexValue? (c : Char) : Option Nat :=
  if c.isDigit then some (c.toNat - '0'.toNat)
  else if 'a' ≤ c && c ≤ 'f' then some (c.toNat - 'a'.toNat + 10)
  else if 'A' ≤ c && c ≤ 'F' then some (c.toNat - 'A'.toNat + 10)
  else none

def unit? (digits : List Char) : Option StringUnit := do
  let n ← digits.foldlM (fun n c => (hexValue? c).map (16 * n + ·)) 0
  if h : n.isValidChar then some (.char (Char.ofNatAux n h)) else some (.half n)

def escape? : Char → Option Char
  | '"'  => some '"'
  | '\\' => some '\\'
  | '/'  => some '/'
  | 'b'  => some '\x08'
  | 'f'  => some '\x0c'
  | 'n'  => some '\n'
  | 'r'  => some '\r'
  | 't'  => some '\t'
  | _    => none

def emit (u : Option StringUnit) (read : Option (List StringUnit × List Char)) : 
    Option (List StringUnit × List Char) := do
  let u ← u
  let (us, rest) ← read
  return (u :: us, rest)

-- The units up to the closing quote, and what follows it. Control characters must be escaped.
def units? : List Char → Option (List StringUnit × List Char)
  | '"' :: cs => some ([], cs)
  | '\\' :: 'u' :: a :: b :: c :: d :: cs => emit (unit? [a, b, c, d]) (units? cs)
  | '\\' :: c :: cs => emit ((escape? c).map .char) (units? cs)
  | c :: cs => if c.toNat < 0x20 then none else emit (some (.char c)) (units? cs)
  | [] => none

-- The character that two halves make.
def joined? (high low : Nat) : Option Char :=
  let n := 0x10000 + 0x400 * (high - 0xD800) + (low - 0xDC00)
  if high < 0xDC00 && 0xDC00 ≤ low then (if h : n.isValidChar then some (Char.ofNatAux n h) else none)
  else none

def chars? : List StringUnit → Option (List Char)
  | []                         => some []
  | .char c :: us              => (chars? us).map (c :: ·)
  | .half high :: .half low :: us => do
    let c ← joined? high low
    return c :: (← chars? us)
  | .half _ :: _               => none

def digitRun (cs : List Char) : List Char :=
  cs.takeWhile Char.isDigit

def afterRun (cs : List Char) : List Char :=
  cs.dropWhile Char.isDigit

-- The whole part of a number: a zero, or digits that start with another one.
def whole? (cs : List Char) : Option (List Char × List Char) :=
  match digitRun cs with
  | []            => none
  | '0' :: _ :: _ => none
  | digits        => some (digits, afterRun cs)

def fraction? : List Char → Option (List Char × List Char)
  | '.' :: cs => if (digitRun cs).isEmpty then none else some (digitRun cs, afterRun cs)
  | cs        => some ([], cs)

def sign : List Char → Bool × List Char
  | '-' :: cs => (true, cs)
  | '+' :: cs => (false, cs)
  | cs        => (false, cs)

def exponentDigits? (cs : List Char) : Option (Option Int × List Char) :=
  let (negative, cs) := sign cs
  if (digitRun cs).isEmpty then none
  else
    let n : Int := (digitRun cs).foldl (fun n c => 10 * n + Numeral.digitValue c) 0
    some (some (if negative then -n else n), afterRun cs)

def exponent? : List Char → Option (Option Int × List Char)
  | 'e' :: cs => exponentDigits? cs
  | 'E' :: cs => exponentDigits? cs
  | cs        => some (none, cs)

def numeral? (negative : Bool) (cs : List Char) : Option (Numeral × List Char) := do
  let (whole, cs) ← whole? cs
  let (fraction, cs) ← fraction? cs
  let (exponent, cs) ← exponent? cs
  return (⟨negative, whole, fraction, exponent⟩, cs)

-- The elements of an array after its bracket. Every element is followed by a comma, but the last.
def elements? (value? : List Char → Option (Value × List Char)) : 
    Nat → List Char → Option (List Value × List Char)
  | 0,     _  => none
  | n + 1, cs => do
    let (v, rest) ← value? cs
    match skipSpaces rest with
    | ',' :: rest => do
      let (vs, rest) ← elements? value? n rest
      return (v :: vs, rest)
    | ']' :: rest => return ([v], rest)
    | _           => none

-- A quoted name, a colon and a value. Nothing stands for a name that has no text.
def member? (value? : List Char → Option (Value × List Char)) (cs : List Char) :
    Option ((Option String × Value) × List Char) := do
  let '"' :: cs := skipSpaces cs | none
  let (us, rest) ← units? cs
  let ':' :: rest := skipSpaces rest | none
  let (v, rest) ← value? rest
  return (((chars? us).map .ofList, v), rest)

def members? (value? : List Char → Option (Value × List Char)) : 
    Nat → List Char → Option (List (Option String × Value) × List Char)
  | 0,     _  => none
  | n + 1, cs => do
    let (m, rest) ← member? value? cs
    match skipSpaces rest with
    | ',' :: rest => do
      let (ms, rest) ← members? value? n rest
      return (m :: ms, rest)
    | '\x7d' :: rest => return ([m], rest)
    | _              => none

-- The members, if all their names have a text.
def named? : List (Option String × Value) → Option (List (String × Value))
  | []              => some []
  | (name, v) :: ms => do return (← name, v) :: (← named? ms)

-- A value, after blanks, and what follows it. Collections are nested at most `depth` deep.
def value? : Nat → List Char → Option (Value × List Char)
  | depth, cs =>
    match skipSpaces cs with
    | 'n' :: 'u' :: 'l' :: 'l' :: rest        => some (.null, rest)
    | 't' :: 'r' :: 'u' :: 'e' :: rest        => some (.boolean true, rest)
    | 'f' :: 'a' :: 'l' :: 's' :: 'e' :: rest => some (.boolean false, rest)
    | '"' :: rest => (units? rest).map fun (us, rest) => 
      ((chars? us).elim .unpaired fun s => .string (.ofList s), rest)
    | '[' :: rest =>
      match depth with
      | 0         => none
      | depth + 1 =>
        match skipSpaces rest with
        | ']' :: rest => some (.array [], rest)
        | _           => (elements? (value? depth) rest.length rest).map fun (vs, rest) => 
          (.array vs, rest)
    | '\x7b' :: rest =>
      match depth with
      | 0         => none
      | depth + 1 =>
        match skipSpaces rest with
        | '\x7d' :: rest => some (.object [], rest)
        | _              => (members? (value? depth) rest.length rest).map fun (ms, rest) => 
          ((named? ms).elim .unpaired .object, rest)
    | '-' :: rest => (numeral? true rest).map fun (n, rest) => (.number n, rest)
    | rest        => (numeral? false rest).map fun (n, rest) => (.number n, rest)

-- Reads the whole text as one value.
def readChars? (depth : Nat) (cs : List Char) : Option Value := do
  let (v, rest) ← value? depth cs
  if (skipSpaces rest).isEmpty then some v else none

end Document

mutual

-- Whether every string of the value has a text and every number in it can be kept.
def Value.isSound : Value → Bool
  | .number n       => n.read?.isSome
  | .unpaired       => false
  | .array items    => Value.areSound items
  | .object members => Value.haveSoundValues members
  | _               => true

def Value.areSound : List Value → Bool
  | []      => true
  | v :: vs => v.isSound && Value.areSound vs

def Value.haveSoundValues : List (String × Value) → Bool
  | []           => true
  | (_, v) :: ms => v.isSound && Value.haveSoundValues ms

end

mutual

-- How deep collections are nested in the value.
def Value.depth : Value → Nat
  | .array items    => Value.depthOfItems items + 1
  | .object members => Value.depthOfMembers members + 1
  | _               => 0

def Value.depthOfItems : List Value → Nat
  | []      => 0
  | v :: vs => max v.depth (Value.depthOfItems vs)

def Value.depthOfMembers : List (String × Value) → Nat
  | []           => 0
  | (_, v) :: ms => max v.depth (Value.depthOfMembers ms)

end

namespace Document

def maxDepth : Nat := 127

-- A document whose every value can be kept.
def read (text : String) : Except Error Value :=
  match readChars? maxDepth text.toList with
  | some v => if v.isSound then .ok v else .error .unsound
  | none   => .error .malformed

end Document
end Rollout.Json
