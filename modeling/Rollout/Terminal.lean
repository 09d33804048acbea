namespace Rollout

-- Texts can hold control sequences, with which a terminal changes how it shows what follows. Where
-- there is no terminal, only what would be seen is left of them.
namespace Terminal

-- The kind of control sequence that has been begun and not ended.
inductive Sequence
  | none
  -- The escape character alone.
  | escape
  -- The escape character and further characters that do not end it.
  | intermediate
  -- Parameters, up to a letter.
  | parameters
  -- A command to the system, up to the bell.
  | command
  -- What stands in front of a string for a device, up to a letter.
  | device
  | string
  deriving DecidableEq, Repr

def within (low high : Nat) (c : Char) : Bool :=
  low ≤ c.toNat && c.toNat ≤ high

def isBlank (c : Char) : Bool :=
  c = '\t' || c = '\n' || c = '\x0c' || c = '\r'

-- Whether the character is seen, if it does not belong to a sequence.
def isVisible (c : Char) : Bool :=
  isBlank c || !(within 0x00 0x1F c || c.toNat = 0x7F)

namespace Sequence

def afterEscape (c : Char) : Sequence :=
  if c = '[' then parameters
  else if c = ']' then command
  else if c = 'P' then device
  else if c = 'X' || c = '^' || c = '_' then string
  else if within 0x30 0x7E c then none
  else if within 0x20 0x2F c then intermediate
  else escape

-- Strings end at a byte that can also be a part of a character.
def endsString (c : Char) : Bool :=
  (String.utf8EncodeChar c).contains 0x9C

-- The sequence that is open after a further character. A new one can begin anywhere, and two
-- characters cancel any.
def next (s : Sequence) (c : Char) : Sequence :=
  if c = '\x1b' then escape
  else if c = '\x18' || c = '\x1a' then none
  else match s with
    | none         => none
    | escape       => afterEscape c
    | intermediate => if within 0x30 0x7E c then none else intermediate
    | parameters   => if within 0x40 0x7E c then none else parameters
    | command      => if c = '\x07' then none else command
    | device       => if within 0x40 0x7E c then string else device
    | string       => if endsString c then none else string

-- Whether a character is seen. Blanks interrupt a sequence unless it is a text by itself, and
-- everything visible behind them is seen as well.
def shows (s : Sequence) (interrupted : Bool) (c : Char) : Bool :=
  isVisible c && 
    (interrupted || s = none || (isBlank c && (s = escape || s = intermediate || s = parameters)))

-- The characters that are seen. An interrupted sequence goes on at the next character that is not
-- seen, unless a character outside of ASCII has stood before it.
def visible : Sequence → Bool → List Char → List Char
  | _, _,           []      => []
  | s, interrupted, c :: cs =>
    if s.shows interrupted c then c :: visible (if c.toNat < 0x80 then s else none) true cs
    else visible (s.next c) false cs

end Sequence

-- The text without control sequences and without control characters other than blanks.
def plain (s : String) : String :=
  .ofList (Sequence.visible .none false s.toList)

def strong (s : String) : String :=
  "\x1b[1m" ++ s ++ "\x1b[0m"

end Terminal
end Rollout
