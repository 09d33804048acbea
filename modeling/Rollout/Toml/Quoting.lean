namespace Rollout.Toml

-- Quoted texts, in four forms: basic or literal, on one line or several. Basic forms know escapes,
-- literal forms show everything as it is.
namespace Quoting

def quote : Char := '"'
def apostrophe : Char := '\x27'

def isControl (c : Char) : Bool :=
  c.toNat < 0x20 || c.toNat = 0x7F

-- What may stand unescaped in a text on one line: no control character but the tab.
def isPlain (c : Char) : Bool :=
  !isControl c || c = '\t'

def hexValue? (c : Char) : Option Nat :=
  if c.isDigit then some (c.toNat - '0'.toNat)
  else if 'a' ≤ c && c ≤ 'f' then some (c.toNat - 'a'.toNat + 10)
  else if 'A' ≤ c && c ≤ 'F' then some (c.toNat - 'A'.toNat + 10)
  else none

-- The character with the code point in hexadecimal digits. Surrogates are no characters.
def scalar? (digits : List Char) : Option Char := do
  let n ← digits.foldlM (fun n c => (hexValue? c).map (16 * n + ·)) 0
  if h : n.isValidChar then some (Char.ofNatAux n h) else none

def escape? : Char → Option Char
  | 'b'  => some '\x08'
  | 't'  => some '\t'
  | 'n'  => some '\n'
  | 'f'  => some '\x0c'
  | 'r'  => some '\r'
  | 'e'  => some '\x1b'
  | '"'  => some '"'
  | '\\' => some '\\'
  | _    => none

-- Puts a character in front of what was read after it.
def emit (c : Option Char) (read : Option (List Char × List Char)) : 
    Option (List Char × List Char) := do
  let c ← c
  let (s, rest) ← read
  return (c :: s, rest)

-- The text up to the closing quote, and what follows it.
def basic? : List Char → Option (List Char × List Char)
  | '"' :: cs => some ([], cs)
  | '\\' :: 'x' :: a :: b :: cs => emit (scalar? [a, b]) (basic? cs)
  | '\\' :: 'u' :: a :: b :: c :: d :: cs => emit (scalar? [a, b, c, d]) (basic? cs)
  | '\\' :: 'U' :: a :: b :: c :: d :: e :: f :: g :: h :: cs => 
    emit (scalar? [a, b, c, d, e, f, g, h]) (basic? cs)
  | '\\' :: c :: cs => emit (escape? c) (basic? cs)
  | c :: cs => if isPlain c then emit (some c) (basic? cs) else none
  | [] => none

def literal? (cs : List Char) : Option (List Char × List Char) :=
  let s := cs.takeWhile (· ≠ apostrophe)
  match cs.dropWhile (· ≠ apostrophe) with
  | _ :: rest => if s.all isPlain then some (s, rest) else none
  | []        => none

-- In a text on several lines, a backslash at the end of a line hides the line break and all blanks
-- up to the next text. While such a gap is read, the position in it matters.
inductive Gap
  | none
  | beforeBreak
  | afterBreak
  deriving DecidableEq

-- The text up to the closing three quotes. One or two further quotes before the end are text.
def lines? : Gap → List Char → Option (List Char × List Char)
  | .beforeBreak, ' ' :: cs => lines? .beforeBreak cs
  | .beforeBreak, '\t' :: cs => lines? .beforeBreak cs
  | .beforeBreak, '\n' :: cs => lines? .afterBreak cs
  | .beforeBreak, '\r' :: '\n' :: cs => lines? .afterBreak cs
  | .beforeBreak, _ => .none
  | .afterBreak, ' ' :: cs => lines? .afterBreak cs
  | .afterBreak, '\t' :: cs => lines? .afterBreak cs
  | .afterBreak, '\n' :: cs => lines? .afterBreak cs
  | .afterBreak, '\r' :: '\n' :: cs => lines? .afterBreak cs
  | _, '"' :: '"' :: '"' :: '"' :: '"' :: cs => some (['"', '"'], cs)
  | _, '"' :: '"' :: '"' :: '"' :: cs => some (['"'], cs)
  | _, '"' :: '"' :: '"' :: cs => some ([], cs)
  | _, '\\' :: ' ' :: cs => lines? .beforeBreak cs
  | _, '\\' :: '\t' :: cs => lines? .beforeBreak cs
  | _, '\\' :: '\n' :: cs => lines? .afterBreak cs
  | _, '\\' :: '\r' :: '\n' :: cs => lines? .afterBreak cs
  | _, '\\' :: 'x' :: a :: b :: cs => emit (scalar? [a, b]) (lines? .none cs)
  | _, '\\' :: 'u' :: a :: b :: c :: d :: cs => emit (scalar? [a, b, c, d]) (lines? .none cs)
  | _, '\\' :: 'U' :: a :: b :: c :: d :: e :: f :: g :: h :: cs => 
    emit (scalar? [a, b, c, d, e, f, g, h]) (lines? .none cs)
  | _, '\\' :: c :: cs => emit (escape? c) (lines? .none cs)
  | _, '\r' :: '\n' :: cs => emit (some '\r') (emit (some '\n') (lines? .none cs))
  | _, c :: cs => if isPlain c || c = '\n' then emit (some c) (lines? .none cs) else none
  | _, [] => .none

def literalLines? : List Char → Option (List Char × List Char)
  | '\x27' :: '\x27' :: '\x27' :: '\x27' :: '\x27' :: cs => some (['\x27', '\x27'], cs)
  | '\x27' :: '\x27' :: '\x27' :: '\x27' :: cs => some (['\x27'], cs)
  | '\x27' :: '\x27' :: '\x27' :: cs => some ([], cs)
  | '\r' :: '\n' :: cs => emit (some '\r') (emit (some '\n') (literalLines? cs))
  | c :: cs => if isPlain c || c = '\n' then emit (some c) (literalLines? cs) else none
  | [] => none

-- A line break directly after the opening quotes is not part of the text.
def afterOpening : List Char → List Char
  | '\n' :: cs         => cs
  | '\r' :: '\n' :: cs => cs
  | cs                 => cs

-- A quoted text on one line, as keys are.
def line? : List Char → Option (List Char × List Char)
  | '"' :: cs    => basic? cs
  | '\x27' :: cs => literal? cs
  | _            => none

-- Any quoted text.
def scan? : List Char → Option (List Char × List Char)
  | '"' :: '"' :: '"' :: cs          => lines? .none (afterOpening cs)
  | '\x27' :: '\x27' :: '\x27' :: cs => literalLines? (afterOpening cs)
  | cs                               => line? cs

end Quoting
end Rollout.Toml
