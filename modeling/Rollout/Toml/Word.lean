import Rollout.Toml.Quoting
import Rollout.Toml.Scalar
namespace Rollout.Toml

-- Keys and scalars are words, which are cut out of a document before anything is known about what
-- they mean. A word can turn out to mean nothing.
abbrev Word := List Char

namespace Word

-- Puts characters in front of a word that was cut out behind them.
def behind (cs : List Char) (cut : Word × List Char) : Word × List Char :=
  (cs ++ cut.1, cut.2)

-- The rest of a basic text: up to its closing quote, or to the end of the line if there is none. A
-- quote behind a backslash does not close it.
def cutBasic : List Char → Word × List Char
  | '"' :: cs          => (['"'], cs)
  | '\n' :: cs         => ([], '\n' :: cs)
  | '\\' :: '"' :: cs  => behind ['\\', '"'] (cutBasic cs)
  | '\\' :: '\\' :: cs => behind ['\\', '\\'] (cutBasic cs)
  | c :: cs            => behind [c] (cutBasic cs)
  | []                 => ([], [])

def cutLiteral : List Char → Word × List Char
  | '\x27' :: cs => (['\x27'], cs)
  | '\n' :: cs   => ([], '\n' :: cs)
  | c :: cs      => behind [c] (cutLiteral cs)
  | []           => ([], [])

-- The rest of a basic text on several lines: up to three quotes, or to the end of the document. One
-- or two further quotes belong to it.
def cutLines : List Char → Word × List Char
  | '"' :: '"' :: '"' :: '"' :: '"' :: cs => (['"', '"', '"', '"', '"'], cs)
  | '"' :: '"' :: '"' :: '"' :: cs        => (['"', '"', '"', '"'], cs)
  | '"' :: '"' :: '"' :: cs               => (['"', '"', '"'], cs)
  | '\\' :: '"' :: cs                     => behind ['\\', '"'] (cutLines cs)
  | '\\' :: '\\' :: cs                    => behind ['\\', '\\'] (cutLines cs)
  | c :: cs                               => behind [c] (cutLines cs)
  | []                                    => ([], [])

def cutLiteralLines : List Char → Word × List Char
  | '\x27' :: '\x27' :: '\x27' :: '\x27' :: '\x27' :: cs => 
    (['\x27', '\x27', '\x27', '\x27', '\x27'], cs)
  | '\x27' :: '\x27' :: '\x27' :: '\x27' :: cs => (['\x27', '\x27', '\x27', '\x27'], cs)
  | '\x27' :: '\x27' :: '\x27' :: cs           => (['\x27', '\x27', '\x27'], cs)
  | c :: cs                                    => behind [c] (cutLiteralLines cs)
  | []                                         => ([], [])

-- The characters that end a word that is not quoted.
def isDelimiter (c : Char) : Bool :=
  c ∈ ['=', ',', '[', ']', '\x7b', '\x7d', '#', ' ', '\t', '\r', '\n']

-- Cuts out the word in front, if it is quoted, and else the characters that may belong to it.
def cut (belongs : Char → Bool) : List Char → Word × List Char
  | '"' :: '"' :: '"' :: cs          => behind ['"', '"', '"'] (cutLines cs)
  | '\x27' :: '\x27' :: '\x27' :: cs => behind ['\x27', '\x27', '\x27'] (cutLiteralLines cs)
  | '"' :: cs                        => behind ['"'] (cutBasic cs)
  | '\x27' :: cs                     => behind ['\x27'] (cutLiteral cs)
  | cs                               => (cs.takeWhile belongs, cs.dropWhile belongs)

-- A dot separates the parts of a key.
def cutKeyPart (cs : List Char) : Word × List Char :=
  cut (fun c => !isDelimiter c && c ≠ '.') cs

-- A single space inside a date and time belongs to the word.
def cutScalar (cs : List Char) : Word × List Char :=
  let belongs := fun c => !isDelimiter c
  let (w, rest) := cut belongs cs
  match Date.read? w, rest with
  | some (_, []), ' ' :: c :: cs =>
    if c.isDigit then behind (w ++ [' ']) ((c :: cs).takeWhile belongs, (c :: cs).dropWhile belongs)
    else (w, rest)
  | _, _ => (w, rest)

-- The text that a quoted word stands for.
def text? (w : Word) : Option String :=
  match Quoting.scan? w with
  | some (s, []) => some (.ofList s)
  | _            => none

def isQuoted (w : Word) : Bool :=
  w.head? = some Quoting.quote || w.head? = some Quoting.apostrophe

def isKeyChar (c : Char) : Bool :=
  c.isAlphanum || c = '-' || c = '_'

-- The part of a key that a word stands for. A quoted one must be on one line.
def key? (w : Word) : Option String :=
  if isQuoted w then
    match Quoting.line? w with
    | some (s, []) => some (.ofList s)
    | _            => none
  else if !w.isEmpty && w.all isKeyChar then some (.ofList w)
  else none

def value? (w : Word) : Option Value :=
  if isQuoted w then (text? w).map .string else Scalar.read? w

end Word
end Rollout.Toml
