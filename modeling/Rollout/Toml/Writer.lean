import Rollout.Toml.Quoting
namespace Rollout.Toml

-- Text of documents that hold tables of texts and switches.
namespace Writer

open Quoting (quote apostrophe isControl)

-- The longest run of a character.
def longestRun (c : Char) : List Char → Nat
  | []      => 0
  | d :: cs => max ((d :: cs).takeWhile (· = c)).length (longestRun c cs)

-- Whether a text holds control characters that only an escape can show.
def needsEscape (cs : List Char) : Bool :=
  cs.any fun c => isControl c && c ≠ '\t' && c ≠ '\n'

def hexDigit (n : Nat) : Char :=
  (Nat.digitChar n).toUpper

def codePoint (n : Nat) : List Char :=
  [hexDigit (n / 0x1000 % 16), hexDigit (n / 0x100 % 16), hexDigit (n / 0x10 % 16), hexDigit (n % 16)]

def escaped (c : Char) : List Char :=
  if c = '\x08' then ['\\', 'b']
  else if c = '\t' then ['\\', 't']
  else if c = '\n' then ['\\', 'n']
  else if c = '\x0c' then ['\\', 'f']
  else if c = '\r' then ['\\', 'r']
  else if c = quote || c = '\\' then ['\\', c]
  else if isControl c then '\\' :: 'u' :: codePoint c.toNat
  else [c]

def basic (cs : List Char) : List Char :=
  quote :: cs.flatMap escaped ++ [quote]

-- In a text on several lines, line breaks stand for themselves, and so do up to two quotes in a row.
def escapedLines (quotes : Nat) : List Char → List Char
  | []      => []
  | c :: cs =>
    if c = quote then
      if quotes < 2 then quote :: escapedLines (quotes + 1) cs
      else '\\' :: quote :: escapedLines 0 cs
    else if c = '\n' then '\n' :: escapedLines 0 cs
    else escaped c ++ escapedLines 0 cs

-- A line break after the opening quotes is not part of the text.
def opening (cs : List Char) : List Char :=
  if cs.contains '\n' then ['\n'] else []

def lines (cs : List Char) : List Char :=
  let quotes := List.replicate 3 quote
  quotes ++ opening cs ++ escapedLines 0 cs ++ quotes

def literal (cs : List Char) : List Char :=
  apostrophe :: cs ++ [apostrophe]

def literalLines (cs : List Char) : List Char :=
  let quotes := List.replicate 3 apostrophe
  quotes ++ opening cs ++ cs ++ quotes

-- The first form that shows the text without escapes: basic, literal, and the same on several lines.
-- If there is none, basic forms are used with escapes.
def chars (cs : List Char) : List Char :=
  let breaks := cs.contains '\n'
  let control := needsEscape cs
  let quotes := longestRun quote cs
  let apostrophes := longestRun apostrophe cs
  let backslash := cs.contains '\\'
  if !control && !backslash && quotes = 0 && !breaks then basic cs
  else if !control && apostrophes = 0 && !breaks then literal cs
  else if !control && !backslash && quotes ≤ 2 then lines cs
  else if !control && apostrophes ≤ 2 then literalLines cs
  else if breaks then lines cs
  else basic cs

def text (s : String) : String :=
  .ofList (chars s.toList)

def switch (b : Bool) : String :=
  if b then "true" else "false"

-- A line that gives a key a value that is already written.
def entry (key value : String) : String :=
  key ++ " = " ++ value ++ "\n"

-- A section in front of which a line is left free.
def titled (name body : String) : String :=
  "\n[" ++ name ++ "]\n" ++ body

def item (name body : String) : String :=
  "\n[[" ++ name ++ "]]\n" ++ body

end Writer
end Rollout.Toml
