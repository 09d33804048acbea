import Rollout.Toml.Term
namespace Rollout.Toml

-- One line of a document, or several if the value spreads over more, as it is written.
inductive Statement
  | assign (key : Key) (t : Term)
  | header (key : Key)
  | item (key : Key)

namespace Statement

def isSpace (c : Char) : Bool :=
  c = ' ' || c = '\t'

def skipSpaces (cs : List Char) : List Char :=
  cs.dropWhile isSpace

-- A comment reaches to the end of the line; it must not hold control characters.
def skipComment : List Char → List Char
  | '#' :: cs => cs.dropWhile Quoting.isPlain
  | cs        => cs

-- What follows a line break. 
def breakLine? : List Char → Option (List Char)
  | '\n' :: cs         => some cs
  | '\r' :: '\n' :: cs => some cs
  | _                  => none

-- Skips blanks, comments and line breaks, as they may stand between the elements of a collection.
-- Every round passes a line break, so the length bounds their number.
def skipGaps : Nat → List Char → List Char
  | 0,     cs => cs
  | n + 1, cs =>
    let cs := skipComment (skipSpaces cs)
    match breakLine? cs with
    | some rest => skipGaps n rest
    | none      => cs

def skipGap (cs : List Char) : List Char :=
  skipGaps cs.length cs

-- What follows the rest of a line, which must be blank or a comment.
def endLine? (cs : List Char) : Option (List Char) :=
  match skipComment (skipSpaces cs) with
  | [] => some []
  | cs => breakLine? cs

-- The parts of a key, separated by dots, and what follows the key and its blanks. Where a part is
-- missing an empty word is cut out. 
def cutParts : Nat → List Char → Key × List Char
  | 0,     cs => ([], cs)
  | n + 1, cs =>
    let (part, rest) := Word.cutKeyPart (skipSpaces cs)
    match skipSpaces rest with
    | '.' :: rest => 
      let (parts, rest) := cutParts n rest
      (part :: parts, rest)
    | rest => ([part], rest)

def cutKey (cs : List Char) : Key × List Char :=
  cutParts (cs.length + 1) cs

-- The elements of an array after its bracket. A comma may follow the last one.
def elements? (element? : List Char → Option (Term × List Char)) : 
    Nat → List Char → Option (List Term × List Char)
  | 0,     _  => none
  | n + 1, cs =>
    match skipGap cs with
    | ']' :: rest => some ([], rest)
    | cs          => do
      let (t, rest) ← element? cs
      match skipGap rest with
      | ',' :: rest => do
        let (ts, rest) ← elements? element? n rest
        return (t :: ts, rest)
      | ']' :: rest => return ([t], rest)
      | _           => none

-- A key, an equals sign and a value, with room between them.
def pair? (skip : List Char → List Char) (term? : List Char → Option (Term × List Char)) 
    (cs : List Char) : Option ((Key × Term) × List Char) := do
  let (key, rest) := cutKey cs
  let '=' :: rest := skip rest | none
  let (t, rest) ← term? (skip rest)
  return ((key, t), rest)

-- The pairs of an inline table after its brace. A comma may follow the last one.
def pairs? (term? : List Char → Option (Term × List Char)) : 
    Nat → List Char → Option (List (Key × Term) × List Char)
  | 0,     _  => none
  | n + 1, cs =>
    match skipGap cs with
    | '\x7d' :: rest => some ([], rest)
    | cs             => do
      let (p, rest) ← pair? skipGap term? cs
      match skipGap rest with
      | ',' :: rest => do
        let (ps, rest) ← pairs? term? n rest
        return (p :: ps, rest)
      | '\x7d' :: rest => return ([p], rest)
      | _              => none

-- A value, and what follows it. Collections are nested at most `depth` deep.
def term? : Nat → List Char → Option (Term × List Char)
  | depth, '[' :: cs =>
    match depth with
    | 0         => none
    | depth + 1 => do
      let (ts, rest) ← elements? (term? depth) (cs.length + 1) cs
      return (.array ts, rest)
  | depth, '\x7b' :: cs =>
    match depth with
    | 0         => none
    | depth + 1 => do
      let (ps, rest) ← pairs? (term? depth) (cs.length + 1) cs
      return (.table ps, rest)
  | _, cs =>
    match Word.cutScalar cs with
    | ([], _)   => none
    | (w, rest) => some (.word w, rest)

-- If nothing stands on the rest of a line, that is an empty word.
def termOnLine? (cs : List Char) : Option (Term × List Char) :=
  if (endLine? cs).isSome then some (.word [], cs) else term? maxDepth cs

-- The statement in front, if there is one on the line, and the text from the next line on. Only the
-- layout is looked at; what is written may still be wrong.
def scan? (cs : List Char) : Option (Option Statement × List Char) :=
  match skipSpaces cs with
  | '[' :: '[' :: cs => do
    let (key, rest) := cutKey cs
    let ']' :: ']' :: rest := rest | none
    return (some (.item key), ← endLine? rest)
  | '[' :: cs => do
    let (key, rest) := cutKey cs
    let ']' :: rest := rest | none
    return (some (.header key), ← endLine? rest)
  | cs =>
    match endLine? cs with
    | some rest => some (none, rest)
    | none      => do
      let ((key, t), rest) ← pair? skipSpaces termOnLine? cs
      return (some (.assign key t), ← endLine? rest)

end Statement
end Rollout.Toml
