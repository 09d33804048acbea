import Rollout.Toml.Statement
namespace Rollout.Toml

-- A document while it is read: all tables so far, and the path of the one that is being filled.
structure Draft where
  root    : Section
  current : List String

namespace Draft

def empty : Draft where
  root    := []
  current := []

-- The change that a statement makes, unless it is wrong or redefines something.
def apply (d : Draft) : Statement → Except Reason Draft
  | .assign key t => do
    let (path, key) ← key.read
    let v ← t.read
    let root := Section.descend (Section.assign key v path) d.current d.root
    return { d with root := ← orRedefined key root }
  | .header key => do
    let (path, key) ← key.read
    let root := Section.descend (Section.openTable key) path d.root
    return ⟨← orRedefined key root, path ++ [key]⟩ 
  | .item key => do
    let (path, key) ← key.read
    let root := Section.descend (Section.openItem key) path d.root
    return ⟨← orRedefined key root, path ++ [key]⟩ 

def applyAll (d : Draft) : List (Nat × Statement) → Except Error Draft
  | []              => .ok d
  | (line, s) :: ss =>
    match d.apply s with
    | .error reason => .error ⟨line, reason⟩ 
    | .ok d         => d.applyAll ss

end Draft

namespace Document

def lineBreaks (cs : List Char) : Nat :=
  cs.count '\n'

-- The statements and the lines on which they begin. Each one consumes text, so the length bounds
-- their number.
def statementsFrom : Nat → Nat → List Char → Except Error (List (Nat × Statement))
  | _, _, []           => .ok []
  | 0, line, _         => .error ⟨line, .malformed⟩ 
  | n + 1, line, cs    =>
    match Statement.scan? cs with
    | none            => .error ⟨line, .malformed⟩ 
    | some (s?, rest) => do
      let ss ← statementsFrom n (line + (lineBreaks cs - lineBreaks rest)) rest
      return (s?.map (line, ·)).toList ++ ss

def statements (cs : List Char) : Except Error (List (Nat × Statement)) :=
  statementsFrom (cs.length + 1) 1 cs

-- A byte order mark in front of the document is skipped.
def body : List Char → List Char
  | '\ufeff' :: cs => cs
  | cs             => cs

-- The layout of the whole document is checked before anything in it is read.
def readChars (cs : List Char) : Except Error Table := do
  let ss ← statements (body cs)
  let d ← Draft.empty.applyAll ss
  return Section.toTable d.root

def read (text : String) : Except Error Table :=
  readChars text.toList

end Document
end Rollout.Toml
