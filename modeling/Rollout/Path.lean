namespace Rollout

-- A path is the text it was written as. It is never resolved: messages and answers show it
-- unchanged, and its ancestors are found by looking at the text alone.
@[ext]
structure Path where
  text : String
  deriving DecidableEq, Repr

namespace Path

-- The pieces between slashes. A leading slash makes the first piece empty, and the empty text has
-- one empty piece.
def pieces : List Char → List (List Char)
  | []      => [[]]
  | c :: cs =>
    if c = '/' then [] :: pieces cs 
    else match pieces cs with
      | []      => [[c]]
      | p :: ps => (c :: p) :: ps

def segments (p : Path) : List String :=
  (pieces p.text.toList).map .ofList

def ofSegments (segs : List String) : Path where
  text := "/".intercalate segs

-- Segments that do not move: repeated and trailing slashes, and single dots.
def isSilent (seg : String) : Bool :=
  seg = "" || seg = "."

-- The list without its last elements that satisfy `silent`.
def dropTrailing (silent : α → Bool) (xs : List α) : List α :=
  (xs.reverse.dropWhile silent).reverse

def isAbsolute (p : Path) : Bool :=
  p.text.toList.head? = some '/'

-- The path without its last component. The first segment is the root of an absolute path and the
-- first component of a relative one; the empty path is what remains of a single component.
def parent? (p : Path) : Option Path :=
  match p.segments with
  | []           => none
  | first :: rest =>
    match dropTrailing isSilent rest with
    | [] => if first = "" then none else some ⟨""⟩ 
    | rest => 
      match dropTrailing isSilent rest.dropLast with
      | []   => some (if first = "" then ⟨"/"⟩ else ⟨first⟩)
      | rest => some (ofSegments (first :: rest))

-- Joining an absolute path replaces the left one.
def join (p q : Path) : Path :=
  if q.isAbsolute then q
  else if p.text = "" || p.text.toList.getLast? = some '/' then ⟨p.text ++ q.text⟩ 
  else ⟨p.text ++ "/" ++ q.text⟩ 

-- The last component, if it is a name.
def fileName? (p : Path) : Option String :=
  match p.segments with
  | []            => none
  | first :: rest =>
    match (dropTrailing isSilent rest).getLast? with
    | some name => if name = ".." then none else some name
    | none      => if isSilent first || first = ".." then none else some first

-- What follows the last dot of the file name. A dot that starts the name separates nothing.
def extension? (p : Path) : Option String := do
  let name ← p.fileName?
  let backwards := name.toList.reverse
  match backwards.dropWhile (· ≠ '.') with
  | []        => none
  | [_]       => none
  | _ :: _    => some (.ofList (backwards.takeWhile (· ≠ '.')).reverse)

-- The path itself, its parent, and so on. Every step shortens the text, which bounds the walk.
def ancestorsWithin : Nat → Path → List Path
  | 0,     p => [p]
  | n + 1, p => p :: (p.parent?.elim [] (ancestorsWithin n))

def ancestors (p : Path) : List Path :=
  ancestorsWithin p.text.length p

end Path
end Rollout
