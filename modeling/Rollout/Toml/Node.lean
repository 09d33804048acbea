import Rollout.Toml.Value
namespace Rollout.Toml

-- How a table came to be. Tables that headers or dotted keys only pass through may be filled in
-- later; those that a header names are complete once their section ends.
inductive Origin
  | passedThrough
  | dotted
  | named
  deriving DecidableEq, Repr

-- A document while it is put together: values are closed, tables and lists of tables may grow.
inductive Node
  | value (v : Value)
  | table (origin : Origin) (entries : List (String × Node))
  | tables (items : List (List (String × Node)))

abbrev Section := List (String × Node)

namespace Section

def replace (key : String) (n : Node) (s : Section) : Section :=
  s.map fun (k, old) => if k = key then (k, n) else (k, old)

-- Applies a change to the last of a list of tables.
def changeLast (change : Section → Option Section) (items : List Section) : Option (List Section) := 
  do
  let last ← items.getLast?
  return items.dropLast ++ [← change last]

-- Adds a value below a dotted key. The tables between are made as needed. A table that a header
-- named is not changed by dotted keys, and the innermost one must have been made by dotted keys.
def assign (key : String) (v : Value) : List String → Section → Option Section
  | [], s =>
    match s.lookup key with
    | none   => some (s ++ [(key, .value v)])
    | some _ => none
  | k :: path, s =>
    match s.lookup k with
    | none => do
      return s ++ [(k, .table .dotted (← assign key v path []))]
    | some (.table origin sub) => do
      guard (origin ≠ .named)
      guard (!path.isEmpty || origin = .dotted)
      return s.replace k (.table origin (← assign key v path sub))
    | some (.tables items) => do
      guard !path.isEmpty
      return s.replace k (.tables (← changeLast (assign key v path) items))
    | some (.value _) => none

-- Follows the path of a header and applies a change at its end. Missing tables are made, and a list
-- of tables is continued in its last one.
def descend (change : Section → Option Section) : List String → Section → Option Section
  | [], s => change s
  | k :: path, s =>
    match s.lookup k with
    | none => do
      return s ++ [(k, .table .passedThrough (← descend change path []))]
    | some (.table origin sub) => do
      return s.replace k (.table origin (← descend change path sub))
    | some (.tables items) => do
      return s.replace k (.tables (← changeLast (descend change path) items))
    | some (.value _) => none

-- Begins a table. It must be new, or only have been passed through by headers.
def openTable (key : String) (s : Section) : Option Section :=
  match s.lookup key with
  | none                             => some (s ++ [(key, .table .named [])])
  | some (.table .passedThrough sub) => some (s.replace key (.table .named sub))
  | some _                           => none

-- Adds a table to a list of tables.
def openItem (key : String) (s : Section) : Option Section :=
  match s.lookup key with
  | none                 => some (s ++ [(key, .tables [[]])])
  | some (.tables items) => some (s.replace key (.tables (items ++ [[]])))
  | some _               => none

end Section

mutual

-- The value that a node has become when the document ends.
def Node.toValue : Node → Value
  | .value v         => v
  | .table _ entries => .table (Section.toTable entries)
  | .tables items    => .array (Section.toTables items)

def Section.toTable : List (String × Node) → Table
  | []           => []
  | (k, n) :: es => (k, n.toValue) :: Section.toTable es

def Section.toTables : List (List (String × Node)) → List Value
  | []            => []
  | item :: items => .table (Section.toTable item) :: Section.toTables items

end

end Rollout.Toml
