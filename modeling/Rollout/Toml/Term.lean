import Rollout.Toml.Error
import Rollout.Toml.Node
import Rollout.Toml.Word
namespace Rollout.Toml

-- How deep collections can be nested, and of how many parts a key can be made.
def maxDepth : Nat := 80

-- A key as it is written, by its parts.
abbrev Key := List Word

-- The tables that a key leads through, and its last part.
def Key.read (key : Key) : Except Reason (List String × String) :=
  match key.mapM Word.key? with
  | none       => .error .malformed
  | some parts =>
    if maxDepth < parts.length then .error .tooDeep
    else match parts.getLast? with
      | none      => .error .malformed
      | some last => .ok (parts.dropLast, last)

-- A value as it is written.
inductive Term
  | word (w : Word)
  | array (items : List Term)
  | table (pairs : List (List Word × Term))

-- The outcome of a change that fails if the key is taken.
def orRedefined (key : String) (changed : Option α) : Except Reason α :=
  changed.elim (.error (.redefined key)) .ok

mutual

-- The value that a term stands for. Terms are read from left to right, and the first mistake counts.
def Term.read : Term → Except Reason Value
  | .word w      => (Word.value? w).elim (.error .malformed) .ok
  | .array items => do return .array (← Term.readItems items)
  | .table pairs => do return .table (Section.toTable (← Term.readPairs [] pairs))

def Term.readItems : List Term → Except Reason (List Value)
  | []      => .ok []
  | t :: ts => do return (← t.read) :: (← Term.readItems ts)

-- The pairs of an inline table are assigned in order, with dotted keys.
def Term.readPairs (s : Section) : List (List Word × Term) → Except Reason Section
  | []             => .ok s
  | (key, t) :: ps => do
    let (path, key) ← Key.read key
    let v ← t.read
    Term.readPairs (← orRedefined key (s.assign key v path)) ps

end

end Rollout.Toml
