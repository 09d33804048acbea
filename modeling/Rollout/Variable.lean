import Rollout.Path
import Rollout.Text.Blank
import Rollout.Text.Quoted
import Rollout.Json.Writer
namespace Rollout

-- Where a variable got its value from.
inductive VariableSource
  | environment
  | file (p : Path)
  | flag
  deriving DecidableEq, Repr

namespace VariableSource

def described : VariableSource → String
  | environment => "Env"
  | file p      => "File(" ++ Text.quoted p.text ++ ")"
  | flag        => "Flag"

def path? : VariableSource → Option Path
  | file p => some p
  | _      => none

def toJson : VariableSource → Json.Value
  | environment => .object [("kind", .string "env")]
  | file p      => .object [("kind", .string "file"), ("path", .string p.text)]
  | flag        => .object [("kind", .string "flag")]

end VariableSource

structure Variable where
  name   : String
  value  : String
  source : VariableSource
  deriving DecidableEq, Repr

def Variable.toJson (v : Variable) : Json.Value :=
  .object [("name", .string v.name), ("value", .string v.value), ("source", v.source.toJson)]

-- A variable without a name was set from that source.
inductive VariableError
  | emptyName (source : VariableSource)
  deriving DecidableEq, Repr

def VariableError.message : VariableError → String
  | emptyName source => "variable name must not be empty (source: " ++ source.described ++ ")"

-- The variables of a command, in the order in which their names were first set. Each one is known by its
-- own name, so there are no keys beside the names.
@[ext]
structure Variables where
  toList : List Variable
  deriving DecidableEq, Repr

namespace Variables

def empty : Variables where
  toList := []

def get? (vs : Variables) (name : String) : Option Variable :=
  vs.toList.find? (·.name = name)

def size (vs : Variables) : Nat :=
  vs.toList.length

-- Setting a variable again replaces its value and source and keeps its position.
def put (vs : Variables) (v : Variable) : Variables where
  toList :=
    if vs.toList.any (·.name = v.name) then vs.toList.map fun w => if w.name = v.name then v else w
    else vs.toList ++ [v]

def insert (vs : Variables) (v : Variable) : Except VariableError Variables :=
  if Text.isBlank v.name then .error (.emptyName v.source) else .ok (vs.put v)

-- Sets variables in order until one has no name. What was set before it stays set.
def extend (vs : Variables) : List Variable → Variables × Except VariableError Unit
  | []           => (vs, .ok ())
  | v :: pending =>
    match vs.insert v with
    | .ok vs   => vs.extend pending
    | .error e => (vs, .error e)

def ofSource (source : VariableSource) (pairs : List (String × String)) : List Variable :=
  pairs.map fun (name, value) => ⟨name, value, source⟩ 

def extendFrom (vs : Variables) (source : VariableSource) (pairs : List (String × String)) : 
    Variables × Except VariableError Unit :=
  vs.extend (ofSource source pairs)

def toJson (vs : Variables) : Json.Value :=
  .object (vs.toList.map fun v => (v.name, v.toJson))

-- Nothing is left of a set if one of its variables has no name.
def whole : Variables × Except VariableError Unit → Except VariableError Variables
  | (vs, .ok ())   => .ok vs
  | (_,  .error e) => .error e

-- Everything that sets variables, in the order in which later settings win.
structure Inputs where
  environment : List (String × String)
  files       : List (Path × List (String × String))
  flags       : List (String × String)

def merge (i : Inputs) : Except VariableError Variables := do
  let vs ← whole (empty.extendFrom .environment i.environment)
  let vs ← i.files.foldlM (fun vs (p, pairs) => whole (vs.extendFrom (.file p) pairs)) vs
  whole (vs.extendFrom .flag i.flags)

end Variables
end Rollout
