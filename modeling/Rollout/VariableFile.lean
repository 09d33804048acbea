import Rollout.Failure
import Rollout.KeyOrder
import Rollout.Decimal.Shortest
namespace Rollout

-- Files that give variables their values: a JSON object or a TOML document of scalars.
namespace VariableFile

-- Floats are written out in full, whole ones without a point.
def layout : Decimal.Layout where
  tiesUp     := true
  limits     := none
  wholeTail  := ""
  exponentUp := "e"
  infinity   := "inf"
  notANumber := "NaN"

-- NaN has no sign.
def floatText (x : Binary64) : String :=
  Decimal.text layout x

def switchText (b : Bool) : String :=
  if b then "true" else "false"

def ofToml : Toml.Value → Option String
  | .string s   => some s
  | .integer n  => some (toString n)
  | .float x    => some (floatText x)
  | .unreadable => none
  | .boolean b  => some (switchText b)
  | .moment m   => some m.text
  | .array _    => none
  | .table _    => none

def ofJson : Json.Value → Option String
  | .string s  => some s
  | .number n  => n.read?.map Json.Number.text
  | .boolean b => some (switchText b)
  | _          => none

-- The texts of named values. The first one in order of names that is no scalar is refused.
def render (text? : α → Option String) (values : List (String × α)) : 
    Except Failure (List (String × String)) :=
  (KeyOrder.ofList values).mapM fun (name, v) =>
    match text? v with
    | some s => .ok (name, s)
    | none   => .error (.of (.notScalar name))

-- All values must be such that they can be kept, also those that are no scalars.
def parseToml (text : String) : Except Failure (List (String × String)) := do
  match Toml.Value.settleEntries? (← Failure.because .toml (Toml.Document.read text)) with
  | some values => render ofToml values
  | none        => throw (.of (.toml ⟨1, .wrongShape⟩))

def parseJson (text : String) : Except Failure (List (String × String)) := do
  match ← Failure.because .json (Json.Document.read text) with
  | .object members => render ofJson members
  | _               => .error (.of .notAnObject)

-- The extension decides about the format; its case does not matter.
def isJson (p : Path) : Bool :=
  p.extension?.any fun e => e.toList.map Char.toLower = ['j', 's', 'o', 'n']

def parse (p : Path) (text : String) : Except Failure (List (String × String)) :=
  if isJson p then parseJson text else parseToml text

-- The variables in a file, in order of their names.
def read (t : FileTree) (p : Path) : Except Failure (List (String × String)) := do
  let text ← Failure.during (.read p) (Failure.because .file (t.read p))
  Failure.during (.parse p) (parse p text)

-- Files with these endings are used without being named.
def automaticEndings : List String := 
  [".auto.vars.toml", ".auto.vars.json"]

def isAutomatic (name : String) : Bool :=
  automaticEndings.any fun ending => ending.toList.isSuffixOf name.toList

def nameLe (a b : String) : Bool :=
  a ≤ b

-- The files in a directory that are used without being named, in order of their names. A directory 
-- that does not exist has none.
def automatic (t : FileTree) (dir : Path) : Except Failure (List Path) :=
  match t.list dir with
  | .error .notFound => .ok []
  | .error e         => .error ⟨[.read dir], .file e⟩ 
  | .ok names        => 
    let chosen := names.filter fun name => isAutomatic name && t.isFile (dir.join ⟨name⟩)
    .ok ((chosen.mergeSort nameLe).map fun name => dir.join ⟨name⟩)

end VariableFile
end Rollout
