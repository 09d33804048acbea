import Rollout.Json.Document
import Rollout.Json.Writer
namespace Rollout

-- Where a remote runner finds the data of a project.
inductive DataSource
  -- On the machine of the user, who uploads it.
  | here
  | git (url path ref : String)
  deriving DecidableEq, Repr

-- Whether a remote runner can fetch the data on its own.
def DataSource.isRemote : DataSource → Bool
  | here      => false
  | git _ _ _ => true

-- What a server knows about a project.
@[ext]
structure Project where
  name          : String
  apps          : List String
  remoteEnabled : Bool
  dataSource    : Option DataSource
  -- The runner profile that is assigned to the project.
  runner        : Option String
  deriving DecidableEq, Repr

-- A runner profile that a server offers. All that matters is whether it is the one for projects without
-- a profile of their own.
structure Profile where
  isDefault : Bool
  deriving DecidableEq, Repr

namespace Project

open Json (Value)

-- The parts of a record: the members of an object, of which no known one may be repeated, or an array
-- of the parts in their order, from the first one on.
def parts? (names : List String) : Value → Option (List (String × Value))
  | .object members => 
    if names.all fun name => (members.filter (·.1 = name)).length ≤ 1 then some members else none
  | .array items    => if items.length ≤ names.length then some (names.zip items) else none
  | _               => none

def text? : Value → Option String
  | .string s => some s
  | _         => none

def switch? : Value → Option Bool
  | .boolean b => some b
  | _          => none

def optional (parts : List (String × Value)) (name : String) (read? : Value → Option α) 
    (otherwise : α) : Option α :=
  match parts.lookup name with
  | none   => some otherwise
  | some v => read? v

-- Reads null as nothing.
def unlessNull (read? : Value → Option α) : Value → Option (Option α)
  | .null => some none
  | v     => (read? v).map some

-- A record that only has a name.
def named? (v : Value) : Option String := do
  text? (← (← parts? ["name"] v).lookup "name")

def apps? : Value → Option (List String)
  | .array items => items.mapM named?
  | _            => none

def git? (v : Value) : Option DataSource := do
  let parts ← parts? ["url", "path", "ref"] v
  let url ← text? (← parts.lookup "url")
  let path ← optional parts "path" text? ""
  let ref ← optional parts "ref" text? ""
  return .git url path ref

-- The type of a data source stands among its members, in any place, or is the first element of an 
-- array. Local data has no parts of its own; what else an object says about it is skipped.
def typedSource? (type : Value) (parts : Value) : Option DataSource :=
  match type, parts with
  | .string "local", .object _     => some .here
  | .string "local", .array []     => some .here
  | .string "git", parts           => git? parts
  | _, _                           => none

def source? : Value → Option DataSource
  | .object members =>
    match members.filter (·.1 = "type") with
    | [(_, type)] => typedSource? type (.object (members.filter (·.1 ≠ "type")))
    | _           => none
  | .array (type :: items) => typedSource? type (.array items)
  | _ => none

-- How deep a data source may be nested inside the description of a project. All of it must be sound, 
-- since its type is only known once it has been read.
def soundSource? (v : Value) : Option DataSource :=
  if v.isSound && v.depth < Json.Document.maxDepth then source? v else none

def ofJson? (v : Value) : Option Project := do
  let parts ← parts? ["name", "applications", "remote_enabled", "data_source", "ondemand_runner"] v
  let name ← text? (← parts.lookup "name")
  let apps ← optional parts "applications" apps? []
  let remoteEnabled ← optional parts "remote_enabled" switch? false
  let dataSource ← optional parts "data_source" (unlessNull soundSource?) none
  let runner ← optional parts "ondemand_runner" (unlessNull named?) none
  return ⟨name, apps, remoteEnabled, dataSource, runner⟩ 

-- Members that a project does not know are skipped, however deep they are nested.
def parse? (text : String) : Option Project := do
  ofJson? (← Json.Document.readChars? text.length text.toList)

def namedJson (name : String) : Value :=
  .object [("name", .string name)]

def sourceJson : DataSource → Value
  | .here             => .object [("type", .string "local")]
  | .git url path ref => 
    .object [("type", .string "git"), ("url", .string url), ("path", .string path), 
      ("ref", .string ref)]

def toJson (p : Project) : Value :=
  .object [
    ("name", .string p.name),
    ("applications", .array (p.apps.map namedJson)),
    ("remote_enabled", .boolean p.remoteEnabled),
    ("data_source", p.dataSource.elim .null sourceJson),
    ("ondemand_runner", p.runner.elim .null namedJson)]

end Project
end Rollout
