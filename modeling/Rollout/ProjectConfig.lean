import Rollout.Failure
import Rollout.Segment
import Rollout.Toml.Writer
namespace Rollout

-- What a project declares about itself.
@[ext]
structure ProjectConfig where
  project : String
  -- Whether operations may run on a remote runner, if the project says anything about runners.
  runner  : Option Bool
  -- The apps in order of their declaration.
  apps    : List String
  deriving DecidableEq, Repr

namespace ProjectConfig

def fileName : String := 
  "deployctl.toml"

def runnerEnabled (c : ProjectConfig) : Bool :=
  c.runner.getD false

-- The first app whose name is no word, or that is declared for the second time.
def checkApps (seen : List String) : List String → Except Cause Unit
  | []           => .ok ()
  | name :: rest =>
    if !Segment.valid name then .error (.appName name)
    else if name ∈ seen then .error (.repeatedApp name)
    else checkApps (name :: seen) rest

def validate (c : ProjectConfig) : Except Cause Unit :=
  if !Segment.valid c.project then .error (.projectName c.project) else checkApps [] c.apps

structure Valid (c : ProjectConfig) : Prop where
  project  : Segment.valid c.project
  apps     : ∀ name ∈ c.apps, Segment.valid name
  distinct : c.apps.Nodup

-- The parts of a record: a table, or an array of its parts in their order. Entries of a table that 
-- the record does not know are passed over, and further elements of an array are not looked at. A 
-- date or time has no parts that a record could use.
def parts? (names : List String) : Toml.Value → Option (List (String × Toml.Value))
  | .table entries => 
    if entries.all fun (name, v) => name ∈ names || v.isPassable then some entries else none
  | .array items   => some (names.zip items)
  | .moment _      => some []
  | _              => none

def text? : Toml.Value → Option String
  | .string s => some s
  | _         => none

def switch? : Toml.Value → Option Bool
  | .boolean b => some b
  | _          => none

def runner? (v : Toml.Value) : Option Bool := do
  match (← parts? ["enabled"] v).lookup "enabled" with
  | none   => return false
  | some v => switch? v

def app? (v : Toml.Value) : Option String := do
  text? (← (← parts? ["name"] v).lookup "name")

def apps? : Option Toml.Value → Option (List String)
  | none                => some []
  | some (.array items) => items.mapM app?
  | some _              => none

def ofTable? (t : Toml.Table) : Option ProjectConfig := do
  let parts ← parts? ["project", "runner", "app"] (.table t)
  let project ← text? (← parts.lookup "project")
  let runner ← (parts.lookup "runner").mapM runner?
  let apps ← apps? (parts.lookup "app")
  return ⟨project, runner, apps⟩ 

def parse (text : String) : Except Failure ProjectConfig := do
  let table ← Failure.because .toml (Toml.Document.read text)
  match ofTable? table with
  | some c => return c
  | none   => throw (.of (.toml ⟨1, .wrongShape⟩))

open Toml Writer in
def text (c : ProjectConfig) : String :=
  entry "project" (Writer.text c.project)
    ++ (if c.apps.isEmpty then entry "app" "[]" else "")
    ++ (c.runner.elim "" fun enabled => titled "runner" (entry "enabled" (switch enabled)))
    ++ String.join (c.apps.map fun name => item "app" (entry "name" (Writer.text name)))
    ++ "\n"

def load (t : FileTree) (p : Path) : Except Failure ProjectConfig := do
  let text ← Failure.during (.read p) (Failure.because .file (t.read p))
  let c ← Failure.during (.parse p) (parse text)
  Failure.during (.validate p) (Failure.because id c.validate)
  return c

-- What is left of the files, and how the saving went. Nothing is written unless the configuration is 
-- valid.
def save (t : FileTree) (p : Path) (c : ProjectConfig) : FileTree × Except Failure Unit :=
  match c.validate with
  | .error cause => (t, .error (.of cause))
  | .ok ()       =>
    match t.write p c.text with
    | .error e => (t, .error ⟨[.write p], .file e⟩)
    | .ok t    => (t, .ok ())

-- The configuration file in a directory or the closest one above it.
def find? (t : FileTree) (start : Path) : Option Path :=
  (start.ancestors.map (·.join ⟨fileName⟩)).find? t.isFile

end ProjectConfig

-- A configuration and the file it was read from.
structure LoadedConfig where
  path   : Path
  config : ProjectConfig
  deriving DecidableEq, Repr

namespace LoadedConfig

def dir (c : LoadedConfig) : Path :=
  c.path.parent?.getD ⟨"."⟩ 

-- What a search finds: nothing, a configuration, or a file that cannot be used. A broken file is not
-- passed over in favour of one further up.
def search (t : FileTree) (start : Path) : Except Failure (Option LoadedConfig) :=
  match ProjectConfig.find? t start with
  | none   => .ok none
  | some p => (ProjectConfig.load t p).map fun c => some ⟨p, c⟩ 

end LoadedConfig
end Rollout
