import Rollout.Connection
import Rollout.ProjectConfig
namespace Rollout

-- What is remembered about one place to work in.
@[ext]
structure StoredContext where
  workspace  : String := ""
  connection : Connection := {}
  deriving DecidableEq, Repr

namespace StoredContext

open ProjectConfig (parts? text? switch?)

-- An entry that may be missing.
def optional (entries : List (String × Toml.Value)) (name : String) (read? : Toml.Value → Option α) 
    (otherwise : α) : Option α :=
  match entries.lookup name with
  | none   => some otherwise
  | some v => read? v

def connection? (v : Toml.Value) : Option Connection := do
  let entries ← parts? ["address", "tls", "tls_skip_verify"] v
  let usual : Connection := {}
  let address ← optional entries "address" text? usual.address
  let tls ← optional entries "tls" switch? usual.tls
  let skipVerify ← optional entries "tls_skip_verify" switch? usual.skipVerify
  return ⟨address, tls, skipVerify⟩ 

def ofTable? (t : Toml.Table) : Option StoredContext := do
  let parts ← parts? ["workspace", "server"] (.table t)
  let workspace ← optional parts "workspace" text? ""
  let connection ← optional parts "server" connection? {}
  return ⟨workspace, connection⟩ 

def parse (text : String) : Except Failure StoredContext := do
  match ofTable? (← Failure.because .toml (Toml.Document.read text)) with
  | some c => return c
  | none   => throw (.of (.toml ⟨1, .wrongShape⟩))

open Toml Writer in
def text (c : StoredContext) : String :=
  entry "workspace" (Writer.text c.workspace)
    ++ titled "server" (
      entry "address" (Writer.text c.connection.address)
        ++ entry "tls" (switch c.connection.tls)
        ++ entry "tls_skip_verify" (switch c.connection.skipVerify))
    ++ "\n"

end StoredContext

-- Where remembered contexts are looked up: which one is the default, and what each holds.
structure ContextStore where
  default : Except Failure (Option String)
  load    : String → Except Failure StoredContext

namespace ContextStore

def defaultFile : String := 
  ".default"

-- What the default file holds if there is no default.
def noDefault : String := 
  "-"

def contextPath (dir : Path) (name : String) : Path :=
  dir.join ⟨name ++ ".toml"⟩ 

def defaultPath (dir : Path) : Path :=
  dir.join ⟨defaultFile⟩ 

-- New text is written next to the file that it will replace.
def temporaryPath (dir : Path) (name : String) : Path :=
  dir.join ⟨name ++ ".tmp"⟩ 

def checkName (name : String) : Except Failure Unit :=
  if Segment.valid name then .ok () else .error (.of (.contextName name))

-- The name of the default context in a directory.
def readDefault (t : FileTree) (dir : Path) : Except Failure (Option String) :=
  match t.read (defaultPath dir) with
  | .error .notFound => .ok none
  | .error e         => .error ⟨[.read (defaultPath dir)], .file e⟩ 
  | .ok text         =>
    let name := Text.trim text
    .ok (if name = "" || name = noDefault then none else some name)

-- The context of that name in a directory.
def readContext (t : FileTree) (dir : Path) (name : String) : Except Failure StoredContext := do
  checkName name
  match t.read (contextPath dir name) with
  | .error .notFound => throw (.of (.noContext name dir))
  | .error e         => throw ⟨[.read (contextPath dir name)], .file e⟩ 
  | .ok text         => Failure.during (.parse (contextPath dir name)) (StoredContext.parse text)

def inDirectory (t : FileTree) (dir : Path) : ContextStore where
  default := readDefault t dir
  load    := readContext t dir

-- Puts a text in place of a file: it is written to a file beside it, which then takes its name. So
-- readers see the old text or the new one.
def replaceFile (t : FileTree) (target temporary : Path) (text : String) : 
    FileTree × Except Failure Unit :=
  let dir := target.parent?.getD ⟨""⟩ 
  match t.makeDirectories dir with
  | (t, .error e) => (t, .error ⟨[.createDirectory dir], .file e⟩)
  | (t, .ok ())   =>
    match t.write temporary text with
    | .error e => (t, .error ⟨[.writeTemporary temporary], .file e⟩)
    | .ok t    =>
      match t.rename temporary target with
      | .error e => (t, .error ⟨[.replace target], .file e⟩)
      | .ok t    => (t, .ok ())

def save (dir : Path) (name : String) (c : StoredContext) (t : FileTree) : 
    FileTree × Except Failure Unit :=
  match checkName name with
  | .error e => (t, .error e)
  | .ok ()   => replaceFile t (contextPath dir name) (temporaryPath dir name) c.text

-- Makes a context the default one, or none.
def setDefault (dir : Path) (name : Option String) (t : FileTree) : FileTree × Except Failure Unit :=
  let write (value : String) :=
    replaceFile t (defaultPath dir) (temporaryPath dir defaultFile) (value ++ "\n")
  match name with
  | none      => write noDefault
  | some name =>
    match checkName name with
    | .error e => (t, .error e)
    | .ok ()   => write name

-- What may be done with the contexts in a directory.
inductive Action
  | save (name : String) (c : StoredContext)
  | setDefault (name : Option String)
  | load (name : String)
  | readDefault
  deriving DecidableEq, Repr

-- What an action leaves behind. Reading leaves everything as it is.
def Action.apply (dir : Path) (t : FileTree) : Action → FileTree
  | .save name c     => (ContextStore.save dir name c t).1
  | .setDefault name => (ContextStore.setDefault dir name t).1
  | .load _          => t
  | .readDefault     => t

def Action.succeeds (dir : Path) (t : FileTree) : Action → Bool
  | .save name c     => (ContextStore.save dir name c t).2.isOk
  | .setDefault name => (ContextStore.setDefault dir name t).2.isOk
  | .load name       => (readContext t dir name).isOk
  | .readDefault     => (ContextStore.readDefault t dir).isOk

def run (dir : Path) (t : FileTree) (actions : List Action) : FileTree :=
  actions.foldl (Action.apply dir) t

end ContextStore
end Rollout
