import Rollout.Program
namespace Rollout

-- The outer layer: it takes a picture of the files that a run may look at, and shows what came of the
-- run. It decides nothing.
namespace Main

-- What stands at a path. Anything that cannot be read as a file or directory counts as missing.
def nodeAt? (p : Path) : IO (Option Node) := do
  try
    let there := (← IO.currentDir) / p.text
    if ← there.isDir then return some .directory
    let bytes ← IO.FS.readBinFile there
    return some (.file ((String.fromUTF8? bytes).elim .notText .text))
  catch _ => return none

def namesIn (p : Path) : IO (List String) := do
  try return (← ((← IO.currentDir) / p.text).readDir).toList.map (·.fileName) 
  catch _ => return []

def addNode (t : FileTree) (p : Path) : IO FileTree := do
  match ← nodeAt? p with
  | some n => return t.plant (t.placeOf p) n
  | none   => return t

def addDirectory (t : FileTree) (dir : Path) : IO FileTree := do
  let t ← addNode t dir
  let names := (← namesIn dir).filter Program.mayRead
  names.foldlM (fun t name => addNode t (dir.join ⟨name⟩)) t

def picture (dirs files : List Path) (start : Path) : IO FileTree := do
  let t : FileTree := ⟨[], FileTree.placeOf ⟨[], []⟩ start⟩ 
  files.foldlM addNode (← dirs.foldlM addDirectory t)

def workingDir : IO (Except Failure Path) := do
  try return .ok ⟨(← IO.currentDir).toString⟩ 
  catch _ => return .error (.of (.file .notFound))

def rawText (bytes : List UInt8) : RawText :=
  (String.fromUTF8? ⟨bytes.toArray⟩).elim .notText .text

-- An equals sign in the first place belongs to the name. What has no other one is no entry.
def entry? (bytes : List UInt8) : Option (RawText × RawText) :=
  match bytes with
  | []            => none
  | first :: rest => 
    match rest.span (· ≠ '='.toUInt8) with
    | (_,    [])         => none
    | (name, _ :: value) => some (rawText (first :: name), rawText value)

-- The environment, as the system keeps it for the running process.
def readEnvironment : IO RawEnvironment := do
  let bytes ← IO.FS.readBinFile "/proc/self/environ"
  return ⟨(bytes.toList.splitOn 0).filterMap entry?⟩ 

end Main
end Rollout

open Rollout in
def main (args : List String) : IO UInt32 := do
  let env ← Main.readEnvironment
  let dir ← Main.workingDir
  let dirs := Program.directories env env.usualDir? dir
  let shown := Program.run args {
    files       := ← Main.picture dirs (Program.files args) (dir.toOption.getD ⟨"/"⟩)
    environment := env
    workingDir  := dir
    settingsDir := env.usualDir?
    serverAt    := Server.unusable
  }
  (← IO.getStdout).putStr shown.stdout
  (← IO.getStderr).putStr shown.stderr
  return shown.exitCode.toUInt32
