import Rollout.Flags
import Rollout.CommandLine.Usage
namespace Rollout

-- The command line is read from left to right. A flag that takes a value is not settled before its
-- value is known to be complete: when the next flag or the first argument follows, or at the end.

namespace Flags

-- The switches that set something.
def turnOn (fs : Flags) : Flag → Flags
  | .plain      => { fs with plain := true }
  | .remote     => { fs with remote := true }
  | .skipVerify => { fs with skipVerify := true }
  | .json       => { fs with json := true }
  | _           => fs

def readAssignment (f : Flag) (value : String) : Except UsageError Assignment :=
  (Assignment.read value).mapError (.malformedValue f value)

def readSwitch (f : Flag) (value : String) : Except UsageError Bool :=
  if value = "true" then .ok true
  else if value = "false" then .ok false
  else if value = "" then .error (.missingValue f)
  else .error (.invalidValue f value)

-- Paths cannot be empty. 
def readPath (f : Flag) (value : String) : Except UsageError Path :=
  if value = "" then .error (.missingValue f) else .ok ⟨value⟩ 

-- Gives a flag its value. Repeated flags collect their values in order.
def give (fs : Flags) (f : Flag) (value : String) : Except UsageError Flags :=
  match f with
  | .app           => .ok { fs with app := some value }
  | .project       => .ok { fs with project := some value }
  | .workspace     => .ok { fs with workspace := some value }
  | .serverAddress => .ok { fs with serverAddress := some value }
  | .serverTls     => do 
    return { fs with serverTls := ← readSwitch f value }
  | .label         => do 
    return { fs with labels := fs.labels ++ [← readAssignment f value] }
  | .remoteSource  => do 
    return { fs with remoteSource := fs.remoteSource ++ [← readAssignment f value] }
  | .assign        => do 
    return { fs with assignments := fs.assignments ++ [← readAssignment f value] }
  | .assignFile    => do 
    return { fs with variableFiles := fs.variableFiles ++ [← readPath f value] }
  | _              => .ok fs

-- Flags that are given in two places: what stands in the inner one wins.
def inherit (inner outer : Flags) : Flags :=
  { inner with
    plain     := inner.plain || outer.plain
    app       := inner.app.or outer.app
    project   := inner.project.or outer.project
    workspace := inner.workspace.or outer.workspace }

end Flags

-- A flag that waits for being settled, with its value once that has been read.
structure Pending where
  flag  : Flag
  value : Option String
  deriving DecidableEq, Repr

-- How far a command line has been read.
structure Reading where
  flags   : Flags := {}
  -- The flags that have been settled.
  used    : List Flag := []
  pending : Option Pending := none
  deriving DecidableEq, Repr

namespace Reading

-- Notes that a flag is used. A flag that does not repeat can only be used once.
def use (r : Reading) (f : Flag) : Except UsageError Reading :=
  if !f.repeats && f ∈ r.used then .error (.repeated f) else .ok { r with used := f :: r.used }

def give (r : Reading) (f : Flag) (value : String) : Except UsageError Reading := do
  let r ← r.use f
  return { r with flags := ← r.flags.give f value }

-- Settles the flag that is pending, if there is one.
def settle (r : Reading) : Except UsageError Reading :=
  match r.pending with
  | none                  => .ok r
  | some ⟨f, none⟩        => .error (.missingValue f)
  | some ⟨f, some value⟩  => { r with pending := none }.give f value

-- The flag that the next text is the value of.
def awaiting? (r : Reading) : Option Flag := do
  let p ← r.pending
  if p.value.isNone then some p.flag else none

def await (r : Reading) (f : Flag) : Reading :=
  { r with pending := some ⟨f, none⟩ }

def supply (r : Reading) (f : Flag) (value : String) : Reading :=
  { r with pending := some ⟨f, some value⟩ }

end Reading

end Rollout
