import Rollout.Failure
namespace Rollout

-- Why an operation on one app did not succeed.
inductive OperationError
  | failed (f : Failure)
  -- The user has seen the reason already, and it must not be shown again.
  | alreadyReported
  deriving DecidableEq, Repr

inductive AppOutcome
  | succeeded
  | failed (f : Failure)
  | alreadyReported
  deriving DecidableEq, Repr

namespace AppOutcome

def ofResult : Except OperationError Unit → AppOutcome
  | .ok ()                  => succeeded
  | .error (.failed f)      => failed f
  | .error .alreadyReported => alreadyReported

def failure? : AppOutcome → Option Failure
  | failed f => some f
  | _        => none

end AppOutcome

-- Several failures that are shown together.
namespace Failures

def heading (n : Nat) : String :=
  if n = 1 then "1 error occurred:\n" else toString n ++ " errors occurred:\n"

def text (fs : List Failure) : String :=
  heading fs.length ++ String.join (fs.map fun f => "\t* " ++ f.full ++ "\n")

end Failures

-- What the outcomes recorded so far add up to.
@[ext]
structure Aggregate where
  failures        : List Failure := []
  alreadyReported : Bool := false
  completed       : Nat := 0
  deriving DecidableEq, Repr

-- How a run over several apps ended.
inductive DispatchOutcome
  | succeeded
  -- Failures that the user has seen already are not among these.
  | failed (failures : List Failure)
  | alreadyReported
  -- What had been recorded before the run was canceled.
  | canceled (soFar : Aggregate)
  deriving DecidableEq, Repr

namespace Aggregate

def record (a : Aggregate) (o : AppOutcome) : Aggregate where
  failures        := a.failures ++ o.failure?.toList
  alreadyReported := a.alreadyReported || o = .alreadyReported
  completed       := a.completed + 1

def ofList (outcomes : List AppOutcome) : Aggregate :=
  outcomes.foldl record {}

-- What both add up to, if the outcomes on the left came first.
def merge (a b : Aggregate) : Aggregate where
  failures        := a.failures ++ b.failures
  alreadyReported := a.alreadyReported || b.alreadyReported
  completed       := a.completed + b.completed

def finish (a : Aggregate) : DispatchOutcome :=
  if !a.failures.isEmpty then .failed a.failures
  else if a.alreadyReported then .alreadyReported
  else .succeeded

end Aggregate

inductive DispatchError
  | failed (failures : List Failure)
  | alreadyReported
  | canceled
  deriving DecidableEq, Repr

namespace DispatchError

def message : DispatchError → String
  | failed failures => Failures.text failures
  | alreadyReported => "failure already reported"
  | canceled        => "operation canceled"

def isAlreadyReported (e : DispatchError) : Bool :=
  e = alreadyReported

end DispatchError

namespace DispatchOutcome

-- The outcome of a run whose outcomes per app are these.
def reduce (outcomes : List AppOutcome) : DispatchOutcome :=
  (Aggregate.ofList outcomes).finish

def isSuccess (o : DispatchOutcome) : Bool :=
  o = succeeded

def result : DispatchOutcome → Except DispatchError Unit
  | succeeded       => .ok ()
  | failed failures => .error (.failed failures)
  | alreadyReported => .error .alreadyReported
  | canceled _      => .error .canceled

end DispatchOutcome
end Rollout
