import Rollout.ContextStore
import Rollout.Trace
namespace Rollout

-- What a command line leaves open is taken from the environment, then from the default context, and
-- then from a fixed value. A source that says nothing but blanks is passed over.

-- The default context, if there is one. It is only looked at when nothing before it decides.
def ContextStore.current (s : ContextStore) : Traced Failure (Option StoredContext) := do
  match ← Traced.asked .askedDefault s.default with
  | none      => return none
  | some name => 
    let c ← Traced.asked (.askedContext name) (s.load name)
    return some c

namespace WorkspaceRef

-- The workspace that an optional text names, unless it is blank. Every other text names one.
def given? (s : Option String) : Option WorkspaceRef := do
  (ofName (← Text.given? s)).toOption

def resolve (flag environment : Option String) (store : ContextStore) : 
    Traced Failure WorkspaceRef :=
  match (given? flag).or (given? environment) with
  | some w => pure w
  | none   => do
    let current ← store.current
    return (given? (current.map (·.workspace))).getD .default

end WorkspaceRef

namespace Connection

-- A connection without an address is none.
def given? (c : Option Connection) : Option Connection :=
  c.filter fun c => !Text.isBlank c.address

def resolve (flag : Option Connection) (store : ContextStore) : 
    Traced Failure (Option Connection) :=
  match given? flag with
  | some c => pure (some c)
  | none   => do
    let current ← store.current
    return given? (current.map (·.connection))

end Connection
end Rollout
