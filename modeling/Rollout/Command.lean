import Rollout.Flag
namespace Rollout

-- What the program can be told to do.
inductive Command
  | context
  | inspect
  | targets
  deriving DecidableEq, Repr

namespace Command

def all : List Command := 
  [context, inspect, targets]

def name : Command → String
  | context => "context"
  | inspect => "inspect"
  | targets => "targets"

def summary : Command → String
  | context => "Print the resolved command context"
  | inspect => "Resolve a single app and show where its operations would run"
  | targets => "Print every app an operation would be dispatched to"

def ofName? (name : String) : Option Command :=
  all.find? (·.name = name)

-- The flags of a command, apart from the ones of every command.
def ownFlags (c : Command) : List Flag :=
  (if c = context then [.json] else []) ++ Flag.ofOperations ++ Flag.ofConnections

end Command

end Rollout
