import Rollout.Assignment
import Rollout.Connection
namespace Rollout

-- The values of all flags that commands share.
structure Flags where
  plain         : Bool := false
  app           : Option String := none
  project       : Option String := none
  workspace     : Option String := none
  labels        : List Assignment := []
  remote        : Bool := false
  remoteSource  : List Assignment := []
  assignments   : List Assignment := []
  variableFiles : List Path := []
  serverAddress : Option String := none
  serverTls     : Bool := true
  skipVerify    : Bool := false
  json          : Bool := false
  deriving DecidableEq, Repr

-- The server that the flags name. Without an address there is none, and the other settings about it
-- do not matter.
def Flags.server? (f : Flags) : Option Connection := do
  let address ← Text.given? f.serverAddress
  return ⟨address, f.serverTls, f.skipVerify⟩ 

end Rollout
