import Rollout.Server
import Rollout.Trace
namespace Rollout

-- Where operations run.
inductive RunnerMode
  | here
  | remote
  deriving DecidableEq, Repr

def RunnerMode.text : RunnerMode → String
  | here   => "local"
  | remote => "remote"

-- What decides where the operations of a project run: the first condition that holds in this order.
inductive Routing
  | disabled
  | noData
  | localData
  | assignedProfile
  | defaultProfile
  | noProfile
  deriving DecidableEq, Repr

namespace Routing

def mode : Routing → RunnerMode
  | assignedProfile => .remote
  | defaultProfile  => .remote
  | _               => .here

def text : Routing → String
  | disabled        => "remote operations are disabled for the project"
  | noData          => "the project has no data source configured"
  | localData       => "the project's data source cannot be fetched by a remote runner"
  | assignedProfile => "the project has an on-demand runner profile"
  | defaultProfile  => "a default on-demand runner profile exists"
  | noProfile       => "no on-demand runner profile is assigned and no global default exists"

-- The profiles are only asked for if nothing that the project says about itself decides.
def decide (s : Server) (p : Project) : Traced Failure Routing :=
  if !p.remoteEnabled then pure .disabled
  else match p.dataSource, p.runner with
    | none,      _      => pure .noData
    | some data, runner =>
      if !data.isRemote then pure .localData
      else if runner.isSome then pure .assignedProfile
      else do
        let profiles ← Traced.asked .askedProfiles s.profiles
        return if profiles.any (·.isDefault) then .defaultProfile else .noProfile

end Routing
end Rollout
