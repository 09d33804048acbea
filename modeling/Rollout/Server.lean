import Rollout.Failure
import Rollout.Project
import Rollout.Connection
namespace Rollout

-- What a server answers when it is asked about a project or about the runner profiles it offers.
structure Server where
  project  : ProjectRef → Except Failure Project
  profiles : Except Failure (List Profile)

namespace Server

-- The request for a project. The name is put into the URL as it is.
def projectUrl (base : String) (p : ProjectRef) : String :=
  base ++ "/v1/projects/" ++ p.name

def profilesUrl (base : String) : String :=
  base ++ "/v1/ondemand-runner-configs"

-- A server that cannot be asked anything, since no request to it has a usable URL.
def unusable (base : String) : Server where
  project p := .error ⟨[.get (projectUrl base p)], .unusableUrl⟩ 
  profiles  := .error ⟨[.get (profilesUrl base)], .unusableUrl⟩ 

end Server
end Rollout
