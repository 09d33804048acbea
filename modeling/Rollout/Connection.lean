import Rollout.Failure
import Rollout.Text.Blank
namespace Rollout

-- How to reach a server.
@[ext]
structure Connection where
  address    : String := ""
  tls        : Bool := true
  skipVerify : Bool := false
  deriving DecidableEq, Repr

namespace Connection

-- Whether a text names the scheme of a URL itself.
def hasScheme : List Char → Bool
  | ':' :: '/' :: '/' :: _ => true
  | _ :: cs                => hasScheme cs
  | []                     => false

def withoutTrailingSlashes (cs : List Char) : List Char :=
  Path.dropTrailing (· = '/') cs

def scheme (c : Connection) : String :=
  if c.tls then "https://" else "http://"

-- The URL that all requests start with. An address with a scheme is one already; otherwise the
-- scheme follows from the connection's own setting.
def baseUrl? (c : Connection) : Except Failure String :=
  let address := Text.trimChars c.address.toList
  if address.isEmpty then .error (.of .noAddress)
  else 
    let shown := String.ofList (withoutTrailingSlashes address)
    .ok (if hasScheme address then shown else c.scheme ++ shown)

end Connection
end Rollout
