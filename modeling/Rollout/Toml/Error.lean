namespace Rollout.Toml

inductive Reason
  | malformed
  | redefined (key : String)
  -- A key leads through too many tables.
  | tooDeep
  | wrongShape
  deriving DecidableEq, Repr

-- Why a document was refused, and on which line it is at fault.
structure Error where
  line   : Nat
  reason : Reason
  deriving DecidableEq, Repr

namespace Error

def located (line : Nat) (explanation : String) : String :=
  "TOML parse error at line " ++ toString line ++ ": " ++ explanation

-- Messages tell the line, but for keys that lead too deep.
def message (e : Error) : String :=
  match e.reason with
  | .malformed     => located e.line "malformed document"
  | .redefined key => located e.line ("duplicate key '" ++ key ++ "'")
  | .tooDeep       => "recursion limit\n"
  | .wrongShape    => located e.line "missing or unexpected value"

end Error
end Rollout.Toml
