import Rollout.Text.Blank
namespace Rollout

-- A text `key=value`. The key is trimmed and must not be blank; the value is all that follows the
-- first equals sign, exactly as written.
structure Assignment where
  key   : String
  value : String
  deriving DecidableEq, Repr

namespace Assignment

inductive Error
  | noEquals (raw : String)
  | emptyKey (raw : String)
  deriving DecidableEq, Repr

def Error.message : Error → String
  | noEquals raw => "expected KEY=VALUE, got '" ++ raw ++ "'"
  | emptyKey raw => "key must not be empty in '" ++ raw ++ "'"

def read (raw : String) : Except Error Assignment :=
  match raw.toList.span (· ≠ '=') with
  | (_, [])         => .error (.noEquals raw)
  | (key, _ :: value) =>
    if (Text.trimChars key).isEmpty then .error (.emptyKey raw)
    else .ok ⟨.ofList (Text.trimChars key), .ofList value⟩ 

def text (a : Assignment) : String :=
  a.key ++ "=" ++ a.value

end Assignment
end Rollout
