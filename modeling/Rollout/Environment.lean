import Rollout.KeyOrder
import Rollout.Path
import Rollout.Text.Blank
namespace Rollout

-- The variables of a process by name and value, in the order in which they are gone through. All of them
-- are text.
structure Environment where
  entries : List (String × String)
  deriving DecidableEq, Repr

namespace Environment

-- Names with this mark in front set variables of a command.
def variableMark : String := 
  "DEPLOYCTL_VAR_"

-- The part of a name behind the mark, if there is any.
def variableName? (key : String) : Option String :=
  let mark := variableMark.toList
  if mark.isPrefixOf key.toList && mark.length < key.toList.length then 
    some (.ofList (key.toList.drop mark.length))
  else none

-- The variables of a command that the environment sets, in order of their names. Their order in the
-- environment does not matter.
def assignments (env : Environment) : List (String × String) :=
  let pairs := env.entries.filterMap fun (key, value) => (variableName? key).map (·, value)
  pairs.mergeSort KeyOrder.pairLe

end Environment

-- A name or a value as the system keeps it, which need not be text.
inductive RawText
  | text (s : String)
  | notText
  deriving DecidableEq, Repr

namespace RawText

instance : Coe String RawText where
  coe := text

-- A pair of a name and a value, if both of them are text.
def pair? : RawText × RawText → Option (String × String)
  | (text name, text value) => some (name, value)
  | _                       => none

end RawText

-- The environment of a process as the system keeps it.
structure RawEnvironment where
  entries : List (RawText × RawText)
  deriving DecidableEq, Repr

namespace RawEnvironment

-- The first value of that name. One that is not text counts as missing.
def get? (env : RawEnvironment) (name : String) : Option String := do
  match ← env.entries.lookup (.text name) with
  | .text value => some value
  | .notText    => none

-- The workspace to use unless a flag names one.
def workspace? (env : RawEnvironment) : Option String :=
  env.get? "DEPLOYCTL_WORKSPACE"

-- All variables, unless something is found among them that is not text.
def variables? (env : RawEnvironment) : Option Environment := do
  return ⟨← env.entries.mapM RawText.pair?⟩

-- The place for the settings of all programs that an environment leads to. A system may know another 
-- place for a user without a home.
def usualDir? (env : RawEnvironment) : Option Path :=
  let absolute := (env.get? "XDG_CONFIG_HOME").filter fun dir => Path.isAbsolute ⟨dir⟩ 
  let home := (env.get? "HOME").filter (· ≠ "")
  (absolute.map Path.mk).or (home.map fun dir => Path.join ⟨dir⟩ ⟨".config"⟩)

-- Where the program keeps its settings. The system knows a place for settings of all programs, or it
-- does not.
def configDir (env : RawEnvironment) (settingsDir : Option Path) : Path :=
  match Text.given? (env.get? "DEPLOYCTL_CONFIG_DIR") with
  | some dir => ⟨dir⟩ 
  | none     => (settingsDir.getD ⟨"."⟩).join ⟨"deployctl"⟩ 

def contextDir (env : RawEnvironment) (settingsDir : Option Path) : Path :=
  (env.configDir settingsDir).join ⟨"context"⟩ 

end RawEnvironment
end Rollout
