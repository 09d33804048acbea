import Rollout.CommandLine.Usage
import Rollout.Trace
namespace Rollout

-- What a run of the program leaves on the screen.
structure Transcript where
  exitCode : Nat
  stdout   : String
  stderr   : String
  deriving DecidableEq, Repr

namespace Transcript

def decorate (plain : Bool) (mark message : String) : String :=
  if plain then message else mark ++ " " ++ message

def stdoutLine? (plain : Bool) : Event → Option String
  | .output message => some (decorate plain "==>" message)
  | .printed text   => some text
  | _               => none

def stderrLine? (plain : Bool) : Event → Option String
  | .error message => some (decorate plain "!" message)
  | _              => none

def ofLines (ls : List String) : String :=
  String.join (ls.map (· ++ "\n"))

def ofEvents (plain : Bool) (events : List Event) (exitCode : Nat) : Transcript where
  exitCode := exitCode
  stdout   := ofLines (events.filterMap (stdoutLine? plain))
  stderr   := ofLines (events.filterMap (stderrLine? plain))

def ofStop : Stop → Transcript
  | .usage e       => ⟨2, "", e.text⟩ 
  | .help text     => ⟨0, text, ""⟩ 
  | .guidance text => ⟨2, "", text⟩ 
  | .version       => ⟨0, "deployctl 0.1.0\n", ""⟩ 

end Transcript

end Rollout
