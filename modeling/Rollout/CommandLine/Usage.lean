import Rollout.Assignment
import Rollout.Flag
import Rollout.Terminal
namespace Rollout

-- How a command line can be wrong.
inductive UsageError
  | missingValue (f : Flag)
  | invalidValue (f : Flag) (value : String)
  | malformedValue (f : Flag) (value : String) (e : Assignment.Error)
  | repeated (f : Flag)
  | unexpectedValue (f : Flag) (value : String)
  | unexpectedArgument (arg : String)
  | unknownCommand (name : String)
  | missingCommand
  deriving DecidableEq, Repr

open Terminal (strong) in
-- Messages make the words stand out that they are about. The reason why a value is malformed shows
-- it once more as it is.
def UsageError.message : UsageError → String
  | missingValue f           => 
    "a value is required for '" ++ strong f.shown ++ "' but none was supplied"
  | invalidValue f value     => 
    "invalid value '" ++ strong value ++ "' for '" ++ strong f.shown ++ "'"
  | malformedValue f value e => 
    "invalid value '" ++ strong value ++ "' for '" ++ strong f.shown ++ "': " ++ e.message
  | repeated f               => 
    "the argument '" ++ strong f.shown ++ "' cannot be used multiple times"
  | unexpectedValue f value  => 
    "unexpected value '" ++ strong value ++ "' for '" ++ strong f.shown ++ 
      "' found; no more were expected"
  | unexpectedArgument arg   => "unexpected argument '" ++ strong arg ++ "' found"
  | unknownCommand name      => "unrecognized subcommand '" ++ strong name ++ "'"
  | missingCommand           => 
    "'" ++ strong "deployctl" ++ "' requires a subcommand but one was not provided"

-- What is printed about a mistake. It is not meant for a terminal.
def UsageError.text (e : UsageError) : String :=
  Terminal.plain ("error: " ++ e.message ++ "\n\nFor more information, try '" ++ 
    Terminal.strong "--help" ++ "'.\n")

-- Why reading the command line does not lead to a command.
inductive Stop
  | usage (e : UsageError)
  -- Help that was asked for.
  | help (text : String)
  -- Help instead of a command line that says nothing at all.
  | guidance (text : String)
  | version
  deriving DecidableEq, Repr

end Rollout
