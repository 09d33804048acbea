import Rollout.CommandLine.Grammar
import Rollout.CommandLine.Help
namespace Rollout

structure CommandLine where
  command : Command
  flags   : Flags
  args    : List String
  deriving DecidableEq, Repr

namespace CommandLine

-- Flags and nothing else.
def flagGrammar : Grammar where
  flags     := Flag.ofEvery ++ Flag.ofOperations ++ Flag.ofConnections ++ [.help]
  arguments := false
  help      := 
    "Usage: deployctl [OPTIONS]\n\n" ++ 
    Help.options (Flag.ofEvery ++ Flag.ofOperations ++ Flag.ofConnections ++ [.help])

-- What stands in front of the command.
def rootGrammar : Grammar where
  flags     := Flag.ofEvery ++ [.help, .version]
  arguments := false
  help      := 
    "Resolve deployment targets and dispatch per-app operations\n\n" ++
    "Usage: deployctl [OPTIONS] <COMMAND>\n\n" ++
    "Commands:\n" ++ Help.column Help.commandEntries ++ "\n" ++ 
    Help.options (Flag.ofEvery ++ [.help, .version])

-- What stands behind the command.
def grammar (c : Command) : Grammar where
  flags     := c.ownFlags ++ Flag.ofEvery ++ [.help]
  arguments := true
  help      := 
    c.summary ++ "\n\nUsage: deployctl " ++ c.name ++ " [OPTIONS] [ARGS]...\n\n" ++ 
    Help.options (c.ownFlags ++ Flag.ofEvery ++ [.help])

def wordHelp : String :=
  "Print help\n\nUsage: deployctl help [COMMAND]\n"

-- The names of the flags that a command knows.
def recognized (c : Command) : List String :=
  Spelling.allNames ((Flag.ofEvery ++ c.ownFlags).map Flag.spelling)

-- Help about a command. There is nothing below a command that help could be asked about.
def helpAbout : List String → Stop
  | []           => .help rootGrammar.help
  | name :: rest =>
    let text? := if name = Help.word then some wordHelp 
      else (Command.ofName? name).map (grammar · |>.help)
    match text?, rest with
    | none,      _      => .usage (.unknownCommand name)
    | some text, []     => .help text
    | some _,    w :: _ => .usage (.unknownCommand w)

-- Whether a word stands where a command is expected.
def isCommandWord (w : String) : Bool :=
  w = Help.word || (Command.ofName? w).isSome

-- Without a command, help is shown if nothing else has been said either.
def withoutCommand (r : Reading) : Except Stop CommandLine := do
  let r ← Grammar.usage r.settle
  if r.used.isEmpty then .error (.guidance rootGrammar.help) else .error (.usage .missingCommand)

-- Behind a separator no command is expected any more.
def separatedWord (w : String) : Stop :=
  if isCommandWord w then .usage (.unexpectedArgument w) else .usage (.unknownCommand w)

-- What stands behind the command is read first, and mistakes in it are reported first.
def read (args : List String) : Except Stop CommandLine := do
  match ← rootGrammar.scan {} args with
  | (r, .done)               => withoutCommand r
  | (r, .separated [])       => withoutCommand r
  | (_, .separated (w :: _)) => .error (separatedWord w)
  | (r, .word w rest)        =>
    if w = Help.word then .error (helpAbout rest)
    else match Command.ofName? w with
      | none   => .error (.usage (.unknownCommand w))
      | some c =>
        let (inner, args) ← (grammar c).readArguments rest
        let outer ← Grammar.usage r.settle
        return ⟨c, inner.inherit outer.flags, args⟩ 

end CommandLine
end Rollout
