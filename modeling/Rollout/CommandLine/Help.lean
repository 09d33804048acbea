import Rollout.Command
namespace Rollout

-- The texts that explain how the program is used.
namespace Help

-- One line per entry; the descriptions stand in a column.
def column (entries : List (String × String)) : String :=
  let width := (entries.map (·.1.length)).foldl max 0
  String.join (entries.map fun (left, right) =>
    "  " ++ left ++ .ofList (List.replicate (width - left.length) ' ') ++ "  " ++ right ++ "\n")

def flagEntry (f : Flag) : String × String :=
  (f.letter?.elim "    " (fun c => "-" ++ String.singleton c ++ ", ") ++ f.shown, f.summary)

def options (flags : List Flag) : String :=
  "Options:\n" ++ column (flags.map flagEntry)

-- The word that asks for help in place of a command.
def word : String := 
  "help"

def commandEntries : List (String × String) :=
  Command.all.map (fun c => (c.name, c.summary)) ++ [(word, "Print this message or the help of a command")]

end Help

end Rollout
