namespace Rollout

-- Flags are read up to the first positional argument only. A flag that stands behind one would be
-- taken for an argument without a word, so such flags are looked for and refused.
namespace FlagOrder

structure Misplaced where
  flags : List String
  deriving DecidableEq, Repr

def Misplaced.message (e : Misplaced) : String :=
  "Flags must be specified before positional arguments in the CLI command.\n" ++
  "For example \"deployctl targets --example project\" not \"deployctl targets project --example\".\n" ++
  "Please reorder your arguments and try again.\n\n" ++
  "Misplaced flags: " ++ ", ".intercalate e.flags

-- The characters of the flag name in `-name`, `--name` or `--name=value`. A lone hyphen and a text
-- that starts with three hyphens are no flags.
def flagChars? : List Char → Option (List Char)
  | '-' :: '-' :: '-' :: _ => none
  | '-' :: '-' :: rest     => some (rest.takeWhile (· ≠ '='))
  | '-' :: c :: rest       => some ((c :: rest).takeWhile (· ≠ '='))
  | _                      => none

def flagName? (arg : String) : Option String :=
  (flagChars? arg.toList).map .ofList

-- The recognized flags among the arguments in front of the first literal `--`, each once, in order
-- of first occurrence. Other texts that start with a hyphen stay usable as arguments.
def misplaced (args recognized : List String) : List String :=
  ((args.takeWhile (· ≠ "--")).filterMap flagName? |>.filter (· ∈ recognized)).eraseDups

def check (args recognized : List String) : Except Misplaced Unit :=
  match misplaced args recognized with
  | []    => .ok ()
  | flags => .error ⟨flags⟩ 

end FlagOrder
end Rollout
