import Rollout.CommandLine.Reading
namespace Rollout

-- How a text on the command line is read.
inductive Token
  -- Two hyphens: everything behind them is an argument.
  | separator
  | long (name : String) (value : Option String)
  | letters (cs : List Char)
  | word
  deriving DecidableEq, Repr

namespace Token

def longOf (cs : List Char) : Token :=
  match cs.span (· ≠ '=') with
  | (name, _ :: value) => .long (.ofList name) (some (.ofList value))
  | (name, [])         => .long (.ofList name) none

-- A lone hyphen is a word.
def read (text : String) : Token :=
  match text.toList with
  | ['-', '-']       => .separator
  | '-' :: '-' :: cs => longOf cs
  | '-' :: c :: cs   => .letters (c :: cs)
  | _                => .word

end Token

-- What may be written in one part of the command line.
structure Grammar where
  flags     : List Flag
  -- Whether arguments follow. If so, a text that is no known flag is one of them, or the value that a 
  -- flag waits for, even if it starts with a hyphen.
  arguments : Bool
  help      : String

namespace Grammar

def flagOfLong? (g : Grammar) (name : String) : Option Flag :=
  g.flags.find? (·.long = name)

def flagOfLetter? (g : Grammar) (c : Char) : Option Flag :=
  g.flags.find? (·.letter? = some c)

def usage (x : Except UsageError α) : Except Stop α :=
  x.mapError .usage

def press (g : Grammar) (r : Reading) (f : Flag) : Except Stop Reading := do
  let r ← usage r.settle
  match f with
  | .help    => .error (.help g.help)
  | .version => .error .version
  | _        => 
    let r ← usage (r.use f)
    return { r with flags := r.flags.turnOn f }

-- Reads a flag whose value is attached to it, or follows.
def enter (r : Reading) (f : Flag) : Option String → Except Stop Reading
  | none       => do return (← usage r.settle).await f
  | some value => do usage ((← usage r.settle).give f value)

-- Several letters in a row are switches, of which the last one may be a flag with a value. All that 
-- follows it is its value; an equals sign in between is dropped.
def takeLetters (g : Grammar) (r : Reading) : List Char → Except Stop Reading
  | []        => .ok r
  | c :: rest =>
    match g.flagOfLetter? c with
    | none   => .error (.usage (.unexpectedArgument ("-" ++ String.singleton c)))
    | some f =>
      if f.placeholder?.isNone then do g.takeLetters (← g.press r f) rest
      else match rest with
        | []           => enter r f none
        | '=' :: value => enter r f (some (.ofList value))
        | value        => enter r f (some (.ofList value))

def takeLong (g : Grammar) (r : Reading) (f : Flag) (value : Option String) : 
    Except Stop Reading :=
  match f.placeholder?, value with
  | none,   none       => g.press r f
  | none,   some value => .error (.usage (.unexpectedValue f value))
  | some _, value      => enter r f value

-- Reads a text as flags. Nothing is returned if it is a word instead.
def take (g : Grammar) (r : Reading) (text : String) : Except Stop (Option Reading) :=
  match Token.read text with
  | .long name value => 
    match g.flagOfLong? name with
    | some f => (g.takeLong r f value).map some
    | none   => 
      if g.arguments then .ok none
      else .error (.usage (.unexpectedArgument ("--" ++ name)))
  | .letters cs =>
    if g.arguments && cs.any (g.flagOfLetter? · |>.isNone) then .ok none
    else (g.takeLetters r cs).map some
  | _ => .ok none

-- What stops the reading of flags.
inductive Tail
  | done
  | separated (rest : List String)
  | word (text : String) (rest : List String)
  deriving DecidableEq, Repr

-- Reads flags and their values up to the first word that is neither.
def scan (g : Grammar) (r : Reading) : List String → Except Stop (Reading × Tail)
  | []           => .ok (r, .done)
  | text :: rest =>
    if Token.read text = .separator then .ok (r, .separated rest)
    else do
      match ← g.take r text with
      | some r => g.scan r rest
      | none   =>
        match r.awaiting? with
        | some f => g.scan (r.supply f text) rest
        | none   => return (r, .word text rest)

-- Reads flags where nothing else is allowed.
def readFlags (g : Grammar) (args : List String) : Except Stop Reading := do
  match ← g.scan {} args with
  | (r, .done)               => usage r.settle
  | (r, .separated [])       => usage r.settle
  | (_, .separated (w :: _)) => .error (.usage (.unexpectedArgument w))
  | (_, .word w _)           => .error (.usage (.unexpectedArgument w))

-- Reads flags and then arguments. A separator in front of the first argument is none itself.
def readArguments (g : Grammar) (args : List String) : Except Stop (Flags × List String) := do
  match ← g.scan {} args with
  | (r, .done)           => return ((← usage r.settle).flags, [])
  | (r, .separated rest) => return ((← usage r.settle).flags, rest)
  | (r, .word w rest)    => return ((← usage r.settle).flags, w :: rest)

end Grammar

end Rollout
