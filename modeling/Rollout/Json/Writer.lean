import Rollout.Json.Value
namespace Rollout.Json

-- Text of values, on one line or indented.
namespace Writer

-- Two digits are enough for the control characters that need them.
def hexPair (n : Nat) : List Char :=
  [Nat.digitChar (n / 16), Nat.digitChar (n % 16)]

def escaped (c : Char) : List Char :=
  if c = '"' || c = '\\' then ['\\', c]
  else if c = '\x08' then ['\\', 'b']
  else if c = '\t' then ['\\', 't']
  else if c = '\n' then ['\\', 'n']
  else if c = '\x0c' then ['\\', 'f']
  else if c = '\r' then ['\\', 'r']
  else if c.toNat < 0x20 then ['\\', 'u', '0', '0'] ++ hexPair c.toNat
  else [c]

def quoted (s : String) : List Char :=
  '"' :: s.toList.flatMap escaped ++ ['"']

def numeral (n : Numeral) : List Char :=
  (if n.negative then ['-'] else []) ++ n.whole 
    ++ (if n.fraction.isEmpty then [] else '.' :: n.fraction)
    ++ n.exponent.elim [] fun e => 'e' :: (toString e).toList

def joined (separator : List Char) (parts : List (List Char)) : List Char :=
  separator.intercalate parts

mutual

-- The value on one line, without blanks.
def compact : Value → List Char
  | .null           => ['n', 'u', 'l', 'l']
  | .boolean true   => ['t', 'r', 'u', 'e']
  | .boolean false  => ['f', 'a', 'l', 's', 'e']
  | .number n       => numeral n
  | .string s       => quoted s
  | .unpaired       => quoted ""
  | .array items    => '[' :: joined [','] (compactItems items) ++ [']']
  | .object members => '\x7b' :: joined [','] (compactMembers members) ++ ['\x7d']

def compactItems : List Value → List (List Char)
  | []      => []
  | v :: vs => compact v :: compactItems vs

def compactMembers : List (String × Value) → List (List Char)
  | []              => []
  | (name, v) :: ms => (quoted name ++ ':' :: compact v) :: compactMembers ms

end

-- The start of a line at some depth; each level is two spaces wide.
def newLine (depth : Nat) : List Char :=
  '\n' :: List.replicate (2 * depth) ' '

-- Parts on lines of their own between brackets; without parts the brackets stay together.
def block (opening closing : Char) (depth : Nat) (parts : List (List Char)) : List Char :=
  if parts.isEmpty then [opening, closing]
  else 
    opening :: newLine (depth + 1) ++ joined (',' :: newLine (depth + 1)) parts ++ newLine depth 
      ++ [closing]

mutual

-- The value with every element and member on a line of its own.
def indented (depth : Nat) : Value → List Char
  | .array items    => block '[' ']' depth (indentedItems depth items)
  | .object members => block '\x7b' '\x7d' depth (indentedMembers depth members)
  | v               => compact v

def indentedItems (depth : Nat) : List Value → List (List Char)
  | []      => []
  | v :: vs => indented (depth + 1) v :: indentedItems depth vs

def indentedMembers (depth : Nat) : List (String × Value) → List (List Char)
  | []              => []
  | (name, v) :: ms => 
    (quoted name ++ ':' :: ' ' :: indented (depth + 1) v) :: indentedMembers depth ms

end
end Writer

def Value.compact (v : Value) : String :=
  .ofList (Writer.compact v)

def Value.pretty (v : Value) : String :=
  .ofList (Writer.indented 0 v)

end Rollout.Json
