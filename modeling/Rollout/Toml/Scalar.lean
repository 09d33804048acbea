import Rollout.Toml.Value
namespace Rollout.Toml

-- Unquoted values: booleans, numbers, dates and times. Each is read from a whole word.
namespace Scalar

def digitValue (c : Char) : Nat :=
  if c.isDigit then c.toNat - '0'.toNat
  else if 'a' ≤ c && c ≤ 'f' then c.toNat - 'a'.toNat + 10
  else if 'A' ≤ c && c ≤ 'F' then c.toNat - 'A'.toNat + 10
  else 16

def isDigitIn (base : Nat) (c : Char) : Bool :=
  digitValue c < base

def numeral (base : Nat) (digits : List Char) : Nat :=
  digits.foldl (fun n c => base * n + digitValue c) 0

-- Whether all underscores stand between two digits. The flag tells if one may stand at the beginning.
def separated (isDigit : Char → Bool) : Bool → List Char → Bool
  | _,     []             => true
  | ready, '_' :: c :: cs => ready && isDigit c && separated isDigit true cs
  | _,     ['_']          => false
  | _,     c :: cs        => separated isDigit (isDigit c) cs

def signed (negative : Bool) (n : Nat) : Int :=
  if negative then -n else n

-- The integer with these digits, in which underscores do not count.
def integer (negative : Bool) (base : Nat) (cs : List Char) : Value :=
  let digits := cs.filter (· ≠ '_')
  if !digits.isEmpty && digits.all (isDigitIn base) then 
    .integer (signed negative (numeral base digits))
  else .unreadable

-- Integers in another base than ten have no sign.
def based? (base : Nat) (cs : List Char) : Option Value :=
  if cs.all (fun c => isDigitIn base c || c = '_') && separated (isDigitIn base) false cs then 
    some (integer false base cs)
  else none

-- A run of digits and underscores in front of the rest. There must be a digit in it.
def run? (cs : List Char) : Option (List Char × List Char) :=
  let inRun := fun c : Char => c.isDigit || c = '_'
  let digits := (cs.takeWhile inRun).filter Char.isDigit
  if digits.isEmpty then none else some (digits, cs.dropWhile inRun)

def sign? : List Char → Option Bool × List Char
  | '-' :: cs => (some true, cs)
  | '+' :: cs => (some false, cs)
  | cs        => (none, cs)

-- The digits after a point, if there is one.
def fraction? : List Char → Option (List Char × List Char)
  | '.' :: cs => run? cs
  | cs        => some ([], cs)

-- The exponent of a float, if the rest of the word is one.
def exponent? : List Char → Option Int
  | []      => some 0
  | c :: cs => do
    guard (c = 'e' || c = 'E')
    let (sign, cs) := sign? cs
    let (digits, []) ← run? cs | none
    return signed (sign.getD false) (numeral 10 digits)

-- A number is rounded to the nearest float.
def float? (negative : Bool) (cs : List Char) : Option Value := do
  let (whole, rest) ← run? cs
  guard (cs.head? ≠ some '0' || whole.length = 1)
  let (fraction, rest) ← fraction? rest
  let e ← exponent? rest
  match Magnitude.ofDecimal (numeral 10 (whole ++ fraction)) (e - fraction.length) with
  | some m => return .float (.finite negative m)
  | none   => return .unreadable

-- A decimal number behind its sign. It is a float if it has a point or an exponent. Where it is not
-- yet known to be a float, letters pass for digits next to an underscore. Directly behind a sign an
-- underscore can stand as well.
def decimal? (sign : Option Bool) (cs : List Char) : Option Value :=
  let rest := cs.dropWhile Char.isDigit
  if rest.any fun c => c = '.' || c = 'e' || c = 'E' then
    if separated Char.isDigit sign.isSome cs then float? (sign.getD false) cs else none
  else if rest.isEmpty || rest.head? = some '_' then
    if cs.isEmpty || (cs.head? = some '0' && 1 < cs.length) then none
    else if separated (isDigitIn 16) sign.isSome cs then some (integer (sign.getD false) 10 cs)
    else none
  else none

-- Only decimal numbers may have a sign.
def number? (cs : List Char) : Option Value :=
  match cs with
  | '0' :: 'x' :: cs => based? 16 cs
  | '0' :: 'o' :: cs => based? 8 cs
  | '0' :: 'b' :: cs => based? 2 cs
  | cs               => 
    let (sign, cs) := sign? cs
    if cs = ['i', 'n', 'f'] then some (.float (.infinite (sign.getD false)))
    else if cs = ['n', 'a', 'n'] then some (.float .nan)
    else decimal? sign cs

-- What starts with digits and then has a hyphen or a colon is a date or time.
def isMomentLike (cs : List Char) : Bool :=
  match cs.dropWhile Char.isDigit with
  | c :: _ => cs.head?.any Char.isDigit && (c = '-' || c = ':')
  | []     => false

def read? (cs : List Char) : Option Value :=
  if cs = ['t', 'r', 'u', 'e'] then some (.boolean true)
  else if cs = ['f', 'a', 'l', 's', 'e'] then some (.boolean false)
  else if isMomentLike cs then (Moment.read? cs).map .moment
  else number? cs

end Scalar
end Rollout.Toml
