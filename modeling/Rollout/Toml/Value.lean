import Rollout.Decimal.Binary64
import Rollout.Toml.Moment
namespace Rollout.Toml

-- The values of a document. Tables keep the order in which their keys were first written; no key
-- occurs twice. Integers may be of any size. A word that is written like a number, but stands for
-- none, or for one that is larger than any float, cannot be read.
inductive Value
  | string (s : String)
  | integer (n : Int)
  | float (x : Binary64)
  | unreadable
  | boolean (b : Bool)
  | moment (m : Moment)
  | array (items : List Value)
  | table (entries : List (String × Value))

abbrev Table := List (String × Value)

namespace Value

mutual

-- Whether a reader who has no use for the value can pass over it. All numbers in it must be
-- readable, and integers must fit into 128 bits, with or without a sign.
def isPassable : Value → Bool
  | integer n     => -(Nat.pow 2 127 : Int) ≤ n && n < (Nat.pow 2 128 : Int)
  | unreadable    => false
  | array items   => arePassable items
  | table entries => havePassable entries
  | _             => true

def arePassable : List Value → Bool
  | []      => true
  | v :: vs => v.isPassable && arePassable vs

def havePassable : List (String × Value) → Bool
  | []           => true
  | (_, v) :: es => v.isPassable && havePassable es

end

-- A table whose first key in order of the keys is this one stands for a date or time, which the key 
-- holds as a text.
def momentKey : String := 
  "$__toml_private_datetime"

def isMoment (entries : Table) : Bool :=
  (entries.lookup momentKey).isSome && entries.all fun (k, _) => momentKey ≤ k

def moment? (entries : Table) : Option Moment :=
  match entries.lookup momentKey with
  | some (string s) => Moment.read? s.toList
  | _               => none

mutual

-- The value as it can be kept: integers have 64 bits with a sign, all numbers are readable, and
-- dates and times that are written as tables are recognised.
def settle? : Value → Option Value
  | integer n     => 
    if -(Nat.pow 2 63 : Int) ≤ n && n < (Nat.pow 2 63 : Int) then some (integer n) else none
  | unreadable    => none
  | array items   => (settleItems? items).map array
  | table entries => 
    if isMoment entries then (moment? entries).map moment else (settleEntries? entries).map table
  | v             => some v

def settleItems? : List Value → Option (List Value)
  | []      => some []
  | v :: vs => do return (← v.settle?) :: (← settleItems? vs)

def settleEntries? : List (String × Value) → Option Table
  | []           => some []
  | (k, v) :: es => do return (k, ← v.settle?) :: (← settleEntries? es)

end

end Value
end Rollout.Toml
