namespace Rollout

-- Lists of named things in ascending order of their names, each name once. Names are ordered
-- character by character, which is also the order of their bytes.
namespace KeyOrder

-- Puts a value at its place, or replaces the one that has the name.
def insert (key : String) (v : α) : List (String × α) → List (String × α)
  | []               => [(key, v)]
  | (k, old) :: rest =>
    if key = k then (key, v) :: rest
    else if key < k then (key, v) :: (k, old) :: rest
    else (k, old) :: insert key v rest

-- Of several values with one name the last one counts.
def ofList (pairs : List (String × α)) : List (String × α) :=
  pairs.foldl (fun table (key, v) => insert key v table) []

-- Pairs of texts in order of the first, then of the second one.
def pairLe (a b : String × String) : Bool :=
  a.1 < b.1 || (a.1 = b.1 && a.2 ≤ b.2)

end KeyOrder
end Rollout
