namespace Rollout

-- The words that projects, apps and stored contexts may be named by in files and targets: one or
-- more ASCII letters, digits, hyphens and underscores.
namespace Segment

def isLetter (c : Char) : Bool :=
  c.isAlphanum || c = '-' || c = '_'

def valid (s : String) : Bool :=
  !s.toList.isEmpty && s.toList.all isLetter

-- How messages describe the alphabet.
def alphabet : String := 
  "[-0-9A-Za-z_]"

theorem valid_iff {s : String} : valid s ↔ s.toList ≠ [] ∧ ∀ c ∈ s.toList, isLetter c := by
  simp [valid]

theorem not_isLetter_slash : isLetter '/' = false := 
  rfl

end Segment

-- The shape of a positional target.
inductive TargetText
  | app (project app : String)
  | project (name : String)
  | other
  deriving DecidableEq, Repr

namespace TargetText

-- A text names an app if it is two words joined by a slash, and a project if it is one word. Any
-- other text (more slashes, other characters, nothing at all) names neither.
def read (s : String) : TargetText :=
  match s.toList.span (· ≠ '/') with
  | (p, '/' :: a) =>
    if Segment.valid (.ofList p) && Segment.valid (.ofList a) then .app (.ofList p) (.ofList a) 
    else .other
  | _ =>
    if Segment.valid s then .project s else .other

end TargetText
end Rollout
