import Rollout.Environment
import Rollout.Proofs.KeyOrder
import Rollout.Proofs.LastOf
import Rollout.Proofs.Text.Bytes
namespace Rollout

namespace Environment

variable {env env' : Environment} {key name value : String}

-- The environment gives a variable of a command a value, possibly one of several.
structure Sets (env : Environment) (name value : String) : Prop where
  named : name ≠ ""
  entry : (variableMark ++ name, value) ∈ env.entries

theorem variableName?_eq_some_iff : 
    variableName? key = some name ↔ name ≠ "" ∧ key = variableMark ++ name := by
  unfold variableName?
  dsimp only
  constructor
  case mp  =>
    intro h
    split at h
    case isFalse => contradiction
    case isTrue hm =>
      have ⟨hp, hl⟩ : variableMark.toList <+: key.toList ∧ 
          variableMark.toList.length < key.toList.length := by simpa using hm
      obtain ⟨rest, hr⟩ := hp
      obtain rfl : String.ofList rest = name := by simpa [← hr] using h
      refine ⟨fun he => ?_, String.toList_injective (by simp [hr])⟩ 
      have hn : rest = [] := by simpa using congrArg String.toList he
      simp [← hr, hn] at hl
  case mpr =>
    rintro ⟨hn, rfl⟩
    have hl : name.toList ≠ [] := fun he => hn (String.toList_injective he)
    simp [List.length_pos_iff.mpr hl]

theorem mem_assignments_iff : (name, value) ∈ env.assignments ↔ env.Sets name value := by
  simp only [assignments, List.mem_mergeSort, List.mem_filterMap, Prod.exists, Option.map_eq_some_iff, 
    variableName?_eq_some_iff, Prod.mk.injEq]
  constructor
  case mp  => 
    rintro ⟨_, _, he, _, ⟨hn, rfl⟩, rfl, rfl⟩
    exact ⟨hn, he⟩
  case mpr => 
    intro ⟨hn, he⟩
    exact ⟨_, _, he, _, ⟨hn, rfl⟩, rfl, rfl⟩

theorem assignments_of_perm (h : env'.entries.Perm env.entries) : env'.assignments = env.assignments :=
  KeyOrder.linear_pairLe.mergeSort_eq (h.filterMap _)

theorem pairwise_assignments (env : Environment) : env.assignments.Pairwise (KeyOrder.pairLe · ·) :=
  KeyOrder.linear_pairLe.pairwise _

theorem pairLe_of_name {value' : String} : 
    KeyOrder.pairLe (name, value) (name, value') ↔ Text.bytes value ≤ Text.bytes value' := by
  simp [KeyOrder.pairLe, Text.bytes_le_iff]

-- Of several values for one name, the last one in order is the greatest one.
theorem lastOf_assignments_iff : LastOf (·.1 = name) env.assignments (name, value) ↔ 
    env.Sets name value ∧ ∀ other, env.Sets name other → Text.bytes other ≤ Text.bytes value := by
  have o := KeyOrder.linear_pairLe
  rw [lastOf_iff_of_pairwise env.pairwise_assignments o.refl o.antisymm, mem_assignments_iff]
  constructor
  case mp  => 
    intro ⟨hs, _, hg⟩
    exact ⟨hs, fun other ho => pairLe_of_name.mp (hg (name, other) (mem_assignments_iff.mpr ho) rfl)⟩ 
  case mpr =>
    intro ⟨hs, hg⟩
    refine ⟨hs, rfl, ?_⟩
    rintro ⟨_, other⟩ ho rfl
    exact pairLe_of_name.mpr (hg other (mem_assignments_iff.mp ho))

-- The environment sets a variable whose name is blank. A name without any characters sets none.
def Nameless (env : Environment) : Prop :=
  ∃ name value, env.Sets name value ∧ Text.isBlank name

theorem nameless_iff : env.Nameless ↔ ∃ pair ∈ env.assignments, Text.isBlank pair.1 := by
  simp [Nameless, mem_assignments_iff]

theorem assignments_nil : assignments ⟨[]⟩ = [] := by
  simp [assignments]

theorem named_of_not_nameless (h : ¬env.Nameless) : 
    ∀ pair ∈ env.assignments, Text.isBlank pair.1 = false := by
  simpa [nameless_iff] using h

end Environment

namespace RawEnvironment

variable {raw : RawEnvironment}

-- Something in the environment is not text.
def Foreign (raw : RawEnvironment) : Prop :=
  ∃ entry ∈ raw.entries, entry.1 = .notText ∨ entry.2 = .notText

theorem pair?_eq_none_iff {entry : RawText × RawText} : 
    RawText.pair? entry = none ↔ entry.1 = .notText ∨ entry.2 = .notText := by
  obtain ⟨name, value⟩ := entry
  cases name <;> cases value <;> simp [RawText.pair?]

theorem mapM_pair?_eq_none_iff {entries : List (RawText × RawText)} : 
    entries.mapM RawText.pair? = none ↔ Foreign ⟨entries⟩ := by
  induction entries
  case nil                => simp [Foreign]
  case cons entry rest hi =>
    simp only [Foreign, List.exists_mem_cons_iff] at hi ⊢ 
    rw [← pair?_eq_none_iff, ← hi, List.mapM_cons]
    cases RawText.pair? entry <;> cases rest.mapM RawText.pair? <;> simp

-- All of the environment can be gone through unless something in it is not text.
theorem variables?_eq_none_iff : raw.variables? = none ↔ raw.Foreign := by
  rw [← mapM_pair?_eq_none_iff, variables?]
  cases raw.entries.mapM RawText.pair? <;> simp

end RawEnvironment
end Rollout
