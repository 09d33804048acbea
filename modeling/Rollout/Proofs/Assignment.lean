import Rollout.Assignment
import Rollout.Proofs.Text.Trimming
namespace Rollout.Assignment

-- An assignment that is written as it is read: nothing is cut off its key, and the first equals sign is 
-- the one behind the key.
structure Plain (a : Assignment) : Prop where
  named    : a.key ≠ ""
  trimmed  : Text.trim a.key = a.key
  unparted : '=' ∉ a.key.toList

instance {a : Assignment} : Decidable a.Plain :=
  decidable_of_iff (a.key ≠ "" ∧ Text.trim a.key = a.key ∧ '=' ∉ a.key.toList) 
    ⟨fun ⟨n, t, u⟩ => ⟨n, t, u⟩, fun ⟨n, t, u⟩ => ⟨n, t, u⟩⟩ 

-- A text that is no assignment, and why.
inductive Malformed (raw : String) : Error → Prop
  | noEquals (none : '=' ∉ raw.toList) : Malformed raw (.noEquals raw)
  | emptyKey {key value} (parts : raw = key ++ "=" ++ value) (blank : Text.isBlank key) : 
    Malformed raw (.emptyKey raw)

variable {a : Assignment} {raw key value : String} {e : Error}

theorem Plain.not_isBlank (h : a.Plain) : Text.isBlank a.key = false := by
  by_contra hb
  rw [Bool.not_eq_false, ← Text.isEmpty_trimChars, ← Text.toList_trim, h.trimmed] at hb
  exact h.named (by simpa using hb)

theorem unparted_of_isBlank (h : Text.isBlank key) : '=' ∉ key.toList :=
  fun hm => absurd (Text.isBlank_iff.mp h '=' hm) (by decide)

theorem read_of_noEquals (h : '=' ∉ raw.toList) : read raw = .error (.noEquals raw) := by
  rw [read, Text.span_mark_of_not_mem h]

theorem read_of_parts (h : '=' ∉ key.toList) : 
    read (key ++ "=" ++ value) = 
      if Text.isBlank key then .error (.emptyKey (key ++ "=" ++ value)) else .ok ⟨Text.trim key, value⟩ := by
  have hs := Text.span_mark_append h value.toList
  have ht : (key ++ "=" ++ value).toList = key.toList ++ '=' :: value.toList := by simp
  simp only [read, ht, hs, Text.isEmpty_trimChars, String.ofList_toList, Text.trim]

theorem read_text (h : a.Plain) : read a.text = .ok a := by
  rw [text, read_of_parts h.unparted, if_neg (by simp [h.not_isBlank]), h.trimmed]

theorem read_eq_error_iff : read raw = .error e ↔ Malformed raw e := by
  constructor
  case mpr =>
    rintro (none | ⟨rfl, blank⟩)
    case noEquals => exact read_of_noEquals none
    case emptyKey => rw [read_of_parts (unparted_of_isBlank blank), if_pos blank]
  case mp  =>
    intro h
    by_cases hm : '=' ∈ raw.toList
    case neg =>
      cases (read_of_noEquals hm).symm.trans h
      exact .noEquals hm
    case pos =>
      have ⟨key, value, hs, hk⟩ := List.eq_append_cons_of_mem hm
      obtain rfl : raw = .ofList key ++ "=" ++ .ofList value := String.toList_injective (by simp [hs])
      rw [read_of_parts (by rwa [String.toList_ofList])] at h
      split at h <;> cases h
      case isTrue hb => exact .emptyKey rfl hb

end Rollout.Assignment
