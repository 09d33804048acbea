import Rollout.Proofs.Text.Cutting
import Rollout.Ref
import Rollout.Segment
namespace Rollout

namespace Segment

theorem not_isBlankChar_of_isLetter (h : isLetter c) : Text.isBlankChar c = false := by
  simp only [isLetter, Bool.or_eq_true, decide_eq_true_eq] at h
  obtain (h | rfl) | rfl := h
  · change (decide (65 ≤ c.val ∧ c.val ≤ 90) || (decide (97 ≤ c.val) && decide (c.val ≤ 122)) || 
      (decide (48 ≤ c.val) && decide (c.val ≤ 57))) = true at h
    simp only [Bool.or_eq_true, Bool.and_eq_true, decide_eq_true_eq, UInt32.le_iff_toNat_le] at h
    change ((65 ≤ c.toNat ∧ c.toNat ≤ 90) ∨ (97 ≤ c.toNat ∧ c.toNat ≤ 122)) ∨
      (48 ≤ c.toNat ∧ c.toNat ≤ 57) at h
    simp only [Text.isBlankChar, Bool.or_eq_false_iff, Bool.and_eq_false_iff, 
      decide_eq_false_iff_not]
    omega
  · rfl
  · rfl

-- A word is not empty, and no blank occurs in it.
theorem not_isBlank_of_valid (h : valid s) : Text.isBlank s = false := by
  have ⟨hn, hl⟩ := valid_iff.mp h
  have ⟨c, hc⟩ := List.exists_mem_of_ne_nil _ hn
  rw [Bool.eq_false_iff]
  intro hb
  have := not_isBlankChar_of_isLetter (hl c hc)
  simp [Text.isBlank_iff.mp hb c hc] at this

theorem slash_not_mem_of_valid (h : valid s) : '/' ∉ s.toList := by
  intro hm
  have := (valid_iff.mp h).right _ hm
  simp [not_isLetter_slash] at this

-- The alphabet, range by range.
def Letter (c : Char) : Prop :=
  ('A' ≤ c ∧ c ≤ 'Z') ∨ ('a' ≤ c ∧ c ≤ 'z') ∨ ('0' ≤ c ∧ c ≤ '9') ∨ c = '-' ∨ c = '_'

structure Word (s : String) : Prop where
  nonempty : s ≠ ""
  letters  : ∀ c ∈ s.toList, Letter c

theorem isLetter_iff : isLetter c ↔ Letter c := by
  have hc : c.isAlphanum = (decide ('A' ≤ c ∧ c ≤ 'Z') || (decide ('a' ≤ c) && decide (c ≤ 'z')) || 
    (decide ('0' ≤ c) && decide (c ≤ '9'))) := rfl
  simp only [isLetter, hc, Bool.or_eq_true, Bool.and_eq_true, decide_eq_true_eq, or_assoc, Letter]

theorem valid_iff_word : valid s ↔ Word s := by
  rw [valid_iff]
  constructor
  case mp  => exact fun ⟨hn, hl⟩ => ⟨by simpa using hn, fun c hc => isLetter_iff.mp (hl c hc)⟩ 
  case mpr => exact fun h => ⟨by simpa using h.nonempty, fun c hc => isLetter_iff.mpr (h.letters c hc)⟩ 

end Segment

namespace TargetText

-- A text names an app exactly if it consists of two words with a slash in between.
theorem read_eq_app_iff {s p a : String} : 
    read s = .app p a ↔ s = p ++ "/" ++ a ∧ Segment.valid p ∧ Segment.valid a := by
  constructor
  case mp =>
    intro h
    unfold read at h
    split at h
    case h_1 p' a' hs =>
      split at h <;> cases h
      case isTrue hv =>
        have ⟨hp, ha⟩ := Bool.and_eq_true_iff.mp hv
        have hn := Segment.slash_not_mem_of_valid hp
        rw [String.toList_ofList] at hn
        refine ⟨?_, hp, ha⟩
        apply String.toList_injective
        simpa using (Text.span_mark_eq_iff hn).mp hs
    case h_2 => split at h <;> cases h
  case mpr =>
    rintro ⟨rfl, hp, ha⟩
    have hs := Text.span_mark_append (Segment.slash_not_mem_of_valid hp) a.toList
    have ht : (p ++ "/" ++ a).toList = p.toList ++ '/' :: a.toList := by simp
    rw [read, ht, hs]
    simp [hp, ha]

theorem read_eq_project_iff {s name : String} : read s = .project name ↔ s = name ∧ Segment.valid s := by
  constructor
  case mp  =>
    intro h
    unfold read at h
    split at h
    case h_1 => split at h <;> cases h
    case h_2 => 
      split at h <;> cases h
      case isTrue hv => exact ⟨rfl, hv⟩ 
  case mpr =>
    rintro ⟨rfl, hv⟩ 
    unfold read
    split
    case h_1 p a hs => 
      have hm : '/' ∈ s.toList := by
        rw [List.span_eq_takeWhile_dropWhile] at hs
        exact List.dropWhile_subset _ ((Prod.mk.inj hs).right ▸ List.mem_cons_self)
      exact absurd hm (Segment.slash_not_mem_of_valid hv)
    case h_2        => rw [if_pos hv]

theorem read_eq_other_iff {s : String} : 
    read s = .other ↔ 
      ¬Segment.valid s ∧ ∀ p a, Segment.valid p → Segment.valid a → s ≠ p ++ "/" ++ a := by
  constructor
  case mp  =>
    refine fun h => ⟨fun hv => ?_, fun p a hp ha hs => ?_⟩ 
    case refine_1 => simp [read_eq_project_iff.mpr ⟨rfl, hv⟩] at h
    case refine_2 => simp [read_eq_app_iff.mpr ⟨hs, hp, ha⟩] at h
  case mpr =>
    intro ⟨hn, hs⟩ 
    cases h : read s
    case app p a => 
      have ⟨he, hp, ha⟩ := read_eq_app_iff.mp h
      exact absurd he (hs p a hp ha)
    case project => exact absurd (read_eq_project_iff.mp h).right hn
    case other   => rfl

-- What a text stands for by the way it is written.
inductive Written : String → TargetText → Prop
  | app {p a} (project : Segment.Word p) (app : Segment.Word a) : Written (p ++ "/" ++ a) (.app p a)
  | project {s} (word : Segment.Word s) : Written s (.project s)
  | other {s} (noProject : ¬Segment.Word s) 
    (noApp : ∀ p a, Segment.Word p → Segment.Word a → s ≠ p ++ "/" ++ a) : Written s .other

theorem read_eq_iff {s : String} {t : TargetText} : read s = t ↔ Written s t := by
  cases t
  case app     =>
    simp only [read_eq_app_iff, Segment.valid_iff_word]
    exact ⟨fun ⟨hs, hp, ha⟩ => hs ▸ .app hp ha, fun | .app hp ha => ⟨rfl, hp, ha⟩⟩ 
  case project =>
    simp only [read_eq_project_iff, Segment.valid_iff_word]
    exact ⟨fun ⟨hs, hw⟩ => hs ▸ .project hw, fun | .project hw => ⟨rfl, hw⟩⟩ 
  case other   =>
    simp only [read_eq_other_iff, Segment.valid_iff_word]
    exact ⟨fun ⟨hn, hs⟩ => .other hn hs, fun | .other hn hs => ⟨hn, hs⟩⟩ 

-- There is only one way to take such a text apart.
theorem Written.app_unique {s p a p' a' : String} (h : Written s (.app p a)) (h' : Written s (.app p' a')) : 
    p = p' ∧ a = a' := by
  have hr := read_eq_iff.mpr h
  rw [read_eq_iff.mpr h'] at hr
  cases hr
  exact ⟨rfl, rfl⟩ 

end TargetText
end Rollout
