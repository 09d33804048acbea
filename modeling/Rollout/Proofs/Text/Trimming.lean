import Rollout.Proofs.Path.Trailing
import Rollout.Proofs.Segment
import Rollout.Proofs.Text.Blank
namespace Rollout.Text

variable {s t : String}

-- Neither the first character of a text nor its last is blank.
structure Unpadded (t : String) : Prop where
  first : ∀ c ∈ t.toList.head?, isBlankChar c = false
  last  : ∀ c ∈ t.toList.getLast?, isBlankChar c = false

-- What is left of a text when the blanks around it are cut off.
structure Trims (s t : String) : Prop where
  around   : ∃ before after, s.toList = before ++ t.toList ++ after ∧ 
    (∀ c ∈ before, isBlankChar c) ∧ ∀ c ∈ after, isBlankChar c
  unpadded : Unpadded t

theorem dropWhile_of_first {cs : List Char} (h : ∀ c ∈ cs.head?, isBlankChar c = false) : 
    cs.dropWhile isBlankChar = cs := by
  cases cs
  case nil       => rfl
  case cons c cs => rw [List.dropWhile_cons_of_neg (by simp [h c rfl])]

theorem trimChars_eq (cs : List Char) : 
    trimChars cs = Path.dropTrailing isBlankChar (cs.dropWhile isBlankChar) := 
  rfl

theorem trimChars_around {before cs after : List Char} (hb : ∀ c ∈ before, isBlankChar c) 
    (ha : ∀ c ∈ after, isBlankChar c) (first : ∀ c ∈ cs.head?, isBlankChar c = false) 
    (last : ∀ c ∈ cs.getLast?, isBlankChar c = false) : trimChars (before ++ cs ++ after) = cs := by
  rw [trimChars_eq, List.append_assoc, List.dropWhile_append_of_pos hb]
  cases cs
  case nil       => 
    have hn : (after ++ []).dropWhile isBlankChar = [] := List.dropWhile_append_of_pos ha
    rw [List.nil_append, ← List.append_nil after, hn]
    rfl
  case cons c cs =>
    have hf : (c :: cs ++ after).dropWhile isBlankChar = c :: cs ++ after := 
      dropWhile_of_first (by simpa using first)
    rw [hf, Path.dropTrailing_append ha, Path.dropTrailing_of_last last]

theorem trims_trim (s : String) : Trims s (trim s) := by
  have ⟨⟨after, hs, ha⟩, hl⟩ := Path.dropsTrailing_iff.mpr (trimChars_eq s.toList).symm
  refine ⟨⟨s.toList.takeWhile isBlankChar, after, ?_, ?_, ha⟩, ?_, ?_⟩
  case refine_1 => 
    rw [toList_trim, List.append_assoc, ← hs, List.takeWhile_append_dropWhile]
  case refine_2 => exact List.all_eq_true.mp List.all_takeWhile
  case refine_3 => 
    intro c hc
    have hd := List.head?_dropWhile_not isBlankChar s.toList
    rw [toList_trim, Option.mem_def] at hc
    rw [hs, List.head?_append, hc] at hd
    simpa using hd
  case refine_4 => rwa [toList_trim]

theorem trims_iff : Trims s t ↔ trim s = t := by
  constructor
  case mp  =>
    intro ⟨⟨before, after, hs, hb, ha⟩, hf, hl⟩ 
    rw [trim, hs, trimChars_around hb ha hf hl, String.ofList_toList]
  case mpr => 
    rintro rfl
    exact trims_trim s

theorem isEmpty_trimChars (s : String) : (trimChars s.toList).isEmpty = isBlank s := by
  have hb := isBlank_trim s
  have hf := (trims_trim s).unpadded.first
  rw [toList_trim] at hf
  rw [isBlank, toList_trim] at hb
  cases hc : trimChars s.toList
  case nil       => simpa [hc] using hb
  case cons c cs => simpa [hc, hf c (by simp [hc])] using hb

theorem Trims.of_not_blank (h : Trims s t) (hs : isBlank s = false) : isBlank t = false ∧ Unpadded t :=
  ⟨by rw [← trims_iff.mp h, isBlank_trim, hs], h.unpadded⟩

theorem unpadded_of_word (h : Segment.Word s) : Unpadded s := by
  have hb (c : Char) (hc : c ∈ s.toList) : isBlankChar c = false := 
    Segment.not_isBlankChar_of_isLetter (Segment.isLetter_iff.mpr (h.letters c hc))
  exact ⟨fun c hc => hb c (List.mem_of_mem_head? hc), fun c hc => hb c (List.mem_of_mem_getLast? hc)⟩ 

end Rollout.Text
