import Mathlib.Data.List.Flatten
import Rollout.Server
import Rollout.Proofs.Path.Trailing
import Rollout.Proofs.Segment
import Rollout.Proofs.Text.Bytes
namespace Rollout

-- How the end of a URL is read, as far as it matters for the names that are put there.
namespace Url

open Json.Document (hexValue?)

def isBreak (c : Char) : Bool :=
  c = '\t' || c = '\n' || c = '\r'

-- Control characters and spaces at the end of a URL are no part of it, and tabs and line breaks are
-- passed over everywhere.
def cleaned (cs : List Char) : List Char :=
  (Path.dropTrailing (· ≤ ' ') cs).filter (!isBreak ·)

-- The bytes that the characters of a segment stand for. A percent sign with two hexadecimal digits
-- stands for one byte.
def decoded : List Char → List UInt8
  | '%' :: a :: b :: cs => 
    match hexValue? a, hexValue? b with
    | some m, some n => UInt8.ofNat (16 * m + n) :: decoded cs
    | _, _           => String.utf8EncodeChar '%' ++ decoded (a :: b :: cs)
  | c :: cs => String.utf8EncodeChar c ++ decoded cs
  | []      => []

-- What separates segments from one another or ends the path. A backslash is as good as a slash.
def isSeparator (c : Char) : Bool :=
  c = '/' || c = '\\' || c = '?' || c = '#'

-- A text at the end of a URL is a single segment, and it stands for a name. Dots are no names: they
-- lead back to the segments before.
structure StandsFor (segment name : String) : Prop where
  single  : ∀ c ∈ segment.toList, isSeparator c = false
  decoded : decoded (cleaned segment.toList) = Text.bytes name
  name_ne : name ≠ "" ∧ name ≠ "." ∧ name ≠ ".."

-- A text without anything that a reader of URLs takes for something else.
structure Plain (name : String) : Prop where
  single    : ∀ c ∈ name.toList, isSeparator c = false ∧ isBreak c = false
  last      : ∀ c ∈ name.toList.getLast?, ' ' < c
  unescaped : ∀ a b, ['%', a, b] <:+: name.toList → hexValue? a = none ∨ hexValue? b = none
  name_ne   : name ≠ "" ∧ name ≠ "." ∧ name ≠ ".."

variable {cs l : List Char} {segment name name' : String}

theorem length_utf8EncodeChar_pos (c : Char) : 0 < (String.utf8EncodeChar c).length := by
  rw [String.length_utf8EncodeChar]
  exact c.utf8Size_pos

theorem length_decoded_le (cs : List Char) : 
    (decoded cs).length ≤ (cs.flatMap String.utf8EncodeChar).length := by
  fun_induction decoded cs
  case case1 a b cs m n ha hb hi => 
    have := length_utf8EncodeChar_pos '%'
    simp only [List.flatMap_cons, List.length_append, List.length_cons]
    omega
  case case2 a b cs _ hi         => simpa using hi
  case case3 c cs _ hi           => simpa using hi
  case case4                     => simp

theorem forall_infix_cons_iff {P : Char → Char → Prop} {c : Char} : 
    (∀ a b, ['%', a, b] <:+: c :: cs → P a b) ↔ 
      (∀ a b, ['%', a, b] <+: c :: cs → P a b) ∧ ∀ a b, ['%', a, b] <:+: cs → P a b := by
  simp only [List.infix_cons_iff, or_imp, forall_and]

-- A text stands for its own bytes if there are no escapes in it.
theorem decoded_eq_iff : decoded cs = cs.flatMap String.utf8EncodeChar ↔ 
    ∀ a b, ['%', a, b] <:+: cs → hexValue? a = none ∨ hexValue? b = none := by
  fun_induction decoded cs
  case case1 a b cs m n ha hb hi => 
    constructor
    case mp  =>
      intro he
      have hl := congrArg List.length he
      have := length_decoded_le cs
      have := length_utf8EncodeChar_pos '%'
      have := length_utf8EncodeChar_pos a
      simp only [List.flatMap_cons, List.length_append, List.length_cons] at hl
      omega
    case mpr =>
      intro h
      have hn := h a b (List.prefix_append ['%', a, b] cs).isInfix
      simp [ha, hb] at hn
  case case2 a b cs hn hi        => 
    rw [List.flatMap_cons, List.append_cancel_left_eq, hi]
    refine Iff.trans (and_iff_right ?_).symm forall_infix_cons_iff.symm
    rintro a' b' ⟨rest, hr⟩ 
    cases hr
    cases ha : hexValue? a
    case none   => exact .inl rfl
    case some m => exact .inr (Option.eq_none_iff_forall_ne_some.mpr fun n => hn m n ha)
  case case3 c cs hn hi          => 
    rw [List.flatMap_cons, List.append_cancel_left_eq, hi, forall_infix_cons_iff, and_iff_right]
    rintro a b ⟨rest, hr⟩ 
    cases hr
    exact absurd rfl (hn a b rest rfl)
  case case4                     => simp

theorem eq_of_sublist (h : l.Sublist cs) 
    (hl : (cs.flatMap String.utf8EncodeChar).length ≤ (l.flatMap String.utf8EncodeChar).length) : l = cs := by
  induction h
  case slnil                 => rfl
  case cons l cs c hs hi     =>
    have := length_utf8EncodeChar_pos c
    have := (hs.flatMap String.utf8EncodeChar).length_le
    simp only [List.flatMap_cons, List.length_append] at hl
    omega
  case cons_cons l cs c _ hi =>
    rw [hi (by simpa using hl)]

theorem cleaned_sublist (cs : List Char) : (cleaned cs).Sublist cs :=
  List.filter_sublist.trans (Path.dropTrailing_prefix_self _ _).sublist

theorem cleaned_eq_iff : 
    cleaned cs = cs ↔ (∀ c ∈ cs.getLast?, ' ' < c) ∧ ∀ c ∈ cs, isBreak c = false := by
  constructor
  case mp  =>
    intro h
    have hp := Path.dropTrailing_prefix_self (· ≤ ' ') cs
    have hf := List.length_filter_le (!isBreak ·) (Path.dropTrailing (· ≤ ' ') cs)
    have hl : ((Path.dropTrailing (· ≤ ' ') cs).filter (!isBreak ·)).length = cs.length := 
      congrArg List.length h
    have hd : Path.dropTrailing (· ≤ ' ') cs = cs := hp.eq_of_length_le (by omega)
    rw [cleaned, hd, List.filter_eq_self] at h
    refine ⟨fun c hc => ?_, fun c hc => by simpa using h c hc⟩ 
    simpa using (Path.dropsTrailing_iff.mpr hd).last c hc
  case mpr =>
    intro ⟨hl, hb⟩ 
    have hd : Path.dropTrailing (· ≤ ' ') cs = cs := 
      Path.dropTrailing_of_last fun c hc => by simpa using hl c hc
    rw [cleaned, hd, List.filter_eq_self]
    exact fun c hc => by simp [hb c hc]

-- A name that is written as it is stands for itself only if it is plain.
theorem standsFor_self_iff : StandsFor name name ↔ Plain name := by
  constructor
  case mp  =>
    intro ⟨hs, hd, hn⟩ 
    have hb := hd.trans (Text.bytes_eq name)
    have hl := length_decoded_le (cleaned name.toList)
    have hc := eq_of_sublist (cleaned_sublist name.toList) (hb ▸ hl)
    rw [hc, decoded_eq_iff] at hb
    have ⟨last, unbroken⟩ := cleaned_eq_iff.mp hc
    exact ⟨fun c hm => ⟨hs c hm, unbroken c hm⟩, last, hb, hn⟩ 
  case mpr =>
    intro h
    have hc := cleaned_eq_iff.mpr ⟨h.last, fun c hm => (h.single c hm).right⟩ 
    refine ⟨fun c hm => (h.single c hm).left, ?_, h.name_ne⟩ 
    rw [hc, Text.bytes_eq, decoded_eq_iff]
    exact h.unescaped

-- A segment does not stand for two names.
theorem StandsFor.unique (h : StandsFor segment name) (h' : StandsFor segment name') : name = name' :=
  Text.bytes_injective (h.decoded.symm.trans h'.decoded)

theorem of_letter {c : Char} (h : Segment.Letter c) : 
    isSeparator c = false ∧ isBreak c = false ∧ ' ' < c ∧ c ≠ '%' := by
  have ne (d : Char) (hd : ¬Segment.isLetter d) : c ≠ d := fun he => hd (he ▸ Segment.isLetter_iff.mpr h)
  refine ⟨?_, ?_, ?_, ne '%' (by decide)⟩ 
  case refine_1 => 
    simp [isSeparator, ne '/' (by decide), ne '\\' (by decide), ne '?' (by decide), ne '#' (by decide)]
  case refine_2 => simp [isBreak, ne '\t' (by decide), ne '\n' (by decide), ne '\r' (by decide)]
  case refine_3 =>
    refine Char.not_le.mp fun hc => ?_
    obtain h | h | h | rfl | rfl := h
    · exact absurd (Char.le_trans h.left hc) (by decide)
    · exact absurd (Char.le_trans h.left hc) (by decide)
    · exact absurd (Char.le_trans h.left hc) (by decide)
    · exact absurd hc (by decide)
    · exact absurd hc (by decide)

theorem plain_of_word (h : Segment.Word name) : Plain name where
  single c hc        := ⟨(of_letter (h.letters c hc)).left, (of_letter (h.letters c hc)).right.left⟩ 
  last c hc          := (of_letter (h.letters c (List.mem_of_mem_getLast? hc))).right.right.left
  unescaped a b hp   := 
    absurd rfl (of_letter (h.letters '%' (hp.subset (by simp)))).right.right.right
  name_ne            := by
    refine ⟨h.nonempty, ?_, ?_⟩ <;> (rintro rfl; exact absurd (Segment.valid_iff_word.mpr h) (by decide))

end Url

namespace Server

-- A URL leads to the project of that name, and to no other resource.
def Addresses (base url name : String) : Prop :=
  ∃ segment, url = base ++ "/v1/projects/" ++ segment ∧ Url.StandsFor segment name

variable {base url name name' : String} {p : ProjectRef}

theorem addresses_projectUrl_iff : Addresses base (projectUrl base p) p.name ↔ Url.Plain p.name := by
  rw [← Url.standsFor_self_iff]
  constructor
  case mp  =>
    intro ⟨segment, he, hs⟩ 
    have hn : p.name = segment := String.append_right_inj _ |>.mp he
    exact hn ▸ hs
  case mpr => exact fun h => ⟨p.name, rfl, h⟩ 

-- A URL does not lead to two projects.
theorem Addresses.unique (h : Addresses base url name) (h' : Addresses base url name') : name = name' := by
  obtain ⟨segment, rfl, hs⟩ := h
  obtain ⟨segment', he, hs'⟩ := h'
  obtain rfl : segment = segment' := String.append_right_inj _ |>.mp he
  exact hs.unique hs'

end Server
end Rollout
