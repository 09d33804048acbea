import Rollout.Path
namespace Rollout.Path

-- A text that names something inside a directory.
structure IsName (name : String) : Prop where
  single : '/' ∉ name.toList
  moves  : isSilent name = false
  inward : name ≠ ".."

-- The segments that move.
def steps (p : Path) : List String :=
  p.segments.filter (!isSilent ·)

-- The segments in front of a name that is joined to the path.
def lead (p : Path) : List String :=
  if p.text = "" || p.text.toList.getLast? = some '/' then p.segments.dropLast else p.segments

variable {p q : Path} {cs : List Char} {name : String} {segs : List String}

theorem pieces_ne_nil (cs : List Char) : pieces cs ≠ [] := by
  unfold pieces
  split
  case h_1 => nofun
  case h_2 => 
    split
    case isTrue  => nofun
    case isFalse => split <;> nofun

theorem pieces_append_slash (cs ds : List Char) : 
    pieces (cs ++ '/' :: ds) = pieces cs ++ pieces ds := by
  induction cs
  case nil          => simp [pieces]
  case cons c cs hi =>
    rw [List.cons_append, pieces, pieces, hi]
    by_cases hc : c = '/'
    case pos => simp [hc]
    case neg =>
      have := pieces_ne_nil cs
      cases hp : pieces cs <;> simp_all

theorem pieces_of_not_mem (h : '/' ∉ cs) : pieces cs = [cs] := by
  induction cs
  case nil          => rfl
  case cons c cs hi =>
    rw [List.mem_cons, not_or] at h
    simp [pieces, hi h.right, Ne.symm h.left]

theorem not_mem_of_mem_pieces {piece : List Char} (h : piece ∈ pieces cs) : '/' ∉ piece := by
  induction cs generalizing piece
  case nil          => simp_all [pieces]
  case cons c cs hi =>
    rw [pieces] at h
    split at h
    case isTrue    => 
      obtain rfl | h := List.mem_cons.mp h
      case inl => exact List.not_mem_nil
      case inr => exact hi h
    case isFalse hc =>
      have := pieces_ne_nil cs
      cases hp : pieces cs
      case nil  => contradiction
      case cons =>
        rw [hp] at h hi
        obtain rfl | h := List.mem_cons.mp h
        case inl => simp [hi List.mem_cons_self, Ne.symm hc]
        case inr => exact hi (List.mem_cons_of_mem _ h)

theorem pieces_intercalate {ps : List (List Char)} (hn : ps ≠ []) (hp : ∀ p ∈ ps, '/' ∉ p) : 
    pieces (['/'].intercalate ps) = ps := by
  induction ps
  case nil          => contradiction
  case cons p ps hi =>
    cases ps
    case nil       => simpa [List.intercalate] using pieces_of_not_mem (hp p List.mem_cons_self)
    case cons q ps => 
      rw [List.intercalate_cons_cons, List.append_assoc, List.singleton_append, pieces_append_slash, 
        hi nofun fun p h => hp p (List.mem_cons_of_mem _ h), 
        pieces_of_not_mem (hp p List.mem_cons_self), List.singleton_append]

theorem segments_ne_nil (p : Path) : p.segments ≠ [] := by
  simp [segments, pieces_ne_nil]

theorem slash_not_mem_of_mem_segments {seg : String} (h : seg ∈ p.segments) : '/' ∉ seg.toList := by
  have ⟨_, hm, he⟩ := List.mem_map.mp h
  simpa [← he] using not_mem_of_mem_pieces hm

theorem segments_ofSegments (hn : segs ≠ []) (h : ∀ seg ∈ segs, '/' ∉ seg.toList) : 
    (ofSegments segs).segments = segs := by
  have hp := pieces_intercalate (by simpa using hn) (by simpa using h : ∀ p ∈ segs.map String.toList, _)
  have hs : "/".toList = ['/'] := rfl
  simp [segments, ofSegments, hs, hp]

theorem segments_front {ds : List String} (hs : p.segments = name :: segs) (hd : ds <+: segs) : 
    (ofSegments (name :: ds)).segments = name :: ds := by
  refine segments_ofSegments (List.cons_ne_nil _ _) fun seg h => ?_
  have hp : name :: ds <+: p.segments := hs ▸ List.cons_prefix_cons.mpr ⟨rfl, hd⟩ 
  exact slash_not_mem_of_mem_segments (hp.subset h)

theorem segments_singleton (h : '/' ∉ name.toList) : segments ⟨name⟩ = [name] := by
  simp [segments, pieces_of_not_mem h]

theorem segments_head (h : p.segments = name :: segs) : segments ⟨name⟩ = [name] :=
  segments_singleton (slash_not_mem_of_mem_segments (h ▸ List.mem_cons_self))

-- A path is absolute if nothing stands in front of its first slash.
theorem isAbsolute_iff : p.isAbsolute ↔ ∃ seg segs, p.segments = "" :: seg :: segs := by
  rcases p with ⟨text⟩ 
  cases ht : text.toList
  case nil       => simp [isAbsolute, segments, ht, pieces]
  case cons c cs => 
    have hn := pieces_ne_nil cs
    simp only [isAbsolute, segments, ht, pieces]
    cases hp : pieces cs
    case nil  => contradiction
    case cons => 
      by_cases hc : c = '/'
      case pos => simp [hc]
      case neg => simp [hc, String.ext_iff]

theorem isAbsolute_of_segments_eq (h : p.segments = "" :: segs) (hn : segs ≠ []) : p.isAbsolute := by
  cases segs
  case nil  => contradiction
  case cons => exact isAbsolute_iff.mpr ⟨_, _, h⟩ 

theorem not_isAbsolute_of_segments_eq {first : String} (h : p.segments = first :: segs) 
    (hn : first ≠ "" ∨ segs = []) : p.isAbsolute = false := by
  rw [Bool.eq_false_iff]
  intro ha
  have ⟨_, _, he⟩ := isAbsolute_iff.mp ha
  simp_all

theorem isAbsolute_eq {first : String} (h : p.segments = first :: segs) (hn : segs ≠ []) : 
    p.isAbsolute = decide (first = "") := by
  by_cases hf : first = ""
  case pos => rw [isAbsolute_of_segments_eq (hf ▸ h) hn, decide_eq_true hf]
  case neg => rw [not_isAbsolute_of_segments_eq h (.inl hf), decide_eq_false hf]

namespace IsName

theorem ne_empty (h : IsName name) : name ≠ "" := by
  rintro rfl
  exact absurd h.moves (by decide)

theorem not_isAbsolute (h : IsName name) : isAbsolute ⟨name⟩ = false :=
  not_isAbsolute_of_segments_eq (segments_singleton h.single) (.inr rfl)

end IsName

theorem segments_join (h : IsName name) (p : Path) : (p.join ⟨name⟩).segments = p.lead ++ [name] := by
  have hp := pieces_of_not_mem h.single
  have hs : "/".toList = ['/'] := rfl
  unfold join lead
  rw [h.not_isAbsolute]
  by_cases hn : p.text = ""
  case pos => simp [segments, hn, hp, pieces]
  case neg =>
    by_cases he : p.text.toList.getLast? = some '/'
    case pos =>
      obtain ⟨ds, hd⟩ := List.getLast?_eq_some_iff.mp he
      simp [segments, hn, hd, pieces_append_slash, hp, pieces]
    case neg => simp [segments, hn, he, hs, pieces_append_slash, hp]

theorem isAbsolute_join (h : IsName name) (p : Path) : 
    (p.join ⟨name⟩).isAbsolute = p.isAbsolute := by
  unfold join
  rw [h.not_isAbsolute]
  by_cases hn : p.text = ""
  case pos => simpa [hn, isAbsolute] using h.not_isAbsolute
  case neg =>
    obtain ⟨c, cs, hc⟩ := List.exists_cons_of_ne_nil (fun he => hn (String.toList_eq_nil_iff.mp he))
    simp only [Bool.false_eq_true, if_false]
    split <;> simp [isAbsolute, hc]

theorem text_join (h : IsName name) (p : Path) : 
    ∃ between, (between = "" ∨ between = "/") ∧ (p.join ⟨name⟩).text = p.text ++ between ++ name := by
  unfold join
  rw [h.not_isAbsolute, if_neg Bool.false_ne_true]
  split
  case isTrue  => exact ⟨"", .inl rfl, by simp⟩ 
  case isFalse => exact ⟨"/", .inr rfl, rfl⟩ 

theorem utf8ByteSize_join_le (h : IsName name) (p : Path) : 
    (p.join ⟨name⟩).text.utf8ByteSize ≤ p.text.utf8ByteSize + 1 + name.utf8ByteSize := by
  have ⟨between, hb, ht⟩ := text_join h p
  have hb : between.utf8ByteSize ≤ 1 := by obtain rfl | rfl := hb <;> decide
  rw [ht, String.utf8ByteSize_append, String.utf8ByteSize_append]
  omega

theorem lead_subset (p : Path) : p.lead ⊆ p.segments := by
  unfold lead
  split
  case isTrue  => exact List.dropLast_subset _
  case isFalse => exact List.Subset.refl _

theorem inward_join (h : IsName name) (hp : ".." ∉ p.segments) : ".." ∉ (p.join ⟨name⟩).segments := by
  rw [segments_join h, List.mem_append, List.mem_singleton, not_or]
  exact ⟨fun hm => hp (p.lead_subset hm), h.inward.symm⟩

end Rollout.Path
