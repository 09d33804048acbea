import Rollout.Proofs.Path
import Rollout.Proofs.Path.Trailing
namespace Rollout.Path

variable {p q : Path} {name name' : String} {segs : List String}

theorem filter_dropTrailing (segs : List String) : 
    (dropTrailing isSilent segs).filter (!isSilent ·) = segs.filter (!isSilent ·) := by
  have hd (l : List String) : (l.dropWhile isSilent).filter (!isSilent ·) = l.filter (!isSilent ·) := by
    induction l
    case nil         => rfl
    case cons a l hi => cases ha : isSilent a <;> simp [ha, hi]
  rw [dropTrailing, List.filter_reverse, hd, List.filter_reverse, List.reverse_reverse]

-- A list that is not empty once its silent end is dropped ends in a step before that.
theorem exists_of_dropTrailing (h : dropTrailing isSilent segs ≠ []) : 
    ∃ before seg, dropTrailing isSilent segs = before ++ [seg] ∧ isSilent seg = false := by
  have hl := List.getLast?_eq_some_getLast h
  have ⟨before, hb⟩ := List.getLast?_eq_some_iff.mp hl
  exact ⟨before, _, hb, not_silent_of_getLast? hl⟩ 

-- What is in front of the last step of a path makes up its parent.
inductive HasParent (p : Path) : Path → Prop
  | lone {first segs} (segments : p.segments = first :: segs) (first_ne : first ≠ "") 
    (silent : segs.filter (!isSilent ·) = []) : HasParent p ⟨""⟩ 
  | outermost {first segs name} (segments : p.segments = first :: segs) 
    (last : segs.filter (!isSilent ·) = [name]) : HasParent p (if first = "" then ⟨"/"⟩ else ⟨first⟩)
  | inner {first segs before seg name} (segments : p.segments = first :: segs) 
    (front : before ++ [seg] <+: segs) (moves : isSilent seg = false) 
    (last : segs.filter (!isSilent ·) = (before ++ [seg]).filter (!isSilent ·) ++ [name]) : 
    HasParent p (ofSegments (first :: (before ++ [seg])))

theorem hasParent_of_parent? (h : p.parent? = some q) : HasParent p q := by
  obtain ⟨first, segs, hs⟩ := List.exists_cons_of_ne_nil p.segments_ne_nil
  have hp := dropTrailing_prefix_self isSilent segs
  have hf := filter_dropTrailing segs
  simp only [parent?, hs] at h
  by_cases hd : dropTrailing isSilent segs = []
  case pos => 
    rw [hd] at h hf
    by_cases hn : first = ""
    case pos => simp [hn] at h
    case neg =>
      cases (if_neg hn).symm.trans h
      exact .lone hs hn hf.symm
  case neg =>
    obtain ⟨init, name, hi, hm⟩ := exists_of_dropTrailing hd
    have hl : segs.filter (!isSilent ·) = (dropTrailing isSilent init).filter (!isSilent ·) ++ [name] := by
      simp [← hf, hi, hm, filter_dropTrailing]
    rw [hi] at h hp
    split at h
    case h_1 he => simp at he
    case h_2    =>
      rw [List.dropLast_concat] at h
      split at h
      case h_1 he => 
        cases h
        exact .outermost hs (by rw [hl, he]; rfl)
      case h_2 he => 
        cases h
        obtain ⟨before, seg, hb, hm⟩ := exists_of_dropTrailing he
        rw [hb] at hl ⊢ 
        refine .inner hs ?_ hm hl
        exact (hb ▸ dropTrailing_prefix_self isSilent init).trans ((List.prefix_append _ _).trans hp)

theorem intercalate_pieces (cs : List Char) : ['/'].intercalate (pieces cs) = cs := by
  induction cs
  case nil          => rfl
  case cons c cs hi =>
    have hn := pieces_ne_nil cs
    rw [pieces]
    cases hp : pieces cs
    case nil       => contradiction
    case cons p ps =>
      rw [hp] at hi
      split
      case isTrue hc  => rw [List.intercalate_cons_cons, hi, hc]; rfl
      case isFalse hc => cases ps <;> simp_all [List.intercalate_cons_cons]

theorem intercalate_prefix {ps qs : List (List Char)} (sep a : List Char) (h : ps <+: qs) : 
    sep.intercalate (a :: ps) <+: sep.intercalate (a :: qs) := by
  induction ps generalizing a qs
  case nil          => 
    cases qs
    case nil  => exact List.prefix_rfl
    case cons => simp [List.intercalate_cons_cons, List.append_assoc]
  case cons b ps hi =>
    obtain ⟨rest, rfl⟩ := h
    rw [List.cons_append, List.intercalate_cons_cons, List.intercalate_cons_cons]
    exact (List.prefix_append_right_inj _).mpr (hi b (List.prefix_append _ _))

theorem toList_ofSegments (segs : List String) : 
    (ofSegments segs).text.toList = ['/'].intercalate (segs.map String.toList) := by
  have hs : "/".toList = ['/'] := rfl
  simp [ofSegments, hs]

theorem toList_text (h : p.segments = segs) : 
    p.text.toList = ['/'].intercalate (segs.map String.toList) := by
  simp [← h, segments, Function.comp_def, intercalate_pieces]

-- A parent is the front of the text, which leads along the same way up to the last step.
theorem text_of_parent? (h : p.parent? = some q) : q.text.toList <+: p.text.toList := by
  cases hasParent_of_parent? h
  case lone                          => exact List.nil_prefix
  case outermost first segs _ hs hl  => 
    have hn : segs ≠ [] := fun hn => by simp [hn] at hl
    rw [toList_text hs]
    obtain ⟨seg, segs, rfl⟩ := List.exists_cons_of_ne_nil hn
    split
    case isTrue hf => simp [hf, List.intercalate_cons_cons]
    case isFalse   => simp [List.intercalate_cons_cons]
  case inner hs hf _ _               => 
    rw [toList_text hs, toList_ofSegments]
    exact intercalate_prefix _ _ (hf.map _)

theorem steps_eq (h : p.segments = name :: segs) : 
    p.steps = [name].filter (!isSilent ·) ++ segs.filter (!isSilent ·) := by
  rw [steps, h, ← List.filter_append, List.singleton_append]

theorem steps_of_parent? (h : p.parent? = some q) : q.steps = p.steps.dropLast := by
  cases hasParent_of_parent? h
  case lone first _ hs _ hl         => 
    have hq : steps ⟨""⟩ = [] := by decide
    rw [hq, steps_eq hs, hl, List.append_nil]
    cases hf : isSilent first <;> simp [hf]
  case outermost first segs _ hs hl => 
    rw [steps_eq hs, hl, List.dropLast_concat]
    split
    case isTrue hf => 
      rw [hf]
      decide
    case isFalse   => rw [steps, segments_head hs]
  case inner hs hf _ hl             => 
    rw [steps_eq hs, hl, ← List.append_assoc, List.dropLast_concat]
    exact steps_eq (segments_front hs hf)

theorem isAbsolute_of_parent? (h : p.parent? = some q) : q.isAbsolute = p.isAbsolute := by
  cases hasParent_of_parent? h
  case lone hs hn _                 => exact (not_isAbsolute_of_segments_eq hs (.inl hn)).symm
  case outermost first segs _ hs hl => 
    have hn : segs ≠ [] := fun hn => by simp [hn] at hl
    rw [isAbsolute_eq hs hn]
    split
    case isTrue hf  => simp [hf, isAbsolute]
    case isFalse hf => rw [not_isAbsolute_of_segments_eq (segments_head hs) (.inr rfl), decide_eq_false hf]
  case inner hs hf _ hl             => 
    have hn : ∀ {segs : List String} {seg}, segs ++ [seg] ≠ [] := by simp
    rw [isAbsolute_eq hs fun he => hn (List.prefix_nil.mp (he ▸ hf)), 
      isAbsolute_eq (segments_front hs hf) hn]

-- A path whose end is a step, if there is any in it.
def Tidy (p : Path) : Prop :=
  p.steps = [] ∨ ∃ before seg, p.segments = before ++ [seg] ∧ isSilent seg = false

theorem tidy_of_parent? (h : p.parent? = some q) : q.Tidy := by
  cases hasParent_of_parent? h
  case lone                         => exact .inl (by decide)
  case outermost first segs _ hs hl => 
    split
    case isTrue  => exact .inl (by decide)
    case isFalse => 
      cases hf : isSilent first
      case true  => exact .inl (by simp [steps, segments_head hs, hf])
      case false => exact .inr ⟨[], first, segments_head hs, hf⟩
  case inner first _ before seg _ hs hf hv _ => 
    exact .inr ⟨first :: before, seg, segments_front hs hf, hv⟩ 

theorem steps_of_parent?_none (h : p.parent? = none) : p.steps = [] := by
  obtain ⟨first, segs, hs⟩ := List.exists_cons_of_ne_nil p.segments_ne_nil
  simp only [parent?, hs] at h
  split at h
  case h_1 hd => 
    split at h
    case isFalse   => contradiction
    case isTrue hf => rw [steps_eq hs, ← filter_dropTrailing segs, hd, hf]; rfl
  case h_2    => split at h <;> contradiction

theorem filter_lead (p : Path) : p.lead.filter (!isSilent ·) = p.steps := by
  unfold lead steps
  split
  case isFalse    => rfl
  case isTrue he  => 
    -- The last segment is empty.
    rcases Bool.or_eq_true _ _ ▸ he with he | he
    case inl => simp [segments, of_decide_eq_true he, pieces, isSilent]
    case inr => 
      obtain ⟨ds, hd⟩ := List.getLast?_eq_some_iff.mp (of_decide_eq_true he)
      simp [segments, hd, pieces_append_slash, pieces, isSilent]

theorem steps_join (h : IsName name) (p : Path) : (p.join ⟨name⟩).steps = p.steps ++ [name] := by
  rw [steps, segments_join h, List.filter_append, filter_lead]
  simp [h.moves]

theorem dropTrailing_concat (h : isSilent name = false) (segs : List String) : 
    dropTrailing isSilent (segs ++ [name]) = segs ++ [name] := by
  simp [dropTrailing, h]

theorem fileName?_join (h : IsName name) (p : Path) : (p.join ⟨name⟩).fileName? = some name := by
  simp only [fileName?, segments_join h]
  rcases p.lead with _ | ⟨first, rest⟩ 
  case nil  => simp [dropTrailing, h.moves, h.inward]
  case cons => simp [dropTrailing_concat h.moves, h.inward]

-- What is put into a directory has it for a parent, whatever its name is.
theorem parent?_join (h : IsName name) (h' : IsName name') (p : Path) : 
    (p.join ⟨name⟩).parent? = (p.join ⟨name'⟩).parent? := by
  simp only [parent?, segments_join h, segments_join h']
  rcases p.lead with _ | ⟨first, rest⟩ 
  case nil  => simp [dropTrailing, h.ne_empty, h'.ne_empty]
  case cons => 
    simp only [List.cons_append, dropTrailing_concat h.moves, dropTrailing_concat h'.moves]
    cases rest
    case nil       => rfl
    case cons d ds => 
      have hl (n : String) : (d :: (ds ++ [n])).dropLast = d :: ds := by
        rw [← List.cons_append, List.dropLast_concat]
      simp only [List.cons_append, hl]

-- Only a bare name has the empty path for a parent.
theorem parent?_join_eq_empty_iff (h : IsName name) (hq : (p.join ⟨name⟩).parent? = some q) : 
    q.text = "" ↔ p.join ⟨name⟩ = ⟨name⟩ := by
  have hj := segments_join h p
  constructor
  case mp  =>
    intro ht
    have he : q.segments = [""] := by simp [segments, ht, pieces]
    cases hasParent_of_parent? hq
    case lone hs _ hl       => 
      cases hp : p.lead
      case nil       => exact Path.ext (String.ext_iff.mpr (by simp [toList_text (hp ▸ hj)]))
      case cons a as => 
        rw [hj, hp, List.cons_append] at hs
        simp [← (List.cons.inj hs).right, h.moves] at hl
    case outermost hs _     => split at ht <;> contradiction
    case inner hs hf _ _    => 
      rw [segments_front hs hf] at he
      simp at he
  case mpr =>
    intro he
    rw [he, parent?, segments_singleton h.single] at hq
    simp only [dropTrailing, List.reverse_nil, List.dropWhile_nil, if_neg h.ne_empty, Option.some.injEq] at hq
    exact hq ▸ rfl

theorem exists_parent?_join (h : IsName name) (p : Path) : ∃ q, (p.join ⟨name⟩).parent? = some q := by
  refine Option.ne_none_iff_exists'.mp fun hp => ?_
  have hs := steps_join h p
  simp [steps_of_parent?_none hp] at hs

end Rollout.Path
