import Rollout.Proofs.Except
import Rollout.Proofs.Toml.Writer
import Rollout.Toml.Document
namespace Rollout.Toml

open Quoting (quote apostrophe)

namespace Word

variable {w cs rest : List Char} {c : Char}

theorem not_mem_of_isKeyChar (ds : List Char) (h : isKeyChar c) (hd : ds.all (!isKeyChar ·)) : c ∉ ds := by
  intro hm
  have := List.all_eq_true.mp hd c hm
  simp [h] at this

theorem takeWhile_append {p : Char → Bool} (hw : ∀ c ∈ w, p c) (hr : ∀ c ∈ rest.head?, p c = false) : 
    (w ++ rest).takeWhile p = w ∧ (w ++ rest).dropWhile p = rest := by
  rw [List.takeWhile_append_of_pos hw, List.dropWhile_append_of_pos hw]
  cases rest <;> simp_all

theorem cut_unquoted {belongs : Char → Bool} (hw : w ≠ []) (hq : quote ∉ w) (ha : apostrophe ∉ w) 
    (hb : ∀ c ∈ w, belongs c) (hr : ∀ c ∈ rest.head?, belongs c = false) : 
    cut belongs (w ++ rest) = (w, rest) := by
  have ⟨ht, hd⟩ := takeWhile_append hb hr
  cases w
  case nil    => contradiction
  case cons c w => 
    simp only [List.mem_cons, not_or] at hq ha
    have hq := hq.left
    have ha := ha.left
    simp only [quote, apostrophe] at hq ha
    rw [List.cons_append] at ht hd ⊢
    simp [cut, Ne.symm hq, Ne.symm ha, ht, hd]

-- A part of a key that need not be quoted.
structure Bare (key : Word) : Prop where
  ne_nil : key ≠ []
  all    : key.all isKeyChar

instance : Decidable (Bare w) :=
  decidable_of_iff (w ≠ [] ∧ w.all isKeyChar) ⟨fun ⟨hn, ha⟩ => ⟨hn, ha⟩, fun ⟨hn, ha⟩ => ⟨hn, ha⟩⟩

theorem Bare.not_mem (h : Bare w) (ds : List Char) (hd : ds.all (!isKeyChar ·)) : ∀ c ∈ w, c ∉ ds :=
  fun c hc => not_mem_of_isKeyChar ds (List.all_eq_true.mp h.all c hc) hd

theorem Bare.cutKeyPart (h : Bare w) (hr : ∀ c ∈ rest.head?, isDelimiter c) : 
    cutKeyPart (w ++ rest) = (w, rest) := by
  have hq := h.not_mem [quote] rfl
  have ha := h.not_mem [apostrophe] rfl
  have hd := h.not_mem ['=', ',', '[', ']', '\x7b', '\x7d', '#', ' ', '\t', '\r', '\n', '.'] rfl
  refine cut_unquoted h.ne_nil (fun hm => hq _ hm (by simp)) (fun hm => ha _ hm (by simp)) ?_ ?_
  case refine_1 =>
    intro c hc
    have := hd c hc
    simp_all [isDelimiter]
  case refine_2 =>
    intro c hc
    simp [hr c hc]

theorem Bare.key? (h : Bare w) : key? w = some (.ofList w) := by
  have hq := h.not_mem [quote, apostrophe] rfl
  have hn := h.ne_nil
  have ha := h.all
  cases w
  case nil    => contradiction
  case cons c w => 
    have := hq c List.mem_cons_self
    simp_all [Word.key?, isQuoted]

end Word

namespace Statement

-- A text that is made up of whole lines, with the statements on them.
inductive Laid : List Char → List Statement → Prop
  | nil  : Laid [] []
  | line (hl : l ≠ []) (h : ∀ rest, scan? (l ++ rest) = some (s?, rest)) (hs : Laid cs ss) : 
    Laid (l ++ cs) (s?.toList ++ ss)

variable {w key cs ds rest : List Char} {ss ts : List Statement} {s : Statement} {c : Char}

theorem Laid.append (h : Laid cs ss) (ht : Laid ds ts) : Laid (cs ++ ds) (ss ++ ts) := by
  induction h
  case nil             => exact ht
  case line hl h _ hi  => 
    rw [List.append_assoc, List.append_assoc]
    exact .line hl h hi

-- What begins neither with a blank, a comment or the end of a line, nor with a bracket.
def Starts (w : List Char) : Prop :=
  ∃ c cs, w = c :: cs ∧ c ∉ [' ', '\t', '#', '\n', '\r', '[', '\x7b']

theorem skipSpaces_cons (h : isSpace c = false) : skipSpaces (c :: cs) = c :: cs := by
  simp [skipSpaces, h]

namespace Starts

theorem of_bare (h : Word.Bare key) : Starts key := by
  have hd := h.not_mem [' ', '\t', '#', '\n', '\r', '[', '\x7b'] rfl
  cases key
  case nil  => exact absurd rfl h.ne_nil
  case cons => exact ⟨_, _, rfl, hd _ List.mem_cons_self⟩

theorem append (h : Starts w) (rest : List Char) : Starts (w ++ rest) := by
  obtain ⟨c, cs, rfl, hc⟩ := h
  exact ⟨c, cs ++ rest, rfl, hc⟩

theorem skipSpaces_eq (h : Starts w) : skipSpaces w = w := by
  obtain ⟨c, cs, rfl, hc⟩ := h
  exact skipSpaces_cons (by simp_all [isSpace])

theorem endLine?_eq (h : Starts w) : endLine? w = none := by
  have hs := h.skipSpaces_eq
  obtain ⟨c, cs, rfl, hc⟩ := h
  simp_all [endLine?, skipComment, breakLine?]

theorem ne_bracket (h : Starts w) (cs : List Char) : w ≠ '[' :: cs := by
  obtain ⟨c, cs, rfl, hc⟩ := h
  simp_all

end Starts

-- A value that ends with the line on which it stands.
structure Single (w : Word) : Prop where
  starts : Starts w
  cut    : ∀ rest, Word.cutScalar (w ++ '\n' :: rest) = (w, '\n' :: rest)

-- A word that is cut out of a line as a key of one part, with the name that it stands for.
structure KeyWord (w : Word) (name : String) : Prop where
  starts : Starts w
  cut    : ∀ {rest : List Char}, (∀ c ∈ rest.head?, Word.isDelimiter c) → Word.cutKeyPart (w ++ rest) = (w, rest)
  key?   : Word.key? w = some name

theorem KeyWord.of_bare (h : Word.Bare key) : KeyWord key (.ofList key) where
  starts := .of_bare h
  cut    := h.cutKeyPart
  key?   := h.key?

theorem cutKey_word {name : String} (h : KeyWord key name) (rest : List Char) 
    (hr : ∀ c ∈ rest.head?, Word.isDelimiter c) (hd : ∀ cs, skipSpaces rest ≠ '.' :: cs) : 
    cutKey (key ++ rest) = ([key], skipSpaces rest) := by
  have hs := (h.starts.append rest).skipSpaces_eq
  simp [cutKey, cutParts, hs, h.cut hr]

theorem scan?_blank (rest : List Char) : scan? ('\n' :: rest) = some (none, rest) :=
  rfl

theorem scan?_header (h : Word.Bare key) (rest : List Char) : 
    scan? (['['] ++ key ++ [']', '\n'] ++ rest) = some (some (.header [key]), rest) := by
  have hs : skipSpaces ('[' :: (key ++ ']' :: '\n' :: rest)) = '[' :: (key ++ ']' :: '\n' :: rest) := 
    skipSpaces_cons rfl
  have hb := ((Starts.of_bare h).append (']' :: '\n' :: rest)).ne_bracket
  have hk := cutKey_word (.of_bare h) (']' :: '\n' :: rest) (by simp [Word.isDelimiter]) 
    (by simp [skipSpaces, isSpace])
  have hr : skipSpaces (']' :: '\n' :: rest) = ']' :: '\n' :: rest := skipSpaces_cons rfl
  have he : endLine? ('\n' :: rest) = some rest := rfl
  simp_all [scan?]

theorem scan?_item (h : Word.Bare key) (rest : List Char) : 
    scan? (['[', '['] ++ key ++ [']', ']', '\n'] ++ rest) = some (some (.item [key]), rest) := by
  have hs : skipSpaces ('[' :: '[' :: (key ++ ']' :: ']' :: '\n' :: rest)) = 
      '[' :: '[' :: (key ++ ']' :: ']' :: '\n' :: rest) := skipSpaces_cons rfl
  have hk := cutKey_word (.of_bare h) (']' :: ']' :: '\n' :: rest) (by simp [Word.isDelimiter]) 
    (by simp [skipSpaces, isSpace])
  have hr : skipSpaces (']' :: ']' :: '\n' :: rest) = ']' :: ']' :: '\n' :: rest := skipSpaces_cons rfl
  have he : endLine? ('\n' :: rest) = some rest := rfl
  simp_all [scan?]

theorem termOnLine?_single (h : Single w) (rest : List Char) : 
    termOnLine? (w ++ '\n' :: rest) = some (.word w, '\n' :: rest) := by
  have he := (h.starts.append ('\n' :: rest)).endLine?_eq
  have hc := h.cut rest
  obtain ⟨c, cs, rfl, hn⟩ := h.starts
  simp_all [termOnLine?, term?, maxDepth]

-- A pair, whose value begins behind the equals sign and a space.
theorem scan?_key {name : String} {value : List Char} (h : KeyWord key name) (hv : skipSpaces value = value) :
    scan? (key ++ ' ' :: '=' :: ' ' :: value) = (termOnLine? value).bind fun (t, rest) => 
      (endLine? rest).map fun rest => (some (.assign [key] t), rest) := by
  have hk := h.starts.append (' ' :: '=' :: ' ' :: value)
  have hs := hk.skipSpaces_eq
  have hb := hk.ne_bracket
  have he := hk.endLine?_eq
  have hc := cutKey_word h (' ' :: '=' :: ' ' :: value) (by simp [Word.isDelimiter]) 
    (by simp [skipSpaces, isSpace])
  have hq : skipSpaces ('=' :: ' ' :: value) = '=' :: ' ' :: value := skipSpaces_cons rfl
  have hp : skipSpaces (' ' :: '=' :: ' ' :: value) = '=' :: ' ' :: value := by simp [skipSpaces, isSpace]
  have hv : skipSpaces (' ' :: value) = value := by simpa [skipSpaces, isSpace] using hv
  cases ht : termOnLine? value
  case none   => simp_all [scan?, pair?]
  case some p => cases hl : endLine? p.2 <;> simp_all [scan?, pair?]

theorem scan?_pair {name : String} {value : List Char} {t : Term} (h : KeyWord key name) 
    (hv : skipSpaces value = value) (ht : termOnLine? value = some (t, '\n' :: rest)) :
    scan? (key ++ ' ' :: '=' :: ' ' :: value) = some (some (.assign [key] t), rest) := by
  have hl : endLine? ('\n' :: rest) = some rest := rfl
  simp [scan?_key h hv, ht, hl]

theorem scan?_assign {name : String} (h : KeyWord key name) (hw : Single w) (rest : List Char) : 
    scan? (key ++ [' ', '=', ' '] ++ w ++ ['\n'] ++ rest) = 
      some (some (.assign [key] (.word w)), rest) := by
  have hs := (hw.starts.append ('\n' :: rest)).skipSpaces_eq
  simpa using scan?_pair h hs (termOnLine?_single hw rest)

theorem scan?_empty {name : String} (h : KeyWord key name) (rest : List Char) : 
    scan? (key ++ [' ', '=', ' ', '[', ']', '\n'] ++ rest) = 
      some (some (.assign [key] (.array [])), rest) := by
  have hs : skipSpaces ('[' :: ']' :: '\n' :: rest) = '[' :: ']' :: '\n' :: rest := skipSpaces_cons rfl
  simpa using scan?_pair h hs rfl

end Statement

namespace Document

open Statement (Laid)

variable {cs rest : List Char} {ss : List Statement} {d d' : Draft}

-- Whole lines in front of a text come to their statements, whatever the text is.
theorem exists_statementsFrom (h : Laid cs ss) (hn : (cs ++ rest).length ≤ n) (line : Nat) : 
    ∃ ns m line', rest.length ≤ m ∧ ns.map (·.2) = ss ∧ 
      statementsFrom n line (cs ++ rest) = (statementsFrom m line' rest).map (ns ++ ·) := by
  induction h generalizing n line
  case nil                        => 
    refine ⟨[], n, line, hn, rfl, ?_⟩
    cases hr : statementsFrom n line rest <;> simp [hr, Except.map]
  case line l s? cs ss hl h _ hi =>
    cases l
    case nil      => contradiction
    case cons c l => 
      obtain ⟨n, rfl⟩ : ∃ m, n = m + 1 := Nat.exists_eq_add_one.mpr (by simp at hn; omega)
      have hn : (cs ++ rest).length ≤ n := by simp at hn ⊢; omega
      have ⟨ns, m, line', hm, hs, hr⟩ := 
        hi hn (line + (lineBreaks (c :: (l ++ (cs ++ rest))) - lineBreaks (cs ++ rest)))
      have h := h (cs ++ rest)
      rw [List.cons_append] at h
      rw [List.cons_append, List.cons_append, List.append_assoc]
      refine ⟨(s?.map (line, ·)).toList ++ ns, m, line', hm, ?_, ?_⟩
      case refine_1 => cases s? <;> simp [hs]
      case refine_2 => 
        cases hm : statementsFrom m line' rest <;> simp [statementsFrom, h, hr, hm, Except.map]

theorem applyAll_of_foldlM {ns : List (Nat × Statement)} 
    (h : (ns.map (·.2)).foldlM Draft.apply d = .ok d') : d.applyAll ns = .ok d' := by
  induction ns generalizing d
  case nil =>
    cases h
    rfl
  case cons n ns hi =>
    rw [List.map_cons, List.foldlM_cons] at h
    unfold Draft.applyAll
    cases ha : d.apply n.2
    case error => simp [ha] at h
    case ok    => 
      rw [ha] at h
      exact hi h

theorem applyAll_append (d : Draft) (ns ms : List (Nat × Statement)) : 
    d.applyAll (ns ++ ms) = d.applyAll ns >>= (·.applyAll ms) := by
  induction ns generalizing d
  case nil          => rfl
  case cons n ns hi =>
    rw [List.cons_append, Draft.applyAll, Draft.applyAll]
    cases d.apply n.2
    case error => rfl
    case ok d  => exact hi d

-- A document that begins with whole lines is read as if it went on from what their statements come to.
theorem exists_read {text : String} (ht : text.toList = cs ++ rest) (h : Laid cs ss) 
    (hb : text.toList.head? ≠ some '\ufeff') (hd : ss.foldlM Draft.apply Draft.empty = .ok d) : 
    ∃ m line, rest.length ≤ m ∧ read text = do
      let ms ← statementsFrom m line rest
      let d ← d.applyAll ms
      return Section.toTable d.root := by
  have hb : body text.toList = cs ++ rest := by
    unfold body
    split
    case h_1 he => simp [he] at hb
    case h_2    => exact ht
  have ⟨ns, m, line, hm, hs, hr⟩ := exists_statementsFrom h (Nat.le_succ (cs ++ rest).length) 1
  refine ⟨m, line, hm, ?_⟩
  rw [read, readChars, hb, statements, hr]
  cases statementsFrom m line rest
  case error => rfl
  case ok ms => simp [Except.map, applyAll_append, applyAll_of_foldlM (hs ▸ hd)]

-- A document that is made up of whole lines is read as what its statements come to.
theorem read_of_laid {text : String} (h : Laid text.toList ss) (hb : text.toList.head? ≠ some '\ufeff') 
    (hd : ss.foldlM Draft.apply Draft.empty = .ok d) : read text = .ok (Section.toTable d.root) := by
  obtain ⟨m, line, _, hr⟩ := exists_read (List.append_nil _).symm h hb hd
  simpa [statementsFrom, Draft.applyAll] using hr

end Document
end Rollout.Toml
