import Rollout.Toml.Word
import Rollout.Toml.Writer
namespace Rollout.Toml

open Quoting Writer

namespace Quoting

-- How a character that is not the quote is written between quotes: as itself, or, between basic
-- quotes, as an escape.
inductive Piece (q : Char) : Char → List Char → Prop
  | plain (h : isPlain c ∨ c = '\n') (hq : c ≠ q) (hb : q = quote → c ≠ '\\') : Piece q c [c]
  | short (hq : q = quote) (h : escape? d = some c) : Piece q c ['\\', d]
  | code (hq : q = quote) (h : scalar? [a, b, e, f] = some c) 
    (hd : ∀ d ∈ [a, b, e, f], d ≠ '"' ∧ d ≠ '\\' ∧ d ≠ '\n') : Piece q c ['\\', 'u', a, b, e, f]

-- How a text is written on one line, without the quotes around it.
inductive Basic : List Char → List Char → Prop
  | nil : Basic [] []
  | piece (hp : Piece quote c ps) (hn : ps ≠ ['\n']) (h : Basic cs w) : Basic (c :: cs) (ps ++ w)

-- How a text is written over several lines, with the quotes that end it. A quote in the text stands 
-- for itself, unless three quotes in a row would come of it. The last two may join the ones that 
-- end the text.
inductive Lines (q : Char) : List Char → List Char → Prop
  | close    : Lines q [] [q, q, q]
  | closeOne : Lines q [q] [q, q, q, q]
  | closeTwo : Lines q [q, q] [q, q, q, q, q]
  | inner (h : Lines q cs w) (hn : ∀ u, w ≠ q :: q :: u) : Lines q (q :: cs) (q :: w)
  | piece (hp : Piece q c ps) (h : Lines q cs w) : Lines q (c :: cs) (ps ++ w)

variable {q c d : Char} {cs ps w tail rest : List Char}

@[simp]
theorem emit_some : emit (some c) (some (cs, rest)) = some (c :: cs, rest) :=
  rfl

namespace Piece

theorem append_ne (h : Piece q c ps) (hq : q ≠ '\\') (u : List Char) : ps ++ tail ≠ q :: u := by
  cases h
  case plain hc _ => simp [hc]
  all_goals simp [hq.symm]

theorem ne_carriageReturn (h : isPlain c ∨ c = '\n') : c ≠ '\r' := by
  rintro rfl
  simp [isPlain, isControl] at h

theorem append_ne_break (h : Piece q c ps) (hn : c ≠ '\n') : 
    (∀ u, ps ++ tail ≠ '\n' :: u) ∧ ∀ u, ps ++ tail ≠ '\r' :: u := by
  cases h
  case plain h _ _ => simp [hn, ne_carriageReturn h]
  all_goals simp

theorem basic?_append (h : Piece quote c ps) (hn : ps ≠ ['\n']) : 
    basic? (ps ++ tail) = emit (some c) (basic? tail) := by
  cases h
  case plain h hq hb => 
    have hb := hb rfl
    simp only [ne_eq, List.cons.injEq, and_true] at hn
    simp_all [basic?, quote]
  case short h =>
    unfold escape? at h
    split at h <;> cases h <;> simp [basic?, escape?]
  case code _ h => simp [basic?, h]

theorem lines?_append (h : Piece quote c ps) : 
    lines? .none (ps ++ tail) = emit (some c) (lines? .none tail) := by
  cases h
  case plain h hq hb => 
    have hb := hb rfl
    have hr := ne_carriageReturn h
    simp_all [lines?, quote]
  case short h =>
    unfold escape? at h
    split at h <;> cases h <;> simp [lines?, escape?]
  case code _ h => simp [lines?, h]

theorem literalLines?_append (h : Piece apostrophe c ps) : 
    literalLines? (ps ++ tail) = emit (some c) (literalLines? tail) := by
  cases h
  case plain h hq hb => 
    have hr := ne_carriageReturn h
    simp_all [literalLines?, apostrophe]
  case short hq _  => cases hq
  case code hq _ _ => cases hq

end Piece

namespace Lines

theorem three_le_length (h : Lines q cs w) : 3 ≤ w.length := by
  induction h
  case inner hi => exact Nat.le_succ_of_le hi
  case piece hi => exact Nat.le_trans hi (by simp)
  all_goals simp

-- What follows a text does not add to the quotes that begin it.
theorem append_ne (h : Lines q cs w) (hn : ∀ u, w ≠ q :: q :: u) (rest : List Char) : 
    ∀ u, w ++ rest ≠ q :: q :: u := by
  intro u hu
  match w, h.three_le_length with
  | a :: b :: w, _ => simp_all

-- A text in which there is no line break is not written with one in front.
theorem append_ne_break (h : Lines q cs w) (hq : q = Quoting.quote ∨ q = apostrophe) (hn : '\n' ∉ cs) 
    (rest : List Char) : (∀ u, w ++ rest ≠ '\n' :: u) ∧ ∀ u, w ++ rest ≠ '\r' :: u := by
  have hq : q ≠ '\n' ∧ q ≠ '\r' := by obtain rfl | rfl := hq <;> decide
  cases h
  case piece hp _ => 
    rw [List.append_assoc]
    exact hp.append_ne_break fun h => hn (h ▸ List.mem_cons_self)
  all_goals simp [hq]

theorem ne_cons_of_head? (h : rest.head? ≠ some q) : ∀ u, rest ≠ q :: u := by
  rintro u rfl
  simp at h

theorem lines?_append (h : Lines quote cs w) (hr : rest.head? ≠ some quote) : 
    lines? .none (w ++ rest) = some (cs, rest) := by
  replace hr := ne_cons_of_head? hr
  induction h
  case close    => simp_all [lines?, quote]
  case closeOne => simp_all [lines?, quote]
  case closeTwo => simp [lines?, quote]
  case inner h hn hi =>
    have hn := h.append_ne hn rest
    simp_all [lines?, quote, isPlain, isControl]
  case piece hp _ hi => rw [List.append_assoc, hp.lines?_append, hi, emit_some]

theorem literalLines?_append (h : Lines apostrophe cs w) (hr : rest.head? ≠ some apostrophe) : 
    literalLines? (w ++ rest) = some (cs, rest) := by
  replace hr := ne_cons_of_head? hr
  induction h
  case close    => simp_all [literalLines?, apostrophe]
  case closeOne => simp_all [literalLines?, apostrophe]
  case closeTwo => simp [literalLines?, apostrophe]
  case inner h hn hi =>
    have hn := h.append_ne hn rest
    simp_all [literalLines?, apostrophe, isPlain, isControl]
  case piece hp _ hi => rw [List.append_assoc, hp.literalLines?_append, hi, emit_some]

end Lines

namespace Basic

theorem basic?_append (h : Basic cs w) (rest : List Char) : basic? (w ++ quote :: rest) = some (cs, rest) := by
  induction h
  case nil             => simp [basic?, quote]
  case piece hp hn _ hi => rw [List.append_assoc, hp.basic?_append hn, hi, emit_some]

-- Only the empty text is written as two quotes in a row.
theorem append_ne (h : Basic cs w) (hr : rest.head? ≠ some quote) (u : List Char) : 
    w ++ quote :: rest ≠ quote :: quote :: u := by
  cases h
  case nil        =>
    intro h
    exact Lines.ne_cons_of_head? hr u (List.cons.inj h).right
  case piece hp _ _ =>
    rw [List.append_assoc]
    exact hp.append_ne (by decide) _

end Basic
end Quoting

-- A text that is cut out of a document ends where its reader ends.
namespace Word

open Quoting (Piece Basic Lines)

variable {q c : Char} {cs ps w tail rest : List Char}

theorem cutBasic_append (h : Piece quote c ps) (hn : ps ≠ ['\n']) : 
    cutBasic (ps ++ tail) = behind ps (cutBasic tail) := by
  cases h
  case plain h hq hb => 
    have hb := hb rfl
    simp only [ne_eq, List.cons.injEq, and_true] at hn
    simp_all [cutBasic, quote]
  case short h =>
    unfold escape? at h
    split at h <;> cases h <;> simp [cutBasic, behind]
  case code hd _ => simp_all [cutBasic, behind]

theorem cutLines_append (h : Piece quote c ps) : cutLines (ps ++ tail) = behind ps (cutLines tail) := by
  cases h
  case plain h hq hb => 
    have hb := hb rfl
    simp_all [cutLines, quote]
  case short h =>
    unfold escape? at h
    split at h <;> cases h <;> simp [cutLines, behind]
  case code hd _ => simp_all [cutLines, behind]

theorem cutLiteralLines_append (h : Piece apostrophe c ps) : 
    cutLiteralLines (ps ++ tail) = behind ps (cutLiteralLines tail) := by
  cases h
  case plain h hq hb  => simp_all [cutLiteralLines, apostrophe]
  case short hq _     => cases hq
  case code hq _ _    => cases hq

theorem cutBasic_basic (h : Basic cs w) (rest : List Char) : 
    cutBasic (w ++ quote :: rest) = (w ++ [quote], rest) := by
  induction h
  case nil             => simp [cutBasic, quote]
  case piece hp hn _ hi => rw [List.append_assoc, cutBasic_append hp hn, hi, behind, List.append_assoc]

theorem cutLines_lines (h : Lines quote cs w) (hr : rest.head? ≠ some quote) : 
    cutLines (w ++ rest) = (w, rest) := by
  replace hr := Lines.ne_cons_of_head? hr
  induction h
  case close    => simp_all [cutLines, quote]
  case closeOne => simp_all [cutLines, quote]
  case closeTwo => simp [cutLines, quote]
  case inner h hn hi =>
    have hn := h.append_ne hn rest
    simp_all [cutLines, quote, behind]
  case piece hp _ hi => rw [List.append_assoc, cutLines_append hp, hi, behind]

theorem cutLiteralLines_lines (h : Lines apostrophe cs w) (hr : rest.head? ≠ some apostrophe) : 
    cutLiteralLines (w ++ rest) = (w, rest) := by
  replace hr := Lines.ne_cons_of_head? hr
  induction h
  case close    => simp_all [cutLiteralLines, apostrophe]
  case closeOne => simp_all [cutLiteralLines, apostrophe]
  case closeTwo => simp [cutLiteralLines, apostrophe]
  case inner h hn hi =>
    have hn := h.append_ne hn rest
    simp_all [cutLiteralLines, apostrophe, behind]
  case piece hp _ hi => rw [List.append_assoc, cutLiteralLines_append hp, hi, behind]

end Word
end Rollout.Toml
