import Mathlib.Tactic.SplitIfs
import Rollout.Proofs.Toml.Quoting
namespace Rollout.Toml

open Quoting (quote apostrophe isControl isPlain scan? afterOpening Piece Basic Lines)

namespace Writer

-- A word that stands for a text: unless further quotes follow, it is cut out of a document as a 
-- whole, and it is read as the text.
structure Shows (w cs : List Char) : Prop where
  quoted : Word.isQuoted w
  scan   : ∀ {rest}, rest.head? ≠ some quote → rest.head? ≠ some apostrophe → 
    scan? (w ++ rest) = some (cs, rest)
  cut    : ∀ {rest} belongs, rest.head? ≠ some quote → rest.head? ≠ some apostrophe → 
    Word.cut belongs (w ++ rest) = (w, rest)

variable {q c : Char} {cs w rest : List Char}

-- Control characters are among the first 128, and so are the digits of their code points.
theorem codePoint_spec : ∀ n < 128, 
    Quoting.scalar? (codePoint n) = some (.ofNat n) ∧ 
      (codePoint n).all fun d => d ≠ '"' ∧ d ≠ '\\' ∧ d ≠ '\n' := by
  decide

theorem isControl_lt {c : Char} (h : isControl c) : c.toNat < 128 := by
  simp only [isControl, Bool.or_eq_true, decide_eq_true_eq] at h
  omega

theorem piece_code (h : c.toNat < 128) : Piece quote c ('\\' :: 'u' :: codePoint c.toNat) := by
  obtain ⟨hs, hd⟩ := codePoint_spec c.toNat h
  rw [Char.ofNat_toNat] at hs
  exact .code rfl hs fun d hm => of_decide_eq_true (List.all_eq_true.mp hd d hm)

theorem piece_escaped (c : Char) : Piece quote c (escaped c) := by
  unfold escaped
  split_ifs with hb ht hn hf hr hq hc
  case' pos => exact hb ▸ .short rfl rfl
  case' pos => exact ht ▸ .short rfl rfl
  case' pos => exact hn ▸ .short rfl rfl
  case' pos => exact hf ▸ .short rfl rfl
  case' pos => exact hr ▸ .short rfl rfl
  case' pos => 
    rw [Bool.or_eq_true, decide_eq_true_eq, decide_eq_true_eq] at hq
    obtain rfl | rfl := hq <;> exact .short rfl rfl
  case' pos => exact piece_code (isControl_lt hc)
  case neg  =>
    rw [Bool.or_eq_true, decide_eq_true_eq, decide_eq_true_eq, not_or] at hq
    exact .plain (.inl (by simp [isPlain, hc])) hq.left fun _ => hq.right

theorem escaped_ne (c : Char) : escaped c ≠ ['\n'] := by
  unfold escaped
  split_ifs <;> simp_all

theorem basic_escaped (cs : List Char) : Basic cs (cs.flatMap escaped) := by
  induction cs
  case nil         => exact .nil
  case cons c _ hi => exact List.flatMap_cons .. ▸ .piece (piece_escaped c) (escaped_ne c) hi

-- What is written begins with a quote if nothing is left of the text, or if it begins with a quote 
-- that need not be escaped.
theorem escapedLines_eq_quote_cons {k : Nat} {u : List Char} 
    (h : escapedLines k cs ++ [quote, quote, quote] = quote :: u) : 
    cs = [] ∨ ∃ ds, cs = quote :: ds ∧ k < 2 ∧ escapedLines (k + 1) ds ++ [quote, quote, quote] = u := by
  cases cs
  case nil       => exact .inl rfl
  case cons c cs =>
    unfold escapedLines at h
    split_ifs at h with hq hk hn
    case' pos => exact .inr ⟨cs, by rw [hq], hk, (List.cons.inj h).right⟩
    case' neg => nomatch h
    case pos  => nomatch h
    case neg  => exact absurd (List.append_assoc _ _ _ ▸ h) ((piece_escaped c).append_ne (by decide) u)

-- The number of quotes that have been written in a row decides only whether another one is escaped.
theorem lines_escapedLines (k : Nat) (cs : List Char) : 
    Lines quote cs (escapedLines k cs ++ [quote, quote, quote]) := by
  induction cs generalizing k
  case nil => exact .close
  case cons c cs hi =>
    unfold escapedLines
    split_ifs with hq hk hn
    case' pos =>
      subst hq
      by_cases hu : ∃ u, escapedLines (k + 1) cs ++ [quote, quote, quote] = quote :: quote :: u
      case neg => exact .inner (hi _) fun u h => hu ⟨u, h⟩
      case pos =>
        have ⟨u, hu⟩ := hu
        obtain rfl | ⟨ds, rfl, _, hu⟩ := escapedLines_eq_quote_cons hu
        case inl => exact .closeOne
        case inr => 
          obtain rfl | ⟨_, _, hk, _⟩ := escapedLines_eq_quote_cons hu
          case inl =>
            have hk : k = 0 := by omega
            subst hk
            exact .closeTwo
          case inr => omega
    case' neg =>
      have hp : Piece quote c ['\\', quote] := .short rfl (by rw [hq]; rfl)
      exact (Lines.piece hp (hi 0) :)
    case pos =>
      subst hn
      have hp : Piece quote '\n' ['\n'] := .plain (.inr rfl) (by decide) (by decide)
      exact (Lines.piece hp (hi 0) :)
    case neg => exact List.append_assoc _ _ _ ▸ .piece (piece_escaped c) (hi 0)

-- Without escapes there must be no three quotes in a row.
theorem three_le_longestRun (q : Char) (cs : List Char) : 3 ≤ longestRun q (q :: q :: q :: cs) := by
  refine Nat.le_trans ?_ (Nat.le_max_left _ _)
  simp

theorem lines_literal (hp : ∀ c ∈ cs, isPlain c ∨ c = '\n') (hr : longestRun apostrophe cs ≤ 2) :
    Lines apostrophe cs (cs ++ [apostrophe, apostrophe, apostrophe]) := by
  induction cs
  case nil => exact .close
  case cons c cs hi =>
    have hi := hi (fun c hc => hp c (List.mem_cons_of_mem _ hc)) 
      (Nat.le_trans (Nat.le_max_right _ _) hr)
    by_cases hc : c = apostrophe
    case neg => 
      have hp : Piece apostrophe c [c] := .plain (hp c List.mem_cons_self) hc nofun
      exact (Lines.piece hp hi :)
    case pos =>
      subst hc
      match cs with
      | []           => exact .closeOne
      | [d]          =>
        by_cases hd : d = apostrophe
        case pos => exact hd ▸ .closeTwo
        case neg => exact .inner hi (by simp [hd])
      | d :: e :: cs =>
        refine .inner hi fun u hu => ?_
        obtain ⟨rfl, rfl, -⟩ : d = apostrophe ∧ e = apostrophe ∧ _ := by simpa using hu
        have := three_le_longestRun apostrophe cs
        omega

-- What the choice of a form finds out about a text.
theorem not_mem_of_longestRun (h : longestRun q cs = 0) : q ∉ cs := by
  induction cs
  case nil          => exact List.not_mem_nil
  case cons c cs hi => 
    have ⟨hc, hs⟩ := Nat.max_eq_zero_iff.mp h
    have hc : c ≠ q := by 
      rintro rfl
      simp at hc
    simp [hc.symm, hi hs]

theorem isPlain_of_needsEscape (h : needsEscape cs = false) (hc : c ∈ cs) : isPlain c ∨ c = '\n' := by
  have := List.any_eq_false.mp h c hc
  cases hi : isControl c <;> simp_all [isPlain, Classical.or_iff_not_imp_left]

-- Only a line break that has been added is taken away.
theorem afterOpening_opening (h : Lines q cs w) (hq : q = quote ∨ q = apostrophe) (rest : List Char) : 
    afterOpening (opening cs ++ (w ++ rest)) = w ++ rest := by
  by_cases hn : '\n' ∈ cs
  case pos => simp [opening, hn, afterOpening]
  case neg =>
    have ⟨hb, hc⟩ := h.append_ne_break hq hn rest
    simp_all [opening, afterOpening]

theorem shows_of_basic (h : Basic cs w) : Shows (quote :: w ++ [quote]) cs where
  quoted := rfl
  scan {rest} hq _ := by
    have hn := h.append_ne hq
    have hb := h.basic?_append rest
    simp_all [scan?, quote, Quoting.line?]
  cut {rest} _ hq _ := by
    have hn := h.append_ne hq
    have hb := Word.cutBasic_basic h rest
    simp_all [Word.cut, quote, Word.behind]

theorem shows_basic (cs : List Char) : Shows (basic cs) cs :=
  shows_of_basic (basic_escaped cs)

theorem append_apostrophe_ne (ha : apostrophe ∉ cs) (hn : cs ≠ []) (rest u : List Char) : 
    cs ++ apostrophe :: rest ≠ apostrophe :: u := by
  cases cs
  case nil  => contradiction
  case cons =>
    intro h
    exact ha ((List.cons.inj h).left ▸ List.mem_cons_self)

theorem literal?_append (hp : ∀ c ∈ cs, isPlain c) (ha : apostrophe ∉ cs) (rest : List Char) : 
    Quoting.literal? (cs ++ apostrophe :: rest) = some (cs, rest) := by
  have hc : ∀ c ∈ cs, decide (c ≠ apostrophe) = true := 
    fun c hc => decide_eq_true fun he => ha (he ▸ hc)
  rw [Quoting.literal?, List.takeWhile_append_of_pos hc, List.dropWhile_append_of_pos hc]
  simpa using hp

theorem cutLiteral_append (ha : apostrophe ∉ cs) (hb : '\n' ∉ cs) (rest : List Char) : 
    Word.cutLiteral (cs ++ apostrophe :: rest) = (cs ++ [apostrophe], rest) := by
  induction cs
  case nil         => rfl
  case cons c _ hi => 
    rw [List.mem_cons, not_or] at ha hb
    have hc := Ne.symm ha.left
    have hn := Ne.symm hb.left
    simp_all [Word.cutLiteral, apostrophe, Word.behind]

theorem shows_literal (hp : ∀ c ∈ cs, isPlain c) (hb : '\n' ∉ cs) (ha : apostrophe ∉ cs) (hn : cs ≠ []) : 
    Shows (literal cs) cs where
  quoted := rfl
  scan {rest} _ _ := by
    have hu := append_apostrophe_ne ha hn rest
    have hl := literal?_append hp ha rest
    simp_all [literal, scan?, apostrophe, Quoting.line?]
  cut {rest} _ _ _ := by
    have hu := append_apostrophe_ne ha hn rest
    have hl := cutLiteral_append ha hb rest
    simp_all [literal, Word.cut, apostrophe, Word.behind]

theorem shows_lines (cs : List Char) : Shows (lines cs) cs where
  quoted := rfl
  scan {rest} hq _ := by
    have h := lines_escapedLines 0 cs
    have ho := afterOpening_opening h (.inl rfl) rest
    have hl := h.lines?_append hq
    simp_all [lines, scan?, quote]
  cut _ hq _ := by
    have hl := Word.cutLines_lines (lines_escapedLines 0 cs) hq
    have ho : ∀ tail, Word.cutLines (opening cs ++ tail) = 
        Word.behind (opening cs) (Word.cutLines tail) := by
      unfold opening
      split <;> simp [Word.cutLines, Word.behind]
    simp_all [lines, Word.cut, quote, Word.behind]

theorem shows_literalLines (hp : ∀ c ∈ cs, isPlain c ∨ c = '\n') (hr : longestRun apostrophe cs ≤ 2) : 
    Shows (literalLines cs) cs where
  quoted := rfl
  scan {rest} _ ha := by
    have h := lines_literal hp hr
    have ho := afterOpening_opening h (.inr rfl) rest
    have hl := h.literalLines?_append ha
    simp_all [literalLines, scan?, apostrophe]
  cut _ _ ha := by
    have hl := Word.cutLiteralLines_lines (lines_literal hp hr) ha
    have ho : ∀ tail, Word.cutLiteralLines (opening cs ++ tail) = 
        Word.behind (opening cs) (Word.cutLiteralLines tail) := by
      unfold opening
      split <;> simp [Word.cutLiteralLines, Word.behind]
    simp_all [literalLines, Word.cut, apostrophe, Word.behind]

-- Whatever form is chosen, it shows the text.
theorem shows_chars (cs : List Char) : Shows (chars cs) cs := by
  unfold chars
  dsimp only
  split_ifs with hb hl hm ha hn
  case' pos => exact shows_basic cs
  case' pos => 
    simp only [Bool.and_eq_true, Bool.not_eq_true', decide_eq_true_eq] at hl
    have ⟨⟨hc, hr⟩, hn⟩ := hl
    have hn : '\n' ∉ cs := by simpa using hn
    have hp : ∀ c ∈ cs, isPlain c := fun c hm => 
      (isPlain_of_needsEscape hc hm).resolve_right fun h => hn (h ▸ hm)
    refine shows_literal hp hn (not_mem_of_longestRun hr) ?_
    rintro rfl
    exact hb rfl
  case' pos => exact shows_lines cs
  case' pos => 
    simp only [Bool.and_eq_true, Bool.not_eq_true', decide_eq_true_eq] at ha
    exact shows_literalLines (fun c => isPlain_of_needsEscape ha.left) ha.right
  case pos  => exact shows_lines cs
  case neg  => exact shows_basic cs

end Writer
end Rollout.Toml
