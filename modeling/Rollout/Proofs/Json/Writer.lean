import Rollout.Json.Writer
import Rollout.Proofs.Json.Document
import Rollout.Proofs.Json.Integer
import Rollout.Proofs.Json.Members
namespace Rollout.Json

open Document Writer

-- Values that have a text: no half of a surrogate pair is in them, and all numerals are written properly.
inductive Value.Writable : Value → Prop
  | null : Writable .null
  | boolean (b : Bool) : Writable (.boolean b)
  | string (s : String) : Writable (.string s)
  | number {n} (numeral : n.Writes (numeral n)) : Writable (.number n)
  | array {vs} (items : ∀ v ∈ vs, v.Writable) : Writable (.array vs)
  | object {ms} (members : ∀ m ∈ ms, m.2.Writable) : Writable (.object ms)

variable {b b' sp cs w : List Char} {v : Value} {vs : List Value} {ms : List (String × Value)}
variable {text : Value → List Char}

theorem unit?_hexPair : ∀ n < 0x20, 
    ('0' :: '0' :: hexPair n).foldlM (fun m c => (hexValue? c).map (16 * m + ·)) 0 = some n := by
  decide

-- Quotes, backslashes and control characters are the only characters that are escaped.
theorem spells_cons_escaped (c : Char) (h : Spells cs w) : Spells (c :: cs) (escaped c ++ w) := by
  unfold escaped
  split_ifs with hq hb ht hn hf hr hc
  · simp only [Bool.or_eq_true, decide_eq_true_eq] at hq
    obtain rfl | rfl := hq <;> exact .short rfl h
  · subst hb; exact .short rfl h
  · subst ht; exact .short rfl h
  · subst hn; exact .short rfl h
  · subst hf; exact .short rfl h
  · subst hr; exact .short rfl h
  · have hu : unit? ('0' :: '0' :: hexPair c.toNat) = some (.char c) := by
      have hv : c.toNat.isValidChar := c.valid
      rw [unit?, unit?_hexPair _ hc, Option.bind_eq_bind, Option.bind_some, dif_pos hv]
      rfl
    exact .code hu h
  · simp only [Bool.or_eq_true, decide_eq_true_eq, not_or] at hq
    exact .plain (by omega) hq.left hq.right h

theorem spells_quoted (s : String) : Spells s.toList (s.toList.flatMap escaped) := by
  induction s.toList
  case nil          => exact .nil
  case cons c cs hi => exact spells_cons_escaped c hi

theorem joined_singleton (b w : List Char) : joined b [w] = w :=
  List.intercalate_singleton

theorem joined_cons_cons (b w w' : List Char) (ws : List (List Char)) : 
    joined b (w :: w' :: ws) = w ++ b ++ joined b (w' :: ws) :=
  List.intercalate_cons_cons

-- Parts that are joined by commas, with blanks around each of them.
theorem writes_items (hb : Blank b) (hb' : Blank b') 
    (h : ∀ u ∈ v :: vs, Writes (.value u) (text u)) : 
    Writes (.items (v :: vs)) (b ++ joined (',' :: b) ((v :: vs).map text) ++ b') := by
  have hv := h v List.mem_cons_self
  induction vs generalizing v
  case nil          => 
    rw [List.map_singleton, joined_singleton]
    exact .lastItem (.padded hb hv hb')
  case cons u vs hi => 
    have hu : ∀ x ∈ u :: vs, Writes (.value x) (text x) := fun x hx => h x (List.mem_cons_of_mem _ hx)
    have hw := Writes.item (.padded hb hv blank_nil) (hi hu (hu u List.mem_cons_self))
    simpa [joined_cons_cons] using hw

theorem writes_member (hs : Blank sp) (hb : Blank b) (hb' : Blank b') {m : String × Value} 
    (h : Writes (.value m.2) (text m.2)) : 
    Writes (.member m.1 m.2) (b ++ (quoted m.1 ++ ':' :: (sp ++ text m.2)) ++ b') := by
  have hw := Writes.member hb (spells_quoted m.1) blank_nil (.padded hs h hb')
  simpa [quoted] using hw

theorem writes_members (hs : Blank sp) (hb : Blank b) (hb' : Blank b') {m : String × Value} 
    (h : ∀ x ∈ m :: ms, Writes (.value x.2) (text x.2)) : 
    Writes (.members (m :: ms)) 
      (b ++ joined (',' :: b) ((m :: ms).map fun x => quoted x.1 ++ ':' :: (sp ++ text x.2)) ++ b') := by
  have hm := h m List.mem_cons_self
  induction ms generalizing m
  case nil          => 
    rw [List.map_singleton, joined_singleton]
    exact .lastMember (writes_member hs hb hb' hm)
  case cons x ms hi => 
    have hx : ∀ y ∈ x :: ms, Writes (.value y.2) (text y.2) := fun y hy => h y (List.mem_cons_of_mem _ hy)
    have hw := Writes.moreMembers (writes_member hs hb blank_nil hm) (hi hx (hx x List.mem_cons_self))
    simpa [joined_cons_cons] using hw

theorem compactItems_eq_map (vs : List Value) : compactItems vs = vs.map compact := by
  induction vs
  case nil          => rfl
  case cons v vs hi => rw [compactItems, hi, List.map_cons]

theorem compactMembers_eq_map (ms : List (String × Value)) : 
    compactMembers ms = ms.map fun m => quoted m.1 ++ ':' :: ([] ++ compact m.2) := by
  induction ms
  case nil          => rfl
  case cons m ms hi => rw [compactMembers, hi, List.map_cons]; rfl

theorem indentedItems_eq_map (d : Nat) (vs : List Value) : 
    indentedItems d vs = vs.map (indented (d + 1)) := by
  induction vs
  case nil          => rfl
  case cons v vs hi => rw [indentedItems, hi, List.map_cons]

theorem indentedMembers_eq_map (d : Nat) (ms : List (String × Value)) : 
    indentedMembers d ms = ms.map fun m => quoted m.1 ++ ':' :: ([' '] ++ indented (d + 1) m.2) := by
  induction ms
  case nil          => rfl
  case cons m ms hi => rw [indentedMembers, hi, List.map_cons]; rfl

theorem blank_newLine (d : Nat) : Blank (newLine d) := by
  intro c hc
  obtain rfl | hc := List.mem_cons.mp hc
  · rfl
  · rw [List.eq_of_mem_replicate hc]
    rfl

theorem writes_array (h : ∀ v ∈ vs, Writes (.value v) (compact v) ∧ ∀ d, Writes (.value v) (indented d v)) : 
    Writes (.value (.array vs)) (compact (.array vs)) ∧ 
      ∀ d, Writes (.value (.array vs)) (indented d (.array vs)) := by
  simp only [compact, indented, block, compactItems_eq_map, indentedItems_eq_map]
  cases vs
  case nil       => exact ⟨.emptyArray blank_nil, fun _ => .emptyArray blank_nil⟩ 
  case cons v vs => 
    have hc := writes_items blank_nil blank_nil fun u hu => (h u hu).left
    have hi (d : Nat) := writes_items (blank_newLine (d + 1)) (blank_newLine d) fun u hu => (h u hu).right (d + 1)
    exact ⟨by simpa using Writes.array hc, fun d => by simpa using Writes.array (hi d)⟩ 

theorem writes_object 
    (h : ∀ m ∈ ms, Writes (.value m.2) (compact m.2) ∧ ∀ d, Writes (.value m.2) (indented d m.2)) : 
    Writes (.value (.object ms)) (compact (.object ms)) ∧ 
      ∀ d, Writes (.value (.object ms)) (indented d (.object ms)) := by
  simp only [compact, indented, block, compactMembers_eq_map, indentedMembers_eq_map]
  cases ms
  case nil       => exact ⟨.emptyObject blank_nil, fun _ => .emptyObject blank_nil⟩ 
  case cons m ms => 
    have hs : Blank [' '] := by simp [Blank, isSpace]
    have hc := writes_members blank_nil blank_nil blank_nil fun x hx => (h x hx).left
    have hi (d : Nat) := 
      writes_members hs (blank_newLine (d + 1)) (blank_newLine d) fun x hx => (h x hx).right (d + 1)
    exact ⟨by simpa using Writes.object hc, fun d => by simpa using Writes.object (hi d)⟩ 

theorem numeral_ofInt (n : Int) : numeral (.ofInt n) = (toString n).toList := by
  rw [Text.toList_toString]
  simp [numeral, Numeral.ofInt]

theorem Value.Plain.writable (h : v.Plain) : v.Writable := by
  cases h
  case null          => exact .null
  case boolean b     => exact .boolean b
  case string s      => exact .string s
  case integer n _ _ => exact .number (numeral_ofInt n ▸ Numeral.writes_ofInt n)

theorem Value.Shallow.writable (h : v.Shallow) : v.Writable := by
  obtain ⟨h⟩ := h
  exact .object fun m hm => (h m hm).writable

-- Both texts of a value are ways of writing it.
theorem Value.Writable.writes (h : v.Writable) : 
    Writes (.value v) (Writer.compact v) ∧ ∀ d, Writes (.value v) (indented d v) := by
  induction h
  case null       => exact ⟨.null, fun _ => .null⟩ 
  case boolean b  => cases b <;> exact ⟨by constructor, fun _ => by constructor⟩ 
  case string s   => exact ⟨.string (spells_quoted s), fun _ => .string (spells_quoted s)⟩ 
  case number h   => exact ⟨.number h, fun _ => .number h⟩ 
  case array hi   => exact writes_array hi
  case object hi  => exact writes_object hi

end Rollout.Json
