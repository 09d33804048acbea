import Rollout.Proofs.Json.Spelling
namespace Rollout.Json

namespace Document

-- Characters that may stand between the parts of a document.
def Blank (b : List Char) : Prop :=
  ∀ c ∈ b, isSpace c

inductive Part
  | value (v : Value)
  | padded (v : Value)
  | items (vs : List Value)
  | member (name : String) (v : Value)
  | members (ms : List (String × Value))

-- How values are written, alone and with blanks around them, and the elements of collections that have some.
inductive Writes : Part → List Char → Prop
  | null : Writes (.value .null) ['n', 'u', 'l', 'l']
  | yes : Writes (.value (.boolean true)) ['t', 'r', 'u', 'e']
  | no : Writes (.value (.boolean false)) ['f', 'a', 'l', 's', 'e']
  | number {n w} (numeral : n.Writes w) : Writes (.value (.number n)) w
  | string {s w} (spelled : Spells s.toList w) : Writes (.value (.string s)) ('"' :: w ++ ['"'])
  | emptyArray {b} (blank : Blank b) : Writes (.value (.array [])) ('[' :: b ++ [']'])
  | array {vs w} (items : Writes (.items vs) w) : Writes (.value (.array vs)) ('[' :: w ++ [']'])
  | emptyObject {b} (blank : Blank b) : Writes (.value (.object [])) ('\x7b' :: b ++ ['\x7d'])
  | object {ms w} (members : Writes (.members ms) w) : Writes (.value (.object ms)) ('\x7b' :: w ++ ['\x7d'])
  | padded {v b w b'} (before : Blank b) (value : Writes (.value v) w) (after : Blank b') : 
    Writes (.padded v) (b ++ w ++ b')
  | lastItem {v w} (value : Writes (.padded v) w) : Writes (.items [v]) w
  | item {v vs w u} (value : Writes (.padded v) w) (others : Writes (.items vs) u) : 
    Writes (.items (v :: vs)) (w ++ ',' :: u)
  | member {name v b k b' w} (before : Blank b) (spelled : Spells name.toList k) (after : Blank b')
    (value : Writes (.padded v) w) : Writes (.member name v) (b ++ '"' :: k ++ '"' :: b' ++ ':' :: w)
  | lastMember {name v w} (member : Writes (.member name v) w) : Writes (.members [(name, v)]) w
  | moreMembers {name v ms w u} (member : Writes (.member name v) w) (others : Writes (.members ms) u) : 
    Writes (.members ((name, v) :: ms)) (w ++ ',' :: u)

variable {b cs w rest : List Char} {c : Char} {p : Part} {v : Value} {depth : Nat}

theorem skipSpaces_append (hb : Blank b) (cs : List Char) : skipSpaces (b ++ cs) = skipSpaces cs :=
  List.dropWhile_append_of_pos hb

theorem skipSpaces_cons (h : isSpace c = false) (cs : List Char) : skipSpaces (c :: cs) = c :: cs := by
  simp [skipSpaces, h]

theorem skipSpaces_blank (hb : Blank b) (h : isSpace c = false) (cs : List Char) : 
    skipSpaces (b ++ c :: cs) = c :: cs := by
  rw [skipSpaces_append hb, skipSpaces_cons h]

theorem ends_append (hb : Blank b) (hr : Ends rest) : Ends (b ++ rest) := by
  cases b
  case nil      => exact hr
  case cons c b => 
    have hc := hb c List.mem_cons_self
    simp only [isSpace, Bool.or_eq_true, decide_eq_true_eq] at hc
    obtain ((rfl | rfl) | rfl) | rfl := hc <;> simp [Ends, Char.isDigit]

theorem ends_cons (h : c ∈ [',', ']', '\x7d']) : Ends (c :: rest) := by
  simp only [List.mem_cons, List.not_mem_nil, or_false] at h
  obtain rfl | rfl | rfl := h <;> simp [Ends, Char.isDigit]

theorem value?_append (hb : Blank b) (cs : List Char) : value? depth (b ++ cs) = value? depth cs := by
  unfold value?
  rw [skipSpaces_append hb]

-- Blanks, and then a character that does not close a collection.
def Opens (w : List Char) : Prop :=
  ∃ b c cs, Blank b ∧ w = b ++ c :: cs ∧ isSpace c = false ∧ c ≠ ']' ∧ c ≠ '\x7d'

theorem Opens.append (h : Opens w) (rest : List Char) : Opens (w ++ rest) := by
  obtain ⟨b, c, cs, hb, rfl, hc⟩ := h
  exact ⟨b, c, cs ++ rest, hb, by simp, hc⟩

theorem Opens.append_left (hb : Blank b) (h : Opens w) : Opens (b ++ w) := by
  obtain ⟨b', c, cs, hb', rfl, hc⟩ := h
  exact ⟨b ++ b', c, cs, fun c hm => (List.mem_append.mp hm).elim (hb c) (hb' c), by simp, hc⟩

theorem opens_cons (hs : isSpace c = false) (hb : c ≠ ']') (hc : c ≠ '\x7d') (cs : List Char) : Opens (c :: cs) :=
  ⟨[], c, cs, nofun, rfl, hs, hb, hc⟩

theorem opens_digits (h : Digits w) : Opens w := by
  have ⟨hn, ha⟩ := h
  cases w
  case nil       => contradiction
  case cons c cs => 
    have hc := ha c List.mem_cons_self
    have hne (d : Char) (hd : d.isDigit = false) : c ≠ d := fun he => by simp [he, hd] at hc
    refine opens_cons ?_ (hne _ rfl) (hne _ rfl) cs
    simp [isSpace, hne]

theorem Writes.opens (h : Writes p w) : Opens w := by
  induction h
  case number h                  => 
    have ⟨hd, _, _, _⟩ := h
    rw [List.append_assoc, List.append_assoc]
    split
    case isTrue  => exact opens_cons (by decide) (by decide) (by decide) _
    case isFalse => exact (opens_digits hd).append _
  case padded hb _ _ hi          => exact (hi.append_left hb).append _
  case lastItem hi               => exact hi
  case item hi _                 => exact hi.append _
  case member hb _ _ _ _         => 
    rw [List.append_assoc, List.append_assoc]
    exact (opens_cons (by decide) (by decide) (by decide) _).append_left hb
  case lastMember hi             => exact hi
  case moreMembers hi _          => exact hi.append _
  all_goals exact opens_cons (by decide) (by decide) (by decide) _

-- What a reader makes of a part, whatever follows it. It gives up on values that are nested too deep.
def Part.ReadAs : Part → List Char → Prop
  | value v,       w => ∀ depth rest, Ends rest → 
    value? depth (w ++ rest) = if v.depth ≤ depth then some (v, rest) else none
  | padded v,      w => ∀ depth rest, Ends rest → ∃ b, Blank b ∧ 
    value? depth (w ++ rest) = if v.depth ≤ depth then some (v, b ++ rest) else none
  | items vs,      w => ∀ depth n rest, w.length ≤ n → elements? (value? depth) n (w ++ ']' :: rest) = 
    if Value.depthOfItems vs ≤ depth then some (vs, rest) else none
  | member name v, w => ∀ depth rest, Ends rest → ∃ b, Blank b ∧ member? (value? depth) (w ++ rest) = 
    if v.depth ≤ depth then some ((some name, v), b ++ rest) else none
  | members ms,    w => ∀ depth n rest, w.length ≤ n → members? (value? depth) n (w ++ '\x7d' :: rest) = 
    if Value.depthOfMembers ms ≤ depth then some (ms.map fun (name, v) => (some name, v), rest) else none

theorem Opens.length_pos (h : Opens w) : 0 < w.length := by
  obtain ⟨b, c, cs, _, rfl, _⟩ := h
  rw [List.length_append, List.length_cons]
  omega

theorem named?_map (ms : List (String × Value)) : named? (ms.map fun (name, v) => (some name, v)) = some ms := by
  induction ms
  case nil     => rfl
  case cons hi => simp [named?, hi]

theorem value?_digit (h : Digits w) (rest : List Char) : 
    value? depth (w ++ rest) = (numeral? false (w ++ rest)).map fun (n, rest) => (.number n, rest) := by
  have ⟨hn, ha⟩ := h
  cases w
  case nil       => contradiction
  case cons c cs => 
    have hc := ha c List.mem_cons_self
    have hne (d : Char) (hd : d.isDigit = false) : c ≠ d := fun he => by simp [he, hd] at hc
    have hs : skipSpaces (c :: (cs ++ rest)) = c :: (cs ++ rest) := skipSpaces_cons (by simp [isSpace, hne]) _
    rw [List.cons_append]
    unfold value?
    rw [hs]
    split
    case h_8 he => rfl
    all_goals simp_all [Char.isDigit]

theorem value?_minus (cs : List Char) : 
    value? depth ('-' :: cs) = (numeral? true cs).map fun (n, rest) => (.number n, rest) := by
  cases depth <;> rfl

theorem value?_number {n : Numeral} (h : n.Writes w) (hr : Ends rest) : 
    value? depth (w ++ rest) = some (.number n, rest) := by
  obtain ⟨hd, hz, hf, he⟩ := h
  have hn (negative : Bool) := Numeral.numeral?_append negative hd hz hf he hr
  split
  case isTrue hm  => simp [value?_minus, hn, hm]
  case isFalse hm => 
    simp only [List.nil_append, List.append_assoc]
    rw [value?_digit hd, hn]
    simp [hm]

theorem value?_quote (cs : List Char) : value? depth ('"' :: cs) = (units? cs).map fun (us, rest) => 
    ((chars? us).elim .unpaired fun s => .string (.ofList s), rest) := by
  cases depth <;> rfl

theorem value?_string {s : String} (h : Spells s.toList w) (rest : List Char) : 
    value? depth ('"' :: w ++ ['"'] ++ rest) = some (.string s, rest) := by
  have ⟨us, hu, hc⟩ := h.units? rest
  simp [value?_quote, hu, hc]

theorem value?_bracket (depth : Nat) (cs : List Char) : value? depth ('[' :: cs) = 
    match depth with
    | 0         => none
    | depth + 1 => 
      match skipSpaces cs with
      | ']' :: rest => some (.array [], rest)
      | _           => (elements? (value? depth) cs.length cs).map fun (vs, rest) => (.array vs, rest) := by
  cases depth <;> rfl

theorem value?_brace (depth : Nat) (cs : List Char) : value? depth ('\x7b' :: cs) = 
    match depth with
    | 0         => none
    | depth + 1 => 
      match skipSpaces cs with
      | '\x7d' :: rest => some (.object [], rest)
      | _              => (members? (value? depth) cs.length cs).map fun (ms, rest) => 
        ((named? ms).elim .unpaired .object, rest) := by
  cases depth <;> rfl

-- A collection that has elements does not close before them.
theorem Opens.skipSpaces_ne (h : Opens w) (rest cs : List Char) : 
    skipSpaces (w ++ rest) ≠ ']' :: cs ∧ skipSpaces (w ++ rest) ≠ '\x7d' :: cs := by
  obtain ⟨b, c, ds, hb, rfl, hs, hc⟩ := h
  rw [List.append_assoc, List.cons_append, skipSpaces_blank hb hs]
  simpa using ⟨fun he _ => hc.left he, fun he _ => hc.right he⟩

theorem value?_items {vs : List Value} (h : Opens w) (hr : Part.ReadAs (.items vs) w) (rest : List Char) : 
    value? depth ('[' :: w ++ [']'] ++ rest) = 
      if (Value.array vs).depth ≤ depth then some (.array vs, rest) else none := by
  simp only [List.cons_append, List.append_assoc, List.nil_append, Value.depth, value?_bracket]
  cases depth
  case zero       => rfl
  case succ depth => 
    have hr := hr depth (w ++ ']' :: rest).length rest (by simp)
    have hs := h.skipSpaces_ne (']' :: rest)
    dsimp only
    rw [hr]
    split
    case h_1 he => exact absurd he (hs _).left
    case h_2    => 
      simp only [Nat.add_le_add_iff_right]
      split <;> rfl

theorem value?_members {ms : List (String × Value)} (h : Opens w) (hr : Part.ReadAs (.members ms) w) 
    (rest : List Char) : value? depth ('\x7b' :: w ++ ['\x7d'] ++ rest) = 
      if (Value.object ms).depth ≤ depth then some (.object ms, rest) else none := by
  simp only [List.cons_append, List.append_assoc, List.nil_append, Value.depth, value?_brace]
  cases depth
  case zero       => rfl
  case succ depth => 
    have hr := hr depth (w ++ '\x7d' :: rest).length rest (by simp)
    have hs := h.skipSpaces_ne ('\x7d' :: rest)
    dsimp only
    rw [hr]
    split
    case h_1 he => exact absurd he (hs _).right
    case h_2    => 
      simp only [Nat.add_le_add_iff_right]
      split <;> simp [named?_map]

-- The readers of elements and members consume something in each round.
theorem readAs_items_one (h : Opens w) (hr : Part.ReadAs (.padded v) w) : Part.ReadAs (.items [v]) w := by
  intro depth n rest hn
  obtain ⟨n, rfl⟩ : ∃ m, n = m + 1 := Nat.exists_eq_add_one.mpr (by have := h.length_pos; omega)
  have ⟨b, hb, hv⟩ := hr depth (']' :: rest) (ends_cons (by decide))
  simp only [elements?, hv, Value.depthOfItems, Nat.max_zero]
  split <;> simp [skipSpaces_blank hb (c := ']') (by decide)]

theorem readAs_items_more {vs : List Value} {u : List Char} (h : Opens w) (hr : Part.ReadAs (.padded v) w) 
    (ho : Part.ReadAs (.items vs) u) : Part.ReadAs (.items (v :: vs)) (w ++ ',' :: u) := by
  intro depth n rest hn
  rw [List.length_append, List.length_cons] at hn
  obtain ⟨n, rfl⟩ : ∃ m, n = m + 1 := Nat.exists_eq_add_one.mpr (by omega)
  have ⟨b, hb, hv⟩ := hr depth (',' :: (u ++ ']' :: rest)) (ends_cons (by decide))
  have hu := ho depth n rest (by have := h.length_pos; omega)
  rw [List.append_assoc, List.cons_append]
  simp only [elements?, hv, Value.depthOfItems, Nat.max_le]
  by_cases hd : v.depth ≤ depth <;> by_cases hd' : Value.depthOfItems vs ≤ depth <;> 
    simp [hd, hd', skipSpaces_blank hb (c := ',') (by decide), hu]

theorem readAs_member {name : String} {k b' : List Char} (hb : Blank b) (hk : Spells name.toList k) 
    (ha : Blank b') (hr : Part.ReadAs (.padded v) w) : 
    Part.ReadAs (.member name v) (b ++ '"' :: k ++ '"' :: b' ++ ':' :: w) := by
  intro depth rest he
  have ⟨us, hu, hc⟩ := hk.units? (b' ++ ':' :: (w ++ rest))
  have ⟨after, hafter, hv⟩ := hr depth rest he
  refine ⟨after, hafter, ?_⟩
  simp only [List.append_assoc, List.cons_append, member?, skipSpaces_blank hb (c := '"') (by decide), hu, 
    skipSpaces_blank ha (c := ':') (by decide), hc, hv, Option.bind_eq_bind, Option.bind_some, Option.pure_def]
  split <;> simp

theorem readAs_members_one {name : String} (h : Opens w) (hr : Part.ReadAs (.member name v) w) : 
    Part.ReadAs (.members [(name, v)]) w := by
  intro depth n rest hn
  obtain ⟨n, rfl⟩ : ∃ m, n = m + 1 := Nat.exists_eq_add_one.mpr (by have := h.length_pos; omega)
  have ⟨b, hb, hv⟩ := hr depth ('\x7d' :: rest) (ends_cons (by decide))
  simp only [members?, hv, Value.depthOfMembers, Nat.max_zero]
  split <;> simp [skipSpaces_blank hb (c := '\x7d') (by decide)]

theorem readAs_members_more {name : String} {ms : List (String × Value)} {u : List Char} (h : Opens w) 
    (hr : Part.ReadAs (.member name v) w) (ho : Part.ReadAs (.members ms) u) : 
    Part.ReadAs (.members ((name, v) :: ms)) (w ++ ',' :: u) := by
  intro depth n rest hn
  rw [List.length_append, List.length_cons] at hn
  obtain ⟨n, rfl⟩ : ∃ m, n = m + 1 := Nat.exists_eq_add_one.mpr (by omega)
  have ⟨b, hb, hv⟩ := hr depth (',' :: (u ++ '\x7d' :: rest)) (ends_cons (by decide))
  have hu := ho depth n rest (by have := h.length_pos; omega)
  rw [List.append_assoc, List.cons_append]
  simp only [members?, hv, Value.depthOfMembers, Nat.max_le]
  by_cases hd : v.depth ≤ depth <;> by_cases hd' : Value.depthOfMembers ms ≤ depth <;> 
    simp [hd, hd', skipSpaces_blank hb (c := ',') (by decide), hu]

theorem value?_emptyArray (hb : Blank b) (rest : List Char) : value? depth ('[' :: b ++ [']'] ++ rest) = 
    if (Value.array []).depth ≤ depth then some (.array [], rest) else none := by
  simp only [List.cons_append, List.append_assoc, List.nil_append, Value.depth, Value.depthOfItems, value?_bracket]
  cases depth <;> simp [skipSpaces_blank hb (c := ']') (by decide)]

theorem value?_emptyObject (hb : Blank b) (rest : List Char) : value? depth ('\x7b' :: b ++ ['\x7d'] ++ rest) = 
    if (Value.object []).depth ≤ depth then some (.object [], rest) else none := by
  simp only [List.cons_append, List.append_assoc, List.nil_append, Value.depth, Value.depthOfMembers, value?_brace]
  cases depth <;> simp [skipSpaces_blank hb (c := '\x7d') (by decide)]

theorem blank_nil : Blank [] :=
  nofun

theorem Writes.alone (h : Writes (.value v) w) : Writes (.padded v) w := by
  simpa using Writes.padded blank_nil h blank_nil

-- Every way of writing a part is read as that part.
theorem Writes.readAs (h : Writes p w) : p.ReadAs w := by
  induction h
  case number h                => exact fun depth rest hr => by simp [value?_number h hr, Value.depth]
  case string h                => exact fun depth rest _ => by simp only [value?_string h]; simp [Value.depth]
  case emptyArray hb           => exact fun depth rest _ => value?_emptyArray hb rest
  case array h hi              => exact fun depth rest _ => value?_items h.opens hi rest
  case emptyObject hb          => exact fun depth rest _ => value?_emptyObject hb rest
  case object h hi             => exact fun depth rest _ => value?_members h.opens hi rest
  case padded hb _ ha hi       => 
    intro depth rest hr
    refine ⟨_, ha, ?_⟩
    rw [List.append_assoc, List.append_assoc, value?_append hb, hi depth _ (ends_append ha hr)]
  case lastItem h hi           => exact readAs_items_one h.opens hi
  case item h _ hi hi'         => exact readAs_items_more h.opens hi hi'
  case member hb hk ha _ hi    => exact readAs_member hb hk ha hi
  case lastMember h hi         => exact readAs_members_one h.opens hi
  case moreMembers h _ hi hi'  => exact readAs_members_more h.opens hi hi'
  all_goals exact fun depth rest _ => by cases depth <;> rfl

theorem readChars?_of_writes (h : Writes (.padded v) cs) : 
    readChars? depth cs = if v.depth ≤ depth then some v else none := by
  have ⟨b, hb, hv⟩ := h.readAs depth [] nofun
  have hs : skipSpaces b = [] := by simpa [skipSpaces] using skipSpaces_append hb []
  rw [List.append_nil, List.append_nil] at hv
  split at hv <;> simp_all [readChars?]

-- A document is refused if it is nested too deep or holds something that cannot be kept, and for no other reason.
theorem read_of_writes {text : String} (h : Writes (.padded v) text.toList) : read text = 
    if v.depth ≤ maxDepth then (if v.isSound then .ok v else .error .unsound) else .error .malformed := by
  rw [read, readChars?_of_writes h]
  by_cases hd : v.depth ≤ maxDepth <;> simp [hd]

def Part.levels : Part → Nat
  | value v    => v.depth
  | padded v   => v.depth
  | items vs   => Value.depthOfItems vs
  | member _ v => v.depth
  | members ms => Value.depthOfMembers ms

-- Each level of nesting takes brackets of its own.
theorem Writes.levels_le_length (h : Writes p w) : p.levels ≤ w.length := by
  induction h
  all_goals
    simp only [Part.levels, Value.depth, Value.depthOfItems, Value.depthOfMembers, List.length_append, 
      List.length_cons, List.length_nil] at *
  all_goals omega

-- With as many levels as it has characters a text is read whatever it is.
theorem readChars?_length (h : Writes (.padded v) cs) : readChars? cs.length cs = some v := by
  have hd : v.depth ≤ cs.length := h.levels_le_length
  rw [readChars?_of_writes h, if_pos hd]

end Document
end Rollout.Json
