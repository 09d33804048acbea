import Rollout.Proofs.Toml.Growth
namespace Rollout.Toml

open KeyOrder (keys)

-- The bracket with which a collection begins.
inductive Term.Opens : Char → Term → Prop
  | array : Opens '[' (.array ts)
  | table : Opens '\x7b' (.table ps)

inductive Value.Opens : Char → Value → Prop
  | array : Opens '[' (.array vs)
  | table : Opens '\x7b' (.table es)

variable {key : Word} {name : String} {c : Char} {cs rest : List Char} {s? : Option Statement} {t : Term} 
variable {v : Value} {entries settled : Table}

theorem Term.Opens.read (h : t.Opens c) (hv : t.read = .ok v) : v.Opens c := by
  cases h <;> simp only [Term.read, Except.bind_eq_ok_iff, Except.pure_eq, Except.ok.injEq] at hv
  case array => 
    obtain ⟨_, _, rfl⟩ := hv
    exact .array
  case table => 
    obtain ⟨_, _, rfl⟩ := hv
    exact .table

namespace Statement

-- What begins like a collection is one, or it is nothing.
theorem opens_of_termOnLine? (hc : c = '[' ∨ c = '\x7b') (h : termOnLine? (c :: cs) = some (t, rest)) : 
    t.Opens c := by
  obtain rfl | rfl := hc
  case inl => 
    have he : endLine? ('[' :: cs) = none := rfl
    simp only [termOnLine?, he, term?, maxDepth, Option.isSome_none, Bool.false_eq_true, if_false] at h
    obtain ⟨p, _, hp⟩ := Option.bind_eq_some_iff.mp h
    cases hp
    exact .array
  case inr => 
    have he : endLine? ('\x7b' :: cs) = none := rfl
    simp only [termOnLine?, he, term?, maxDepth, Option.isSome_none, Bool.false_eq_true, if_false] at h
    obtain ⟨p, _, hp⟩ := Option.bind_eq_some_iff.mp h
    cases hp
    exact .table

theorem exists_term_of_scan? (hk : KeyWord key name) (hc : c = '[' ∨ c = '\x7b') 
    (h : scan? (key ++ ' ' :: '=' :: ' ' :: c :: cs) = some (s?, rest)) : 
    ∃ t, s? = some (.assign [key] t) ∧ t.Opens c := by
  have hs : skipSpaces (c :: cs) = c :: cs := skipSpaces_cons (by obtain rfl | rfl := hc <;> rfl)
  rw [scan?_key hk hs] at h
  have ⟨⟨t, rest'⟩, ht, h⟩ := Option.bind_eq_some_iff.mp h
  have ⟨_, _, he⟩ := Option.map_eq_some_iff.mp h
  cases he
  exact ⟨t, rfl, opens_of_termOnLine? hc ht⟩

end Statement

namespace Document

variable {text : String} {ss : List Statement} {ns : List (Nat × Statement)} {root : Section} {table : Table} 
variable {m line : Nat}

theorem statementsFrom_of_scan? {n : Nat} (hn : cs ≠ []) (h : statementsFrom n line cs = .ok ns) : 
    ∃ s? rest ns', Statement.scan? cs = some (s?, rest) ∧ ns = (s?.map (line, ·)).toList ++ ns' := by
  obtain ⟨c, cs, rfl⟩ := List.exists_cons_of_ne_nil hn
  cases n <;> simp only [statementsFrom] at h
  case zero => contradiction
  case succ =>
    split at h
    case h_1      => contradiction
    case h_2 hs   =>
      obtain ⟨ns', _, he⟩ := Except.bind_eq_ok_iff.mp h
      exact ⟨_, _, ns', hs, (Except.ok.inj he).symm⟩

-- No key comes twice in a document.
theorem nodup_read (h : read text = .ok table) : (keys table).Nodup := by
  simp only [read, readChars, Except.bind_eq_ok_iff, Except.pure_eq, Except.ok.injEq] at h
  obtain ⟨_, _, d, hd, rfl⟩ := h
  exact Section.keys_toTable d.root ▸ (Draft.grows_applyAll hd).distinct .nil

-- A collection that is assigned to a new key, behind whole lines and whatever follows it, is what the key 
-- stands for in the end.
theorem exists_lookup_of_read (ht : text.toList = cs ++ (key ++ ' ' :: '=' :: ' ' :: c :: rest)) 
    (h : Statement.Laid cs ss) (hb : text.toList.head? ≠ some '\ufeff') 
    (hd : ss.foldlM Draft.apply Draft.empty = .ok ⟨root, []⟩) (hk : Statement.KeyWord key name) 
    (hc : c = '[' ∨ c = '\x7b') (hr : read text = .ok table) : ∃ v, table.lookup name = some v ∧ v.Opens c := by
  have ⟨m, line, _, hm⟩ := exists_read ht h hb hd
  simp only [hm, Except.bind_eq_ok_iff, Except.pure_eq, Except.ok.injEq] at hr
  obtain ⟨ms, hs, d, ha, rfl⟩ := hr
  obtain ⟨s?, _, ms, hw, rfl⟩ := statementsFrom_of_scan? (by simp) hs
  obtain ⟨t, rfl, ho⟩ := Statement.exists_term_of_scan? hk hc hw
  simp only [Option.map_some, Option.toList_some, List.singleton_append, Draft.applyAll] at ha
  split at ha
  case h_1        => contradiction
  case h_2 d' hd' =>
    simp only [Draft.apply, Key.read_word hk, Except.ok_bind, Section.descend, Except.bind_eq_ok_iff, 
      orRedefined_eq_ok_iff, Except.pure_eq, Except.ok.injEq] at hd'
    obtain ⟨v, hv, s, hs, rfl⟩ := hd'
    simp only [Section.assign] at hs
    split at hs
    case h_2    => contradiction
    case h_1 hn =>
      obtain rfl := Option.some.inj hs
      have hl : List.lookup name (root ++ [(name, Node.value v)]) = some (.value v) := by 
        simp [List.lookup_append, hn]
      refine ⟨v, ?_, ho.read hv⟩
      rw [Section.lookup_toTable, (Draft.grows_applyAll ha).value hl, Option.map_some, Node.toValue]

end Document

namespace Value

-- A table is settled entry by entry.
theorem settleEntries?_eq_some_iff : 
    settleEntries? entries = some settled ↔ KeyOrder.Valuewise (·.settle? = some ·) entries settled := by
  constructor
  case mp  =>
    intro h
    induction entries generalizing settled
    case nil          => exact Option.some.inj h ▸ .nil
    case cons e es hi =>
      have ⟨v, hv, h⟩ := Option.bind_eq_some_iff.mp h
      have ⟨es', hes, h⟩ := Option.bind_eq_some_iff.mp h
      exact Option.some.inj h ▸ .cons hv (hi hes)
  case mpr =>
    intro h
    induction h
    case nil          => rfl
    case cons hv _ hi => simp [settleEntries?, hv, hi]

-- A collection is settled as another one, unless it is a table that stands for a date or time.
theorem Opens.settle? (h : v.Opens c) (hs : v.settle? = some w) : 
    w.Opens c ∨ ∃ entries m, v = .table entries ∧ isMoment entries ∧ moment? entries = some m ∧ w = .moment m := by
  cases h <;> simp only [Value.settle?] at hs
  case array    => 
    obtain ⟨_, _, rfl⟩ := Option.map_eq_some_iff.mp hs
    exact .inl .array
  case table es => 
    split at hs
    case isTrue hm => 
      obtain ⟨m, he, rfl⟩ := Option.map_eq_some_iff.mp hs
      exact .inr ⟨es, m, rfl, hm, he, rfl⟩
    case isFalse   =>
      obtain ⟨_, _, rfl⟩ := Option.map_eq_some_iff.mp hs
      exact .inl .table

end Value
end Rollout.Toml
