import Rollout.Proofs.KeyOrder
import Rollout.Proofs.Toml.Layout
namespace Rollout.Toml

open KeyOrder (keys)

namespace Section

-- What happens to a section while a document is read: values stay as they are, and no key comes twice.
structure Grows (s s' : Section) : Prop where
  distinct : (keys s).Nodup → (keys s').Nodup
  value    : ∀ {key v}, s.lookup key = some (.value v) → s'.lookup key = some (.value v)

variable {s s' s'' : Section} {key : String} {n : Node} {v : Value} {path : List String} 
variable {change : Section → Option Section}

theorem lookup_eq_none_iff : s.lookup key = none ↔ key ∉ keys s := by
  rw [List.lookup_eq_none_iff]
  constructor
  case mp  =>
    intro h hm
    obtain ⟨e, he, rfl⟩ := List.mem_map.mp hm
    simpa using h e he
  case mpr =>
    refine fun h e he => bne_iff_ne.mpr fun hk => h ?_
    exact List.mem_map.mpr ⟨e, he, hk.symm⟩

theorem lookup_append_of_ne {key' : String} (h : key' ≠ key) : (s ++ [(key, n)]).lookup key' = s.lookup key' := by
  simp [List.lookup_append, List.lookup_cons, beq_false_of_ne h]

theorem lookup_replace_of_ne {key' : String} (h : key' ≠ key) : (s.replace key n).lookup key' = s.lookup key' := by
  induction s
  case nil          => rfl
  case cons e es hi =>
    rcases e with ⟨k, old⟩
    simp only [replace, List.map_cons] at hi ⊢
    by_cases hk : k = key
    case pos => simp [hk, List.lookup_cons, beq_false_of_ne h, hi]
    case neg => simp [hk, List.lookup_cons, hi]

theorem keys_replace (key : String) (n : Node) (s : Section) : keys (s.replace key n) = keys s := by
  simp only [keys, replace, List.map_map]
  refine List.map_congr_left fun e _ => ?_
  rcases e with ⟨k, old⟩
  by_cases hk : k = key <;> simp [hk]

namespace Grows

theorem refl (s : Section) : Grows s s :=
  ⟨id, id⟩

theorem trans (h : Grows s s') (h' : Grows s' s'') : Grows s s'' :=
  ⟨h'.distinct ∘ h.distinct, h'.value ∘ h.value⟩

theorem append (h : s.lookup key = none) : Grows s (s ++ [(key, n)]) where
  distinct hd := by
    have hk := lookup_eq_none_iff.mp h
    simp only [keys, List.map_append, List.map_cons, List.map_nil] at hd hk ⊢
    exact List.nodup_append.mpr ⟨hd, by simp, by simpa using fun k n hm he => hk (List.mem_map.mpr ⟨_, hm, he⟩)⟩
  value hv    := by
    rw [lookup_append_of_ne, hv]
    rintro rfl
    cases h.symm.trans hv

theorem replace (h : ∀ v, s.lookup key ≠ some (.value v)) : Grows s (s.replace key n) where
  distinct hd := keys_replace key n s ▸ hd
  value hv    := by
    rw [lookup_replace_of_ne, hv]
    rintro rfl
    exact h _ hv

end Grows

theorem grows_assign (h : assign key v path s = some s') : Grows s s' := by
  cases path <;> unfold assign at h
  case nil => 
    split at h
    case h_1 hl => exact Option.some.inj h ▸ .append hl
    case h_2    => contradiction
  case cons =>
    split at h
    case h_1 hl => 
      have ⟨_, _, he⟩ := Option.bind_eq_some_iff.mp h
      exact Option.some.inj he ▸ .append hl
    case h_2 hl => 
      simp only [Option.bind_eq_bind, Option.bind_eq_some_iff] at h
      have ⟨_, _, _, _, _, _, he⟩ := h
      exact Option.some.inj he ▸ .replace (by simp [hl])
    case h_3 hl => 
      simp only [Option.bind_eq_bind, Option.bind_eq_some_iff] at h
      have ⟨_, _, _, _, he⟩ := h
      exact Option.some.inj he ▸ .replace (by simp [hl])
    case h_4    => contradiction

theorem grows_openTable (h : openTable key s = some s') : Grows s s' := by
  unfold openTable at h
  split at h <;> cases h
  case h_1 hl => exact .append hl
  case h_2 hl => exact .replace (by simp [hl])

theorem grows_openItem (h : openItem key s = some s') : Grows s s' := by
  unfold openItem at h
  split at h <;> cases h
  case h_1 hl => exact .append hl
  case h_2 hl => exact .replace (by simp [hl])

theorem grows_descend (hc : ∀ {s s'}, change s = some s' → Grows s s') (h : descend change path s = some s') : 
    Grows s s' := by
  cases path <;> unfold descend at h
  case nil => exact hc h
  case cons =>
    split at h
    case h_1 hl => 
      have ⟨_, _, he⟩ := Option.bind_eq_some_iff.mp h
      exact Option.some.inj he ▸ .append hl
    case h_2 hl => 
      have ⟨_, _, he⟩ := Option.bind_eq_some_iff.mp h
      exact Option.some.inj he ▸ .replace (by simp [hl])
    case h_3 hl => 
      have ⟨_, _, he⟩ := Option.bind_eq_some_iff.mp h
      exact Option.some.inj he ▸ .replace (by simp [hl])
    case h_4    => contradiction

theorem lookup_toTable (s : Section) (key : String) : (toTable s).lookup key = (s.lookup key).map Node.toValue := by
  induction s
  case nil          => rfl
  case cons e es hi =>
    rcases e with ⟨k, n⟩
    rw [toTable, List.lookup_cons, List.lookup_cons, hi]
    split <;> rfl

theorem keys_toTable (s : Section) : keys (toTable s) = keys s := by
  induction s
  case nil          => rfl
  case cons e es hi => 
    simp only [keys] at hi
    simp [toTable, keys, hi]

end Section

theorem orRedefined_eq_ok_iff {α : Type} {key : String} {changed : Option α} {a : α} : 
    orRedefined key changed = .ok a ↔ changed = some a := by
  cases changed <;> simp [orRedefined]

namespace Draft

variable {d d' : Draft} {s : Statement} {ns : List (Nat × Statement)}

-- Outside of all tables, a new key is put at the end of the document.
theorem apply_new {root : Section} {w : Word} {name : String} {t : Term} {v : Value} (hk : Statement.KeyWord w name) 
    (ht : t.read = .ok v) (hn : name ∉ keys root) : 
    apply ⟨root, []⟩ (.assign [w] t) = .ok ⟨root ++ [(name, .value v)], []⟩ := by
  rw [apply_assign _ hk ht, Section.descend, Section.assign, Section.lookup_eq_none_iff.mpr hn]
  rfl

-- A statement adds to the document, or it is wrong.
theorem grows_apply (h : d.apply s = .ok d') : Section.Grows d.root d'.root := by
  cases s <;> simp only [apply, Except.bind_eq_ok_iff, orRedefined_eq_ok_iff, Except.pure_eq, Except.ok.injEq] at h
  case assign => 
    obtain ⟨_, _, _, _, _, hr, rfl⟩ := h
    exact Section.grows_descend Section.grows_assign hr
  case header => 
    obtain ⟨_, _, _, hr, rfl⟩ := h
    exact Section.grows_descend Section.grows_openTable hr
  case item   => 
    obtain ⟨_, _, _, hr, rfl⟩ := h
    exact Section.grows_descend Section.grows_openItem hr

theorem grows_applyAll (h : d.applyAll ns = .ok d') : Section.Grows d.root d'.root := by
  induction ns generalizing d
  case nil          => exact Except.ok.inj h ▸ .refl _
  case cons n ns hi =>
    unfold applyAll at h
    split at h
    case h_1    => contradiction
    case h_2 ha => exact (grows_apply ha).trans (hi h)

end Draft
end Rollout.Toml
