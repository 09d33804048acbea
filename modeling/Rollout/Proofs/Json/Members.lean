import Rollout.Json.Document
import Rollout.Proofs.Json.Integer
namespace Rollout.Json

-- What members can hold that nobody knows: texts, switches, nothing, and integers of 64 bits.
inductive Value.Plain : Value → Prop
  | null : Plain .null
  | boolean (b : Bool) : Plain (.boolean b)
  | string (s : String) : Plain (.string s)
  | integer {n : Int} (lower : -(Nat.pow 2 63 : Int) ≤ n) (upper : n < (Nat.pow 2 64 : Int)) : 
    Plain (.number (.ofInt n))

-- Objects that have nothing nested in them.
inductive Value.Shallow : Value → Prop
  | object {ms : List (String × Value)} (members : ∀ m ∈ ms, m.2.Plain) : Shallow (.object ms)

-- The members of an object are some fields in any order, mixed with plain members that have none of the
-- names that are known.
structure Mixes (known : List String) (fields ms : List (String × Value)) : Prop where
  perm : ∃ others, ms.Perm (fields ++ others) ∧ ∀ m ∈ others, m.1 ∉ known ∧ m.2.Plain

-- A field that can be left out if what it holds is usual.
inductive Field (name : String) (Holds : Value → Prop) (usual : Prop) : List (String × Value) → Prop
  | given {v} (holds : Holds v) : Field name Holds usual [(name, v)]
  | omitted (implied : usual) : Field name Holds usual []

variable {known : List String} {fields ms ps : List (String × Value)} {name m : String} {v : Value}
variable {Holds : Value → Prop} {usual : Prop}

theorem Value.Plain.isSound (h : v.Plain) : v.isSound := by
  cases h
  case null               => rfl
  case boolean            => rfl
  case string             => rfl
  case integer n low high => 
    obtain ⟨_, hn, _⟩ := Option.map_eq_some_iff.mp (Numeral.text_ofInt low high)
    simp [Value.isSound, hn]

theorem Value.Plain.depth_eq_zero (h : v.Plain) : v.depth = 0 := by
  cases h <;> rfl

theorem haveSoundValues_iff : Value.haveSoundValues ms ↔ ∀ m ∈ ms, m.2.isSound := by
  induction ms
  case nil          => simp [Value.haveSoundValues]
  case cons m ms hi => simp [Value.haveSoundValues, hi]

theorem depthOfMembers_eq_zero (h : ∀ m ∈ ms, m.2.depth = 0) : Value.depthOfMembers ms = 0 := by
  induction ms
  case nil          => rfl
  case cons m ms hi => 
    have ⟨hm, hms⟩ := List.forall_mem_cons.mp h
    rw [Value.depthOfMembers, hm, hi hms, Nat.max_zero]

theorem Value.Shallow.isSound (h : v.Shallow) : v.isSound := by
  obtain ⟨h⟩ := h
  exact haveSoundValues_iff.mpr fun m hm => (h m hm).isSound

theorem Value.Shallow.depth_eq_one (h : v.Shallow) : v.depth = 1 := by
  obtain ⟨h⟩ := h
  rw [Value.depth, depthOfMembers_eq_zero fun m hm => (h m hm).depth_eq_zero]

theorem lookup_eq_head?_filter (ms : List (String × Value)) (name : String) : 
    ms.lookup name = (ms.filter (·.1 = name)).head?.map (·.2) := by
  induction ms
  case nil          => rfl
  case cons m ms hi =>
    obtain ⟨key, v⟩ := m
    by_cases hk : name = key
    case pos => simp [hk]
    case neg => simp [List.lookup_cons, beq_false_of_ne hk, Ne.symm hk, hi]

-- Of fields with different names at most one has a certain name.
theorem length_filter_le_one (hf : (fields.map (·.1)).Sublist known) (hk : known.Nodup) (name : String) : 
    (fields.filter (·.1 = name)).length ≤ 1 := by
  calc (fields.filter (·.1 = name)).length
    _ = (fields.map (·.1)).count name := by
      rw [List.count, List.countP_map, ← List.countP_eq_length_filter]
      rfl
    _ ≤ known.count name              := hf.count_le name
    _ ≤ 1                             := List.nodup_iff_count.mp hk name

theorem perm_eq_of_length_le_one {l l' : List α} (h : l.Perm l') (hl : l'.length ≤ 1) : l = l' := by
  cases l'
  case nil       => exact h.eq_nil
  case cons a l' =>
    obtain rfl : l' = [] := List.eq_nil_of_length_eq_zero (by simpa using hl)
    exact List.perm_singleton.mp h

namespace Mixes

theorem refl (known : List String) (fields : List (String × Value)) : Mixes known fields fields :=
  ⟨[], by simp, nofun⟩ 

theorem of_reverse (fields : List (String × Value)) (others : List (String × Value)) 
    (h : ∀ m ∈ others, m.1 ∉ known ∧ m.2.Plain) : Mixes known fields (fields ++ others).reverse :=
  ⟨others, List.reverse_perm _, h⟩ 

theorem forall_mem {P : Value → Prop} (h : Mixes known fields ms) (hf : ∀ x ∈ fields, P x.2) 
    (hp : ∀ v : Value, v.Plain → P v) : ∀ x ∈ ms, P x.2 := by
  have ⟨others, perm, ho⟩ := h.perm
  intro x hx
  cases List.mem_append.mp (perm.mem_iff.mp hx)
  case inl hm => exact hf x hm
  case inr hm => exact hp _ (ho x hm).right

section

variable (h : Mixes known fields ms) (hf : (fields.map (·.1)).Sublist known) (hk : known.Nodup)

include h hf hk

-- What is known is only found among the fields.
theorem filter_eq (hn : name ∈ known) : ms.filter (·.1 = name) = fields.filter (·.1 = name) := by
  have ⟨others, perm, ho⟩ := h.perm
  have hp := perm.filter (·.1 = name)
  have hl := length_filter_le_one hf hk name
  have hi : others.filter (·.1 = name) = [] := by
    refine List.filter_eq_nil_iff.mpr fun x hx he => (ho x hx).left ?_
    rwa [decide_eq_true_eq.mp he]
  rw [List.filter_append, hi, List.append_nil] at hp
  exact perm_eq_of_length_le_one hp hl

theorem lookup_eq (hn : name ∈ known) : ms.lookup name = fields.lookup name := by
  rw [lookup_eq_head?_filter, lookup_eq_head?_filter, h.filter_eq hf hk hn]

end

-- Without its first field, an object is still a mixture.
theorem tail (h : Mixes (name :: known) ((name, v) :: fields) ms) (hf : (fields.map (·.1)).Sublist known) 
    (hk : (name :: known).Nodup) : Mixes known fields (ms.filter (·.1 ≠ name)) := by
  have ⟨others, perm, ho⟩ := h.perm
  have hn := (List.nodup_cons.mp hk).left
  have hfs : fields.filter (·.1 ≠ name) = fields := by
    refine List.filter_eq_self.mpr fun x hx => decide_eq_true fun he => hn ?_
    exact hf.subset (he ▸ List.mem_map_of_mem hx)
  have hos : others.filter (·.1 ≠ name) = others := by
    refine List.filter_eq_self.mpr fun x hx => decide_eq_true fun he => (ho x hx).left ?_
    exact he ▸ List.mem_cons_self
  refine ⟨others, ?_, fun x hx => ⟨fun hm => (ho x hx).left (List.mem_cons_of_mem _ hm), (ho x hx).right⟩⟩ 
  have hp := perm.filter (·.1 ≠ name)
  rwa [List.cons_append, List.filter_cons_of_neg (by simp), List.filter_append, hfs, hos] at hp

end Mixes

namespace Field

theorem sublist (h : Field name Holds usual ps) : (ps.map (·.1)).Sublist [name] := by
  cases h <;> simp

theorem forall_mem {P : Value → Prop} (h : Field name Holds usual ps) (hp : ∀ v, Holds v → P v) : 
    ∀ m ∈ ps, P m.2 := by
  cases h
  case given hv => exact List.forall_mem_singleton.mpr (hp _ hv)
  case omitted  => nofun

theorem lookup_of_ne (h : Field name Holds usual ps) (hn : m ≠ name) : ps.lookup m = none := by
  cases h <;> simp [List.lookup_cons, beq_false_of_ne hn]

end Field
end Rollout.Json
