import Rollout.Variable
import Rollout.Proofs.Except
import Rollout.Proofs.LastOf
namespace Rollout.Variables

-- All that is set, in the order in which that happens.
def Inputs.writes (i : Inputs) : List Variable :=
  ofSource .environment i.environment 
    ++ i.files.flatMap (fun (p, pairs) => ofSource (.file p) pairs)
    ++ ofSource .flag i.flags

variable {vs vs' : Variables} {v w : Variable} {writes : List Variable} {i : Inputs}

theorem mem_put_iff : w ∈ (vs.put v).toList ↔ w = v ∨ w ∈ vs.toList ∧ w.name ≠ v.name := by
  unfold put
  dsimp only
  split
  case isTrue h  =>
    have ⟨u, hu, hn⟩ : ∃ u ∈ vs.toList, u.name = v.name := by simpa using h
    rw [List.mem_map]
    constructor
    case mp  =>
      rintro ⟨x, hx, rfl⟩
      split
      case isTrue    => exact .inl rfl
      case isFalse h => exact .inr ⟨hx, h⟩
    case mpr =>
      rintro (rfl | ⟨hw, hn⟩)
      · exact ⟨u, hu, if_pos hn⟩
      · exact ⟨w, hw, if_neg hn⟩
  case isFalse h =>
    have hn : ∀ u ∈ vs.toList, u.name ≠ v.name := by simpa using h
    simp only [List.mem_append, List.mem_singleton]
    constructor
    case mp  =>
      rintro (hw | rfl)
      · exact .inr ⟨hw, hn w hw⟩
      · exact .inl rfl
    case mpr =>
      rintro (rfl | ⟨hw, _⟩)
      · exact .inr rfl
      · exact .inl hw

def names (vs : Variables) : List String :=
  vs.toList.map (·.name)

theorem names_put (vs : Variables) (v : Variable) : 
    (vs.put v).names = if v.name ∈ vs.names then vs.names else vs.names ++ [v.name] := by
  have hm : vs.toList.any (·.name = v.name) ↔ v.name ∈ vs.names := by simp [names]
  have hf : (fun u : Variable => u.name) ∘ (fun w => if w.name = v.name then v else w) = (·.name) := by
    funext u
    by_cases hu : u.name = v.name <;> simp [hu]
  by_cases h : v.name ∈ vs.names
  case pos => rw [if_pos h, put, if_pos (hm.mpr h), names, List.map_map, hf, names]
  case neg => rw [if_neg h, put, if_neg (mt hm.mp h), names, List.map_append, List.map_singleton, names]

theorem nodup_put (h : vs.names.Nodup) : (vs.put v).names.Nodup := by
  rw [names_put]
  split
  case isTrue     => exact h
  case isFalse hn =>
    refine List.nodup_append.mpr ⟨h, by simp, fun a ha b hb => ?_⟩
    rw [List.mem_singleton.mp hb]
    exact ne_of_mem_of_not_mem ha hn

-- What is set last counts.
theorem mem_foldl_put_iff : w ∈ (writes.foldl put vs).toList ↔ 
    LastOf (·.name = w.name) writes w ∨ w ∈ vs.toList ∧ ∀ v ∈ writes, v.name ≠ w.name := by
  induction writes generalizing vs
  case nil            => simp [not_lastOf_nil]
  case cons v rest hi =>
    rw [List.foldl_cons, hi, mem_put_iff, lastOf_cons_iff, List.forall_mem_cons]
    constructor
    case mp  =>
      rintro (hl | ⟨rfl | ⟨hw, hn⟩, hr⟩)
      · exact .inl (.inl hl)
      · exact .inl (.inr ⟨rfl, rfl, hr⟩)
      · exact .inr ⟨hw, Ne.symm hn, hr⟩
    case mpr =>
      rintro ((hl | ⟨rfl, _, hr⟩) | ⟨hw, hn, hr⟩)
      · exact .inl hl
      · exact .inr ⟨.inl rfl, hr⟩
      · exact .inr ⟨.inr ⟨hw, Ne.symm hn⟩, hr⟩

theorem nodup_foldl_put (h : vs.names.Nodup) : (writes.foldl put vs).names.Nodup := by
  induction writes generalizing vs
  case nil       => exact h
  case cons _ hi => exact hi (nodup_put h)

theorem extend_of_named (h : ∀ v ∈ writes, Text.isBlank v.name = false) : 
    vs.extend writes = (writes.foldl put vs, .ok ()) := by
  induction writes generalizing vs
  case nil            => rfl
  case cons v rest hi =>
    have ⟨hv, hr⟩ := List.forall_mem_cons.mp h
    simp [extend, insert, hv, hi hr]

theorem extend_of_unnamed (h : ∃ v ∈ writes, Text.isBlank v.name) : 
    ∃ vs' e, vs.extend writes = (vs', .error e) := by
  induction writes generalizing vs
  case nil            => simp at h
  case cons v rest hi =>
    cases hv : Text.isBlank v.name
    case true  => simp [extend, insert, hv]
    case false =>
      have hr : ∃ v ∈ rest, Text.isBlank v.name := by simpa [hv] using h
      simpa [extend, insert, hv] using hi hr

theorem extend_append (vs : Variables) (before after : List Variable) : 
    vs.extend (before ++ after) = 
      match vs.extend before with
      | (vs, .ok ())   => vs.extend after
      | (vs, .error e) => (vs, .error e) := by
  induction before generalizing vs
  case nil            => rfl
  case cons v rest hi =>
    rw [List.cons_append, extend, extend]
    cases vs.insert v
    case error => rfl
    case ok vs => exact hi vs

theorem whole_extend_append (vs : Variables) (before after : List Variable) : 
    whole (vs.extend (before ++ after)) = whole (vs.extend before) >>= fun vs => whole (vs.extend after) := by
  rw [extend_append]
  split
  case h_1 vs he   => rw [he, whole, Except.ok_bind]
  case h_2 vs e he => rw [he, whole, Except.error_bind]

theorem foldlM_files (vs : Variables) (files : List (Path × List (String × String))) : 
    files.foldlM (fun vs (p, pairs) => whole (vs.extendFrom (.file p) pairs)) vs = 
      whole (vs.extend (files.flatMap fun (p, pairs) => ofSource (.file p) pairs)) := by
  induction files generalizing vs
  case nil            => rfl
  case cons file _ hi =>
    rw [List.foldlM_cons, List.flatMap_cons, whole_extend_append]
    exact bind_congr hi

-- One source after the other is merged as if all of them were one.
theorem merge_eq (i : Inputs) : merge i = whole (empty.extend i.writes) := by
  rw [Inputs.writes, whole_extend_append, whole_extend_append, bind_assoc, merge]
  refine bind_congr fun vs => ?_
  rw [foldlM_files]
  rfl

theorem merge_eq_ok (h : merge i = .ok vs) : vs = i.writes.foldl put .empty := by
  rw [merge_eq] at h
  by_cases hn : ∀ v ∈ i.writes, Text.isBlank v.name = false
  case pos =>
    rw [extend_of_named hn] at h
    exact (Except.ok.inj h).symm
  case neg =>
    have hb : ∃ v ∈ i.writes, Text.isBlank v.name := by simpa using hn
    have ⟨_, _, he⟩ : ∃ vs' e, Variables.empty.extend i.writes = (vs', .error e) := extend_of_unnamed hb
    rw [he] at h
    cases h

theorem mem_of_merge (h : merge i = .ok vs) : 
    v ∈ vs.toList ↔ LastOf (·.name = v.name) i.writes v := by
  rw [merge_eq_ok h, mem_foldl_put_iff]
  simp [empty]

theorem nodup_of_merge (h : merge i = .ok vs) : vs.names.Nodup := by
  rw [merge_eq_ok h]
  exact nodup_foldl_put (by simp [names, empty])

-- What one source sets is what it sets by itself.
theorem lastOf_ofSource_iff {source : VariableSource} {pairs : List (String × String)} : 
    LastOf (·.name = v.name) (ofSource source pairs) v ↔ 
      source = v.source ∧ LastOf (·.1 = v.name) pairs (v.name, v.value) := by
  rw [ofSource, lastOf_map_iff]
  constructor
  case mp  =>
    rintro ⟨⟨_, _⟩, hl, rfl⟩
    exact ⟨rfl, hl⟩
  case mpr =>
    rintro ⟨rfl, hl⟩
    exact ⟨_, hl, rfl⟩

theorem exists_ofSource_iff (source : VariableSource) {pairs : List (String × String)} {name : String} : 
    (∃ v ∈ ofSource source pairs, v.name = name) ↔ ∃ value, (name, value) ∈ pairs := by
  simp [ofSource]

end Rollout.Variables
