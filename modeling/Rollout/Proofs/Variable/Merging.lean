import Mathlib.Data.List.Nodup
import Rollout.Proofs.Except
import Rollout.Proofs.Variable
namespace Rollout.Variables

variable {vs : Variables} {v : Variable} {writes before after : List Variable} {i : Inputs}
variable {source : VariableSource} {name : String}

-- What a list of writes comes to: each name once, in the place where it came up first, and with what 
-- was written last.
structure Merged (writes : List Variable) (vs : Variables) : Prop where
  names : vs.names = (writes.map (·.name)).eraseDups
  held  : ∀ v, v ∈ vs.toList ↔ LastOf (·.name = v.name) writes v
  -- A name never leads to a variable of another name.
  found : ∀ name v, vs.get? name = some v ↔ LastOf (·.name = name) writes v

theorem eraseDups_of_nodup {l : List String} (h : l.Nodup) : l.eraseDups = l := by
  induction l
  case nil         => rfl
  case cons a l hi =>
    have ⟨ha, hl⟩ := List.nodup_cons.mp h
    have hf : l.filter (!· == a) = l := List.filter_eq_self.mpr fun b hb => by
      simpa using ne_of_mem_of_not_mem hb ha
    rw [List.eraseDups_cons, hf, hi hl]

theorem names_foldl_put (h : vs.names.Nodup) : 
    (writes.foldl put vs).names = (vs.names ++ writes.map (·.name)).eraseDups := by
  induction writes generalizing vs
  case nil            => simpa using (eraseDups_of_nodup h).symm
  case cons v rest hi =>
    rw [List.foldl_cons, hi (nodup_put h), names_put, List.map_cons]
    split
    case isFalse   => rw [List.append_assoc, List.singleton_append]
    case isTrue hm =>
      have hr : (v.name :: rest.map (·.name)).removeAll vs.names = (rest.map (·.name)).removeAll vs.names := by
        simp [List.removeAll, hm]
      rw [List.eraseDups_append, List.eraseDups_append, hr]

theorem eq_of_name_eq (h : vs.names.Nodup) (hv : v ∈ vs.toList) (hw : w ∈ vs.toList) 
    (hn : v.name = w.name) : v = w :=
  List.inj_on_of_nodup_map h hv hw hn

theorem get?_eq_some_iff (h : vs.names.Nodup) : 
    vs.get? name = some v ↔ v ∈ vs.toList ∧ v.name = name := by
  unfold get?
  constructor
  case mp  => exact fun hf => ⟨List.mem_of_find?_eq_some hf, by simpa using List.find?_some hf⟩
  case mpr =>
    rintro ⟨hm, rfl⟩
    have hs : (vs.toList.find? (·.name = v.name)).isSome := List.find?_isSome.mpr ⟨v, hm, by simp⟩
    have ⟨w, hw⟩ := Option.isSome_iff_exists.mp hs
    have hn : w.name = v.name := by simpa using List.find?_some hw
    rw [hw, eq_of_name_eq h (List.mem_of_find?_eq_some hw) hm hn]

theorem lastOf_toList_iff (h : vs.names.Nodup) : LastOf (·.name = v.name) vs.toList v ↔ v ∈ vs.toList := by
  rw [lastOf_iff_of_unique fun a ha b hb hn hn' => eq_of_name_eq h ha hb (hn.trans hn'.symm)]
  exact and_iff_left rfl

-- Whatever a set holds counts as written before.
theorem merged_foldl_put (h : vs.names.Nodup) : Merged (vs.toList ++ writes) (writes.foldl put vs) := by
  have held v : v ∈ (writes.foldl put vs).toList ↔ LastOf (·.name = v.name) (vs.toList ++ writes) v := by
    rw [mem_foldl_put_iff, lastOf_append_iff, lastOf_toList_iff h]
  refine ⟨?names, held, ?found⟩
  case names => rw [names_foldl_put h, List.map_append, names]
  case found =>
    intro name v
    rw [get?_eq_some_iff (nodup_foldl_put h), held]
    constructor
    case mp  => rintro ⟨hl, rfl⟩; exact hl
    case mpr => 
      intro hl
      cases hl.holds
      exact ⟨hl, rfl⟩

-- What is set is what stands in front of the first variable without a name.
theorem extend_eq (vs : Variables) (writes : List Variable) : 
    vs.extend writes = 
      ((writes.takeWhile (!Text.isBlank ·.name)).foldl put vs,
        match writes.find? (Text.isBlank ·.name) with
        | some v => .error (.emptyName v.source)
        | none   => .ok ()) := by
  induction writes generalizing vs
  case nil            => rfl
  case cons v rest hi => cases hv : Text.isBlank v.name <;> simp [extend, insert, hv, hi]

theorem merge_of_unnamed (h : i.writes.find? (Text.isBlank ·.name) = some v) : 
    merge i = .error (.emptyName v.source) := by
  rw [merge_eq, extend_eq, h, whole]

theorem merge_of_named (h : i.writes.find? (Text.isBlank ·.name) = none) : 
    merge i = .ok (i.writes.foldl put .empty) := by
  have hn : ∀ v ∈ i.writes, Text.isBlank v.name = false := by simpa using List.find?_eq_none.mp h
  rw [merge_eq, extend_of_named hn, whole]

-- What it means to set the variables of one source in a set.
structure Extends (vs : Variables) (source : VariableSource) (pairs : List (String × String)) : Prop where
  result : (vs.extendFrom source pairs).2 = 
    if ∃ pair ∈ pairs, Text.isBlank pair.1 then .error (.emptyName source) else .ok ()
  -- What stays set is what all of the variables come to, or those in front of the first one without 
  -- a name.
  merged : vs.names.Nodup → 
    Merged (vs.toList ++ ofSource source (pairs.takeWhile (!Text.isBlank ·.1))) (vs.extendFrom source pairs).1
  -- They can be set in two goes, of which the second one is not made if the first one fails.
  append : ∀ more, vs.extendFrom source (pairs ++ more) = 
    match vs.extendFrom source pairs with
    | (vs, .ok ())   => vs.extendFrom source more
    | (vs, .error e) => (vs, .error e)

theorem find?_ofSource (source : VariableSource) (pairs : List (String × String)) : 
    (ofSource source pairs).find? (Text.isBlank ·.name) = 
      (pairs.find? (Text.isBlank ·.1)).map fun (name, value) => ⟨name, value, source⟩ := 
  List.find?_map

theorem result_extendFrom (vs : Variables) (source : VariableSource) (pairs : List (String × String)) : 
    (vs.extendFrom source pairs).2 = 
      if ∃ pair ∈ pairs, Text.isBlank pair.1 then .error (.emptyName source) else .ok () := by
  rw [extendFrom, extend_eq, find?_ofSource]
  cases hf : pairs.find? (Text.isBlank ·.1)
  case none      => simpa using List.find?_eq_none.mp hf
  case some pair => 
    have hb := List.find?_some hf
    rw [if_pos ⟨pair, List.mem_of_find?_eq_some hf, hb⟩, Option.map_some]

theorem merged_extendFrom (h : vs.names.Nodup) (source : VariableSource) (pairs : List (String × String)) : 
    Merged (vs.toList ++ ofSource source (pairs.takeWhile (!Text.isBlank ·.1))) (vs.extendFrom source pairs).1 := by
  rw [extendFrom, extend_eq, ofSource, ofSource, List.takeWhile_map]
  exact merged_foldl_put h

theorem extends_extendFrom (vs : Variables) (source : VariableSource) (pairs : List (String × String)) : 
    Extends vs source pairs where
  result      := result_extendFrom vs source pairs
  merged h    := merged_extendFrom h source pairs
  append more := by 
    rw [extendFrom, ofSource, List.map_append, extend_append]
    rfl

-- The variables of a command are what all writes come to, in the order in which they are made. The 
-- first one without a name is refused, with its source.
theorem merged_in_full (i : Inputs) : 
    (match i.writes.find? (Text.isBlank ·.name) with
      | some v => merge i = .error (.emptyName v.source)
      | none   => ∃ vs, merge i = .ok vs ∧ Merged i.writes vs) ∧
    ∀ vs source pairs, Extends vs source pairs := by
  refine ⟨?_, extends_extendFrom⟩ 
  split
  case h_1 v hf => exact merge_of_unnamed hf
  case h_2 hf   => 
    have hm : Merged (empty.toList ++ i.writes) (i.writes.foldl put empty) := merged_foldl_put List.nodup_nil
    exact ⟨_, merge_of_named hf, hm⟩ 

-- A name with a blank in front is another name. Of three more variables, the first one stays set.
theorem merged_in_full_repeated : 
    let i : Inputs := ⟨[("A", "1"), ("B", "2")], [(⟨"/vars"⟩, [("A", "3"), (" B", "4")])], [("B", "5")]⟩ 
    ∃ vs, merge i = .ok vs ∧ Merged i.writes vs ∧ vs.names = ["A", "B", " B"] ∧ 
      Extends vs .flag [("C", "6"), ("\t", "7"), ("D", "8")] ∧ 
      (vs.extendFrom .flag [("C", "6"), ("\t", "7"), ("D", "8")]).1 = vs.put ⟨"C", "6", .flag⟩ := by
  intro i
  have ⟨hi, he⟩ := merged_in_full i
  have ⟨vs, hm, hw⟩ : ∃ vs, merge i = .ok vs ∧ Merged i.writes vs := hi
  exact ⟨vs, hm, hw, hw.names, he vs .flag _, rfl⟩ 

variable {e : VariableError} {env flags : List (String × String)} 
variable {files : List (Path × List (String × String))}

theorem merge_eq_error_iff : 
    merge i = .error e ↔ ∃ v, i.writes.find? (Text.isBlank ·.name) = some v ∧ e = .emptyName v.source := by
  cases hf : i.writes.find? (Text.isBlank ·.name)
  case none   => simp [merge_of_named hf]
  case some v => simp [merge_of_unnamed hf, eq_comm]

-- The environment is looked at first.
theorem writes_eq : 
    Inputs.writes ⟨env, files, flags⟩ = ofSource .environment env ++ Inputs.writes ⟨[], files, flags⟩ := by
  simp [Inputs.writes, ofSource]

theorem source_ne_environment {v : Variable} (h : v ∈ Inputs.writes ⟨[], files, flags⟩) : 
    v.source ≠ .environment := by
  simp only [Inputs.writes, ofSource, List.mem_append, List.mem_flatMap, List.mem_map] at h
  obtain (⟨_, hm, _⟩ | ⟨_, _, _, _, rfl⟩) | ⟨_, _, rfl⟩ := h
  case inl.inl => cases hm
  case inl.inr => simp
  case inr     => simp

theorem merge_of_blank (h : ∃ pair ∈ env, Text.isBlank pair.1) : 
    merge ⟨env, files, flags⟩ = .error (.emptyName .environment) := by
  have ⟨pair, hf⟩ := Option.isSome_iff_exists.mp (List.find?_isSome.mpr h)
  rw [merge_of_unnamed (v := ⟨pair.1, pair.2, .environment⟩)]
  rw [writes_eq, List.find?_append, find?_ofSource, hf, Option.map_some, Option.some_or]

theorem merge_eq_error_iff_of_named (h : ∀ pair ∈ env, Text.isBlank pair.1 = false) : 
    merge ⟨env, files, flags⟩ = .error e ↔ merge ⟨[], files, flags⟩ = .error e := by
  have hn : env.find? (Text.isBlank ·.1) = none := 
    List.find?_eq_none.mpr fun pair hp => by simp [h pair hp]
  rw [merge_eq_error_iff, merge_eq_error_iff, writes_eq, List.find?_append, find?_ofSource, hn, 
    Option.map_none, Option.none_or]

theorem map_merge_of_named (h : ∀ pair ∈ env, Text.isBlank pair.1 = false) 
    (files : List (Path × List (String × String))) (flags : List (String × String)) : 
    (merge ⟨env, files, flags⟩).map (fun _ => ()) = (merge ⟨[], files, flags⟩).map fun _ => () :=
  Except.map_unit_eq_iff.mpr fun _ => merge_eq_error_iff_of_named h

theorem merge_eq_environment_iff : 
    merge ⟨env, files, flags⟩ = .error (.emptyName .environment) ↔ ∃ pair ∈ env, Text.isBlank pair.1 := by
  refine ⟨fun h => ?_, merge_of_blank⟩ 
  by_contra hn
  have named : ∀ pair ∈ env, Text.isBlank pair.1 = false := by simpa using hn
  have ⟨v, hf, hs⟩ := merge_eq_error_iff.mp ((merge_eq_error_iff_of_named named).mp h)
  exact source_ne_environment (List.mem_of_find?_eq_some hf) (VariableError.emptyName.inj hs).symm

end Rollout.Variables
