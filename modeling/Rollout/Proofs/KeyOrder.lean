import Mathlib.Data.String.Basic
import Rollout.KeyOrder
namespace Rollout.KeyOrder

variable {α : Type} {key : String} {v : α} {table pairs : List (String × α)}

-- An order in which any two elements can be compared, and only equal ones stand on the same place.
structure Linear (le : α → α → Bool) : Prop where
  trans    : ∀ a b c, le a b → le b c → le a c
  total    : ∀ a b, le a b || le b a
  antisymm : ∀ a b, le a b → le b a → a = b

namespace Linear

variable {le : α → α → Bool} {l l' : List α}

theorem refl (o : Linear le) (a : α) : le a a := by
  simpa using o.total a a

theorem pairwise (o : Linear le) (l : List α) : (l.mergeSort le).Pairwise (le · ·) :=
  List.pairwise_mergeSort o.trans o.total l

-- Sorted lists do not tell in which order their elements were given.
theorem mergeSort_eq (o : Linear le) (h : l.Perm l') : l.mergeSort le = l'.mergeSort le := by
  refine List.Perm.eq_of_pairwise (fun a b _ _ => o.antisymm a b) (o.pairwise l) (o.pairwise l') ?_
  exact (List.mergeSort_perm l le).trans (h.trans (List.mergeSort_perm l' le).symm)

end Linear

theorem linear_pairLe : Linear pairLe where
  trans a b c hab hbc := by
    simp only [pairLe, Bool.or_eq_true, Bool.and_eq_true, decide_eq_true_eq] at *
    obtain hab | ⟨hab, hab'⟩ := hab <;> obtain hbc | ⟨hbc, hbc'⟩ := hbc
    · exact .inl (String.lt_trans hab hbc)
    · exact .inl (hbc ▸ hab)
    · exact .inl (hab ▸ hbc)
    · exact .inr ⟨hab.trans hbc, String.le_trans hab' hbc'⟩
  total a b := by
    simp only [pairLe, Bool.or_eq_true, Bool.and_eq_true, decide_eq_true_eq]
    obtain h | h | h := lt_trichotomy a.1 b.1
    · exact .inl (.inl h)
    · cases String.le_total a.2 b.2
      case inl hv => exact .inl (.inr ⟨h, hv⟩)
      case inr hv => exact .inr (.inr ⟨h.symm, hv⟩)
    · exact .inr (.inl h)
  antisymm a b hab hba := by
    simp only [pairLe, Bool.or_eq_true, Bool.and_eq_true, decide_eq_true_eq] at *
    obtain hab | ⟨hab, hab'⟩ := hab <;> obtain hba | ⟨hba, hba'⟩ := hba
    · exact absurd hba (String.lt_asymm hab)
    · exact absurd (hba ▸ hab) (String.lt_irrefl _)
    · exact absurd (hab ▸ hba) (String.lt_irrefl _)
    · exact Prod.ext hab (String.le_antisymm hab' hba')

-- The names of a table, which stand in it in ascending order.
def keys (table : List (String × α)) : List String :=
  table.map (·.1)

theorem keys_append (table table' : List (String × α)) : keys (table ++ table') = keys table ++ keys table' :=
  List.map_append

theorem keys_map {β : Type} (f : α → β) (table : List (String × α)) : 
    keys (table.map fun (k, v) => (k, f v)) = keys table := by
  simp [keys, Function.comp_def]

theorem mem_keys_insert {k : String} (h : k ∈ keys (insert key v table)) : k = key ∨ k ∈ keys table := by
  induction table
  case nil            => simpa [insert, keys] using h
  case cons p rest hi => 
    simp only [insert] at h
    split at h
    case isTrue he  => simpa [keys, he] using h
    case isFalse hn =>
      split at h
      case isTrue  => simpa [keys] using h
      case isFalse =>
        cases List.mem_cons.mp h
        case inl h => exact .inr (h ▸ List.mem_cons_self)
        case inr h => exact (hi h).imp_right (List.mem_cons_of_mem _)

theorem pairwise_insert (h : (keys table).Pairwise (· < ·)) : 
    (keys (insert key v table)).Pairwise (· < ·) := by
  induction table
  case nil            => simp [insert, keys]
  case cons p rest hi => 
    have ⟨hp, hr⟩ := List.pairwise_cons.mp h
    simp only [insert]
    split
    case isTrue he  => exact List.pairwise_cons.mpr ⟨he ▸ hp, hr⟩
    case isFalse hn =>
      split
      case isTrue hlt  => 
        refine List.pairwise_cons.mpr ⟨List.forall_mem_cons.mpr ⟨hlt, fun k hk => ?_⟩, h⟩
        exact String.lt_trans hlt (hp k hk)
      case isFalse hge => 
        refine List.pairwise_cons.mpr ⟨fun k hk => ?_, hi hr⟩
        cases mem_keys_insert hk
        case inl hk => exact hk ▸ lt_of_le_of_ne (String.not_lt.mp hge) (Ne.symm hn)
        case inr hk => exact hp k hk

theorem pairwise_ofList (pairs : List (String × α)) : (keys (ofList pairs)).Pairwise (· < ·) := by
  suffices h : ∀ table, (keys table).Pairwise (· < ·) → 
      (keys (pairs.foldl (fun table (key, v) => insert key v table) table)).Pairwise (· < ·) from h [] .nil
  induction pairs
  case nil            => exact fun _ h => h
  case cons p rest hi => exact fun _ h => hi _ (pairwise_insert h)

theorem nodup_ofList (pairs : List (String × α)) : (keys (ofList pairs)).Nodup :=
  (pairwise_ofList pairs).imp String.ne_of_lt

-- A name that is new adds to a table, wherever its place is.
theorem perm_insert (h : key ∉ keys table) : (insert key v table).Perm ((key, v) :: table) := by
  induction table
  case nil            => exact .refl _
  case cons p rest hi => 
    rcases p with ⟨k, old⟩
    simp only [keys, List.map_cons, List.mem_cons, not_or] at h
    simp only [insert, if_neg h.left]
    split
    case isTrue  => exact .refl _
    case isFalse => exact ((hi h.right).cons _).trans (.swap ..)

theorem perm_ofList (h : (keys pairs).Nodup) : (ofList pairs).Perm pairs := by
  suffices hs : ∀ table, (keys (pairs ++ table)).Nodup → 
      (pairs.foldl (fun table (key, v) => insert key v table) table).Perm (pairs ++ table) by 
    simpa [ofList] using hs [] (by simpa using h)
  clear h
  induction pairs
  case nil            => exact fun _ _ => .refl _
  case cons p rest hi => 
    intro table ht
    rcases p with ⟨k, v⟩
    have ⟨hk, _⟩ := List.nodup_cons.mp ht
    have hp : (insert k v table).Perm ((k, v) :: table) := 
      perm_insert fun hm => hk (by simp [keys] at hm ⊢; exact .inr hm)
    have ht' : (keys (rest ++ insert k v table)).Nodup := by
      refine (List.Perm.nodup_iff ?_).mpr ht
      exact (((hp.append_left rest).trans List.perm_middle)).map _
    exact (hi _ ht').trans ((hp.append_left rest).trans List.perm_middle)

-- The order in which distinct names are given does not matter.
theorem ofList_of_perm {pairs' : List (String × α)} (h : (keys pairs).Nodup) (hp : pairs'.Perm pairs) : 
    ofList pairs' = ofList pairs := by
  have h' : (keys pairs').Nodup := (hp.map _).nodup_iff.mpr h
  have hf := (perm_ofList h').trans (hp.trans (perm_ofList h).symm)
  have hl (table : List (String × α)) : (ofList table).Pairwise (·.1 < ·.1) := 
    List.pairwise_map.mp (pairwise_ofList table)
  exact hf.eq_of_pairwise (fun a b _ _ hab hba => absurd hba (String.lt_asymm hab)) (hl pairs') (hl pairs)

theorem insert_map {β : Type} (f : α → β) : 
    insert key (f v) (table.map fun (k, v) => (k, f v)) = (insert key v table).map fun (k, v) => (k, f v) := by
  induction table
  case nil         => rfl
  case cons p _ hi => 
    rcases p with ⟨k, old⟩
    simp only [insert, List.map_cons]
    split_ifs <;> simp [hi]

-- Values are not looked at.
theorem ofList_map {β : Type} (f : α → β) (pairs : List (String × α)) : 
    ofList (pairs.map fun (k, v) => (k, f v)) = (ofList pairs).map fun (k, v) => (k, f v) := by
  suffices hs : ∀ table : List (String × α), 
      (pairs.map fun (k, v) => (k, f v)).foldl (fun table (key, v) => insert key v table) 
        (table.map fun (k, v) => (k, f v)) = 
      (pairs.foldl (fun table (key, v) => insert key v table) table).map fun (k, v) => (k, f v) from hs []
  induction pairs
  case nil            => exact fun _ => rfl
  case cons p rest hi => 
    intro table
    simp only [List.map_cons, List.foldl_cons, insert_map, hi]

-- Lists with the same names in the same order, whose values go together.
inductive Valuewise {β : Type} (r : α → β → Prop) : List (String × α) → List (String × β) → Prop
  | nil : Valuewise r [] []
  | cons {key v w l l'} (value : r v w) (others : Valuewise r l l') : Valuewise r ((key, v) :: l) ((key, w) :: l')

namespace Valuewise

variable {β γ : Type} {r : α → β → Prop} {table' : List (String × β)}

theorem keys_eq (h : Valuewise r table table') : keys table' = keys table := by
  induction h
  case nil            => rfl
  case cons key _ _ _ _ _ _ hi => exact congrArg (key :: ·) hi

theorem exists_of_mem (h : Valuewise r table table') (hm : (key, v) ∈ table) : ∃ w, r v w ∧ (key, w) ∈ table' := by
  induction h
  case nil           => contradiction
  case cons hr _ hi =>
    cases List.mem_cons.mp hm
    case inl he => 
      cases he
      exact ⟨_, hr, List.mem_cons_self⟩
    case inr hm => 
      obtain ⟨w, hw, hm⟩ := hi hm
      exact ⟨w, hw, List.mem_cons_of_mem _ hm⟩

theorem of_map {f : γ → α} {g : γ → β} {l : List (String × γ)} (h : ∀ e ∈ l, r (f e.2) (g e.2)) : 
    Valuewise r (l.map fun (k, a) => (k, f a)) (l.map fun (k, a) => (k, g a)) := by
  induction l
  case nil         => exact .nil
  case cons e l hi => 
    have ⟨he, hl⟩ := List.forall_mem_cons.mp h
    exact .cons he (hi hl)

end Valuewise
end Rollout.KeyOrder
