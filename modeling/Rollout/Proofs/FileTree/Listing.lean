import Mathlib.Data.List.Basic
import Rollout.FileTree
import Rollout.Proofs.Except
namespace Rollout.FileTree

-- A tree in which the same things stand at the same places. Only the order in which its directories
-- list their names may be another one.
structure Relisted (t t' : FileTree) : Prop where
  here  : t'.here = t.here
  node? : ∀ loc, t'.node? loc = t.node? loc
  names : ∀ loc, (t'.names loc).Perm (t.names loc)

variable {t t' : FileTree}

theorem lookup_eq_some_iff_mem {nodes : List (Location × Node)} {loc : Location} {n : Node} 
    (h : (nodes.map (·.1)).Nodup) : nodes.lookup loc = some n ↔ (loc, n) ∈ nodes := by
  rw [List.lookup_eq_some_iff]
  constructor
  case mp  =>
    rintro ⟨before, after, rfl, _⟩
    simp
  case mpr =>
    intro hm
    obtain ⟨before, after, rfl⟩ := List.mem_iff_append.mp hm
    refine ⟨before, after, rfl, fun p hp => ?_⟩
    rw [List.map_append, List.nodup_append] at h
    have hne := h.right.right p.1 (List.mem_map_of_mem hp) loc (by simp)
    exact bne_iff_ne.mpr hne.symm

-- Any order will do for the nodes of a tree, if they stand at different places.
theorem relisted_of_perm (hd : (t.nodes.map (·.1)).Nodup) (hp : t'.nodes.Perm t.nodes) 
    (hh : t'.here = t.here) : Relisted t t' where
  here      := hh
  node? loc := by
    cases loc
    case nil            => rfl
    case cons name loc' =>
      have hd' : (t'.nodes.map (·.1)).Nodup := (hp.map _).nodup_iff.mpr hd
      refine Option.ext fun n => ?_
      simp only [FileTree.node?]
      rw [lookup_eq_some_iff_mem hd, lookup_eq_some_iff_mem hd', hp.mem_iff]
  names loc := hp.filterMap _

namespace Relisted

theorem walk (r : Relisted t t') (loc : Location) (segs : List String) : 
    t'.walk loc segs = t.walk loc segs := by
  induction segs generalizing loc
  case nil         => rfl
  case cons _ _ hi => simp only [FileTree.walk, r.node?, hi]

theorem locate (r : Relisted t t') (p : Path) : t'.locate p = t.locate p := by
  simp only [FileTree.locate, start, r.here, r.walk]

theorem find (r : Relisted t t') (p : Path) : t'.find p = t.find p := by
  simp only [FileTree.find, r.locate, r.node?]

theorem read (r : Relisted t t') (p : Path) : t'.read p = t.read p := by
  simp only [FileTree.read, r.find]

theorem isFile (r : Relisted t t') (p : Path) : t'.isFile p = t.isFile p := by
  simp only [FileTree.isFile, r.find]

-- Both listings fail alike, or they hold the same names.
theorem list (r : Relisted t t') (p : Path) : 
    (∃ e, t.list p = .error e ∧ t'.list p = .error e) ∨ 
      ∃ names names', t.list p = .ok names ∧ t'.list p = .ok names' ∧ names'.Perm names := by
  simp only [FileTree.list, r.locate]
  cases t.locate p
  case error e => exact .inl ⟨e, rfl, rfl⟩
  case ok loc  =>
    simp only [Except.ok_bind, r.node?]
    match t.node? loc with
    | none            => exact .inl ⟨_, rfl, rfl⟩
    | some (.file _)  => exact .inl ⟨_, rfl, rfl⟩
    | some .directory => exact .inr ⟨_, _, rfl, rfl, r.names loc⟩

end Relisted
end Rollout.FileTree
