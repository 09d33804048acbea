import Rollout.Proofs.FileTree
namespace Rollout.FileTree

variable {t t' : FileTree} {p : Path} {loc loc' next place : Location} {seg : String} {segs : List String}

theorem isFile_iff : t.isFile p ↔ ∃ loc c, t.locate p = .ok loc ∧ t.node? loc = some (.file c) := by
  unfold isFile find
  cases t.locate p
  case error  => simp
  case ok loc =>
    match hn : t.node? loc with
    | none            => simp [hn]
    | some .directory => simp [hn]
    | some (.file _)  => simp [hn]

theorem isFile_congr (hl : t'.locate p = t.locate p) 
    (hn : ∀ loc, t.locate p = .ok loc → t'.node? loc = t.node? loc) : t'.isFile p = t.isFile p := by
  unfold isFile find
  rw [hl]
  cases hc : t.locate p
  case error => rfl
  case ok    => simp [hn _ hc]

theorem suffix_of_move (hd : seg ≠ "..") (h : move loc seg = .ok next) : loc <:+ next := by
  unfold move at h
  split_ifs at h
  case pos => exact Except.ok.inj h ▸ List.suffix_refl _
  case neg => exact Except.ok.inj h ▸ List.suffix_cons _ _

theorem length_of_move (h : move loc seg = .ok next) : next.length ≤ loc.length + 1 := by
  unfold move at h
  split_ifs at h <;> cases h <;> simp
  omega

theorem suffix_foldl_step (hd : ".." ∉ segs) (loc : Location) : loc <:+ segs.foldl placeOf.step loc :=
  foldl_step hd loc ▸ List.suffix_append _ _

-- Without steps back, a walk meets nothing but what is on the way to its end.
theorem walk_congr (hd : ".." ∉ segs) 
    (hn : ∀ place, loc <:+ place → place <:+ segs.foldl placeOf.step loc → t'.node? place = t.node? place) : 
    t'.walk loc segs = t.walk loc segs := by
  induction segs generalizing loc
  case nil              => rfl
  case cons seg segs hi =>
    have hl := hn loc (List.suffix_refl _) (suffix_foldl_step hd loc)
    rw [List.mem_cons, not_or] at hd
    match hc : t.node? loc with
    | none            => rw [walk_of_none hc, walk_of_none (hl.trans hc)]
    | some (.file _)  => rw [walk_of_file hc, walk_of_file (hl.trans hc)]
    | some .directory => 
      rw [walk_of_directory hc, walk_of_directory (hl.trans hc)]
      cases hm : move loc seg
      case error   => rfl
      case ok next => 
        rw [List.foldl_cons, step_of_move hm] at hn
        exact hi hd.right fun place hp => hn place ((suffix_of_move (Ne.symm hd.left) hm).trans hp)

-- Nothing but directories leads to a directory.
theorem directory_of_walk (hd : ".." ∉ segs) (hw : t.walk loc segs = .ok loc') 
    (hn : t.node? loc' = some .directory) (hl : loc <:+ place) (hp : place <:+ loc') : 
    t.node? place = some .directory := by
  induction segs generalizing loc
  case nil              => 
    cases hw
    rwa [hp.eq_of_length_le hl.length_le]
  case cons seg segs hi =>
    rw [List.mem_cons, not_or] at hd
    have ⟨next, hc, hm, hw⟩ := exists_move_of_walk hw
    by_cases he : place = loc
    case pos => rwa [he]
    case neg =>
      refine hi hd.right hw ?_
      have hs : next <:+ loc' := foldl_step_of_walk hw ▸ suffix_foldl_step hd.right next
      have hlt : loc.length < place.length := 
        Nat.lt_of_le_of_ne hl.length_le fun hlen => he (hl.eq_of_length hlen).symm
      exact List.suffix_of_suffix_length_le hs hp (Nat.le_trans (length_of_move hm) hlt)

end Rollout.FileTree
