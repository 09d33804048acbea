import Rollout.Proofs.FileTree.Rooted
namespace Rollout.FileTree

variable {t t' : FileTree} {dir : Path} {name name' : String} {loc place : Location} 
variable {ds : List Location}

-- Paths that lead to different places, whatever the tree holds.
def Apart (p q : Path) : Prop :=
  ∀ t loc, locate t p = .ok loc → locate t q ≠ .ok loc

theorem check_join_ne (hn : Path.IsName name) (dir : Path) : 
    check (dir.join ⟨name⟩) ≠ .error .notFound := by
  have ht : (dir.join ⟨name⟩).text ≠ "" := by
    intro ht
    have hs := Path.segments_join hn dir
    simp [Path.segments, ht, Path.pieces, List.singleton_eq_append_iff] at hs
    exact hn.ne_empty hs.right
  unfold check
  split_ifs <;> simp_all

-- Without NUL, nothing but its size is in the way of a path.
theorem check_join_iff (hn : Path.IsName name) (hd : '\x00' ∉ dir.text.toList) (h0 : '\x00' ∉ name.toList) : 
    check (dir.join ⟨name⟩) = .ok () ↔ (dir.join ⟨name⟩).text.utf8ByteSize < tooLong := by
  have hj : '\x00' ∉ (dir.join ⟨name⟩).text.toList := by
    have ⟨between, hb, ht⟩ := Path.text_join hn dir
    have hb : '\x00' ∉ between.toList := by obtain rfl | rfl := hb <;> decide
    simp [ht, hd, hb, h0]
  have hne := check_join_ne hn dir
  unfold check at hne ⊢ 
  rw [if_neg (by simpa using hj)] at hne ⊢ 
  split_ifs at hne ⊢ 
  case pos => contradiction
  case pos => exact iff_of_false nofun (by omega)
  case neg => exact iff_of_true rfl (by omega)

theorem check_join (hn : Path.IsName name) (hc : check dir = .ok ()) 
    (h0 : '\x00' ∉ name.toList) (hl : dir.text.utf8ByteSize + 1 + name.utf8ByteSize < tooLong) : 
    check (dir.join ⟨name⟩) = .ok () := by
  have hd : '\x00' ∉ dir.text.toList := by
    intro hm
    simp [check, hm] at hc
  have hs := Path.utf8ByteSize_join_le hn dir
  exact (check_join_iff hn hd h0).mpr (by omega)

theorem start_join (hn : Path.IsName name) (t : FileTree) (dir : Path) : 
    t.start (dir.join ⟨name⟩) = t.start dir := by
  rw [start, start, Path.isAbsolute_join hn]

theorem walk_join (hn : Path.IsName name) (t : FileTree) (dir : Path) : 
    t.walk (t.start (dir.join ⟨name⟩)) (dir.join ⟨name⟩).segments = 
      t.walk (t.start dir) dir.lead >>= (t.walk · [name]) := by
  rw [← walk_append, start_join hn, Path.segments_join hn]

-- A name that is joined to a path leads into a directory.
theorem exists_of_locate_join (hn : Path.IsName name) (h : t.locate (dir.join ⟨name⟩) = .ok loc) : 
    ∃ place, t.walk (t.start dir) dir.lead = .ok place ∧ t.node? place = some .directory ∧ 
      loc = name :: place := by
  have ⟨hc, hw⟩ := locate_eq_ok_iff.mp h
  rw [walk_join hn] at hw
  have ⟨place, hp, hw⟩ := Except.bind_eq_ok_iff.mp hw
  have ⟨_, hd, hm, he⟩ := exists_move_of_walk hw
  cases he
  rw [move_name hn] at hm
  split at hm
  case isTrue  => contradiction
  case isFalse => exact ⟨place, hp, hd, (Except.ok.inj hm).symm⟩ 

theorem apart_join (hn : Path.IsName name) (hn' : Path.IsName name') (h : name ≠ name') : 
    Apart (dir.join ⟨name⟩) (dir.join ⟨name'⟩) := by
  intro t loc hl hl'
  have ⟨_, _, _, he⟩ := exists_of_locate_join hn hl
  have ⟨_, _, _, he'⟩ := exists_of_locate_join hn' hl'
  exact h (List.cons.inj (he.symm.trans he')).left

theorem locate_join_of_directory (hn : Path.IsName name) (hc : check (dir.join ⟨name⟩) = .ok ()) 
    (hw : t.walk (t.start dir) dir.lead = .ok place) (hp : t.node? place = some .directory) : 
    t.locate (dir.join ⟨name⟩) = 
      if 255 < name.utf8ByteSize then .error .nameTooLong else .ok (name :: place) := by
  rw [locate, hc, Except.ok_bind, walk_join hn, hw, Except.ok_bind, walk_of_directory hp, move_name hn]
  split <;> rfl

-- A directory that is missing is not found, whatever is looked for in it.
theorem read_join_of_missing (hn : Path.IsName name) (hc : check (dir.join ⟨name⟩) = .ok ()) 
    (hw : t.walk (t.start dir) dir.lead = .error .notFound ∨ 
      t.walk (t.start dir) dir.lead = .ok place ∧ t.node? place = none) : 
    t.read (dir.join ⟨name⟩) = .error .notFound := by
  apply read_of_locate_error
  rw [locate, hc, Except.ok_bind, walk_join hn]
  obtain hw | ⟨hw, hp⟩ := hw
  case inl => rw [hw, Except.error_bind]
  case inr => rw [hw, Except.ok_bind, walk_of_none hp]

-- If directories have been made and then something was changed in the innermost one, what is read 
-- under a name that was left alone is what was read before. Only the answer for a name that is too 
-- long can differ, as nothing is found as long as there is no directory.
theorem read_join_of_keeps {made : FileTree} (ht : Rooted t) (hd : ".." ∉ dir.segments) 
    (hn : Path.IsName name) (hm : Keeps [] t made) (hk : Keeps ds made t') 
    (hw : made.walk (made.start dir) dir.lead = .ok place) (hp : made.node? place = some .directory) 
    (hs : t'.node? (name :: place) = t.node? (name :: place)) : 
    t'.read (dir.join ⟨name⟩) = 
      if 255 < name.utf8ByteSize ∧ t.read (dir.join ⟨name⟩) = .error .notFound then .error .nameTooLong
      else t.read (dir.join ⟨name⟩) := by
  cases hc : check (dir.join ⟨name⟩)
  case error e =>
    have hr (t : FileTree) : t.read (dir.join ⟨name⟩) = .error e := 
      read_of_locate_error (by rw [locate, hc]; rfl)
    have he : e ≠ .notFound := fun he => check_join_ne hn dir (he ▸ hc)
    simp [hr, he]
  case ok      =>
    have hl' := locate_join_of_directory hn hc (hk.start dir ▸ hk.walk hw) (hk.directory hp)
    rw [hm.start] at hw
    by_cases ha : t.walk (t.start dir) dir.lead = .error .notFound ∨ 
      t.walk (t.start dir) dir.lead = .ok place ∧ t.node? place = none
    case pos => 
      have hr := read_join_of_missing hn hc ha
      have hp : t.node? place = none := by
        obtain ha | ha := ha
        case inl => 
          rw [← foldl_step_of_walk hw]
          exact ht.node?_of_walk (fun hm => hd (dir.lead_subset hm)) ha
        case inr => exact ha.right
      rw [ht.node?_of_suffix hp (List.suffix_cons _ _)] at hs
      split at hl'
      case isTrue hl  => simp [hr, hl, read_of_locate_error hl']
      case isFalse hl => simp [hr, hl, read_of_none hl' hs]
    case neg => 
      rw [not_or, not_and] at ha
      have hw := (hm.walk_of_ne ha.left).symm.trans hw
      have hp : t.node? place = some .directory := by
        cases hn : t.node? place
        case none   => exact absurd hn (ha.right hw)
        case some n => exact (hm.node List.not_mem_nil hn).symm.trans hp
      have hl := locate_join_of_directory hn hc hw hp
      have hr : t'.read (dir.join ⟨name⟩) = t.read (dir.join ⟨name⟩) := by
        refine read_congr (hl'.trans hl.symm) fun loc he => ?_
        obtain ⟨_, hw', _, rfl⟩ := exists_of_locate_join hn he
        cases hw.symm.trans hw'
        exact hs
      rw [hr, if_neg]
      rintro ⟨hs, he⟩ 
      rw [if_pos hs] at hl
      cases (read_of_locate_error hl).symm.trans he

end Rollout.FileTree
