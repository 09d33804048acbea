import Mathlib.Data.List.TakeDrop
import Mathlib.Tactic.SplitIfs
import Rollout.FileTree
import Rollout.Proofs.Except
import Rollout.Proofs.Path.Parent
namespace Rollout.FileTree

variable {t t' : FileTree} {p q : Path} {loc loc' : Location} {n : Node} {seg : String} 
variable {segs : List String} {s : String} {e : FileError}

theorem lookup_filter_of_ne {nodes : List (Location × Node)} (h : loc' ≠ loc) : 
    (nodes.filter (·.1 ≠ loc)).lookup loc' = nodes.lookup loc' := by
  induction nodes
  case nil          => rfl
  case cons n ns hi =>
    rcases n with ⟨l, n⟩ 
    by_cases hl : l = loc
    case pos => 
      have hn : (loc' == l) = false := beq_false_of_ne (hl ▸ h)
      rw [List.filter_cons_of_neg (by simp [hl]), hi, List.lookup_cons, hn]
    case neg => simp_all [List.lookup_cons]

theorem node?_put_self (h : loc ≠ []) : (t.put loc n).node? loc = some n := by
  cases loc
  case nil  => contradiction
  case cons => simp [put, node?]

theorem node?_put_of_ne (h : loc' ≠ loc) : (t.put loc n).node? loc' = t.node? loc' := by
  cases loc'
  case nil            => rfl
  case cons name loc' => 
    have hn : (name :: loc' == loc) = false := beq_false_of_ne h
    simpa [put, node?, List.lookup_cons, hn] using lookup_filter_of_ne h

theorem node?_remove_self (h : loc ≠ []) : (t.remove loc).node? loc = none := by
  cases loc
  case nil  => contradiction
  case cons => 
    simp only [remove, node?, List.lookup_eq_none_iff, List.mem_filter, decide_eq_true_eq, bne_iff_ne]
    exact fun _ h => Ne.symm h.right

theorem node?_remove_of_ne (h : loc' ≠ loc) : (t.remove loc).node? loc' = t.node? loc' := by
  cases loc'
  case nil  => rfl
  case cons => exact lookup_filter_of_ne h

theorem ne_directory_of_file (h : t.node? loc = some (.file c)) : t.node? loc ≠ some .directory :=
  fun hd => nomatch h.symm.trans hd

theorem node?_of_node?_remove (h : (t.remove loc).node? loc' = some n) : t.node? loc' = some n := by
  by_cases he : loc' = loc
  case neg => exact node?_remove_of_ne he ▸ h
  case pos =>
    subst he
    cases loc'
    case nil  => exact h
    case cons => cases node?_remove_self (List.cons_ne_nil _ _) ▸ h

-- Where one segment leads from a directory.
def move (loc : Location) (seg : String) : Except FileError Location :=
  if Path.isSilent seg then .ok loc
  else if seg = ".." then .ok loc.tail
  else if 255 < seg.utf8ByteSize then .error .nameTooLong
  else .ok (seg :: loc)

theorem move_name (h : Path.IsName seg) (loc : Location) : 
    move loc seg = if 255 < seg.utf8ByteSize then .error .nameTooLong else .ok (seg :: loc) := by
  simp [move, h.moves, h.inward]

theorem move_ne_notFound (loc : Location) (seg : String) : move loc seg ≠ .error .notFound := by
  unfold move
  split_ifs <;> nofun

theorem step_of_move (h : move loc seg = .ok loc') : placeOf.step loc seg = loc' := by
  unfold move at h
  unfold placeOf.step
  split_ifs at h ⊢ <;> simp_all

theorem walk_of_none (h : t.node? loc = none) : t.walk loc (seg :: segs) = .error .notFound := by
  simp [walk, h]

theorem walk_of_file (h : t.node? loc = some (.file c)) : 
    t.walk loc (seg :: segs) = .error .notADirectory := by
  simp [walk, h]

theorem walk_of_directory (h : t.node? loc = some .directory) : 
    t.walk loc (seg :: segs) = move loc seg >>= (t.walk · segs) := by
  simp only [walk, h, move]
  split_ifs <;> rfl

-- A walk that gets anywhere starts in a directory, unless it ends at once.
theorem exists_move_of_walk (h : t.walk loc (seg :: segs) = .ok loc') : 
    ∃ next, t.node? loc = some .directory ∧ move loc seg = .ok next ∧ t.walk next segs = .ok loc' := by
  match hn : t.node? loc with
  | none            => cases walk_of_none hn ▸ h
  | some (.file _)  => cases walk_of_file hn ▸ h
  | some .directory => 
    rw [walk_of_directory hn, Except.bind_eq_ok_iff] at h
    have ⟨next, hm, hw⟩ := h
    exact ⟨next, rfl, hm, hw⟩

theorem walk_append (loc : Location) (segs rest : List String) : 
    t.walk loc (segs ++ rest) = t.walk loc segs >>= (t.walk · rest) := by
  induction segs generalizing loc
  case nil              => rfl
  case cons seg segs hi =>
    rw [List.cons_append]
    match hn : t.node? loc with
    | none            => rw [walk_of_none hn, walk_of_none hn, Except.error_bind]
    | some (.file _)  => rw [walk_of_file hn, walk_of_file hn, Except.error_bind]
    | some .directory => 
      rw [walk_of_directory hn, walk_of_directory hn, bind_assoc]
      simp only [hi]

theorem locate_eq_ok_iff : 
    t.locate p = .ok loc ↔ check p = .ok () ∧ t.walk (t.start p) p.segments = .ok loc := by
  rw [locate, Except.bind_eq_ok_iff]
  exact ⟨fun ⟨_, h⟩ => h, fun h => ⟨(), h⟩⟩

-- Where a walk ends, if it gets there, does not depend on what the tree holds.
theorem foldl_step_of_walk (h : t.walk loc segs = .ok loc') : segs.foldl placeOf.step loc = loc' := by
  induction segs generalizing loc
  case nil              => exact Except.ok.inj h
  case cons seg segs hi =>
    have ⟨next, _, hm, hw⟩ := exists_move_of_walk h
    rw [List.foldl_cons, step_of_move hm, hi hw]

theorem placeOf_of_locate (h : t.locate p = .ok loc) : t.placeOf p = loc :=
  foldl_step_of_walk (locate_eq_ok_iff.mp h).right

theorem foldl_step (h : ".." ∉ segs) (loc : Location) : 
    segs.foldl placeOf.step loc = (segs.filter (!Path.isSilent ·)).reverse ++ loc := by
  induction segs generalizing loc
  case nil              => rfl
  case cons seg segs hi =>
    rw [List.mem_cons, not_or] at h
    rw [List.foldl_cons, hi h.right, placeOf.step]
    cases hs : Path.isSilent seg <;> simp [hs, Ne.symm h.left]

theorem placeOf_eq (h : ".." ∉ p.segments) : t.placeOf p = p.steps.reverse ++ t.start p :=
  foldl_step h _

-- Without steps back, a parent is above the path.
theorem placeOf_parent? (t : FileTree) (hd : ".." ∉ p.segments) (h : p.parent? = some q) : 
    ".." ∉ q.segments ∧ t.placeOf q <:+ t.placeOf p := by
  have ⟨rest, hs⟩ : q.steps <+: p.steps := Path.steps_of_parent? h ▸ List.dropLast_prefix _
  have hq : ".." ∉ q.segments := by
    intro hm
    have hm : ".." ∈ q.steps := List.mem_filter.mpr ⟨hm, by decide⟩ 
    have hm : ".." ∈ p.steps := hs ▸ List.mem_append_left _ hm
    exact hd (List.mem_filter.mp hm).left
  refine ⟨hq, ?_⟩ 
  rw [placeOf_eq hd, placeOf_eq hq, ← hs, start, start, Path.isAbsolute_of_parent? h, List.reverse_append, List.append_assoc]
  exact List.suffix_append _ _

theorem placeOf_congr (h : t'.here = t.here) (p : Path) : t'.placeOf p = t.placeOf p := by
  simp [placeOf, start, h]

theorem read_eq_ok_iff : 
    t.read p = .ok s ↔ ∃ loc, t.locate p = .ok loc ∧ t.node? loc = some (.file (.text s)) := by
  unfold read find
  cases t.locate p
  case error  => simp
  case ok loc =>
    match hn : t.node? loc with
    | none                   => simp [hn]
    | some .directory        => simp [hn]
    | some (.file .notText)  => simp [hn]
    | some (.file (.text _)) => simp [hn]

-- What is read depends on where the path leads and on what stands there.
theorem read_congr (hl : t'.locate p = t.locate p) 
    (hn : ∀ loc, t.locate p = .ok loc → t'.node? loc = t.node? loc) : t'.read p = t.read p := by
  unfold read find
  rw [hl]
  cases hc : t.locate p
  case error => rfl
  case ok    => simp [hn _ hc]

theorem read_of_locate_error (h : t.locate p = .error e) : t.read p = .error e := by
  simp [read, find, h]

theorem read_of_none (h : t.locate p = .ok loc) (hn : t.node? loc = none) : 
    t.read p = .error .notFound := by
  simp [read, find, h, hn]

end Rollout.FileTree
