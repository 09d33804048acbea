import Mathlib.Data.List.Nodup
import Rollout.Proofs.FileTree.Making
import Rollout.Proofs.FileTree.Route
namespace Rollout

-- A name that a directory can hold.
structure Path.IsEntry (name : String) : Prop extends Path.IsName name where
  noNul : '\x00' ∉ name.toList
  size  : name.utf8ByteSize ≤ 255

namespace FileTree

-- A tree that holds no place twice, and none that no path could lead to.
structure Sound (t : FileTree) : Prop where
  distinct : (t.nodes.map (·.1)).Nodup
  entries  : ∀ loc ∈ t.nodes.map (·.1), ∀ name ∈ loc, Path.IsEntry name

-- A path leads into a directory, however long it may be. One with a NUL in it leads nowhere.
structure Opens (t : FileTree) (dir : Path) (place : Location) : Prop where
  noNul     : '\x00' ∉ dir.text.toList
  walk      : t.walk (t.start dir) dir.steps = .ok place
  directory : t.node? place = some .directory

variable {t : FileTree} {dir p q : Path} {loc place : Location} {name name' : String}

theorem Opens.walk_join (h : t.Opens dir place) (he : Path.IsEntry name) : 
    t.walk (t.start (dir.join ⟨name⟩)) (dir.join ⟨name⟩).segments = .ok (name :: place) := by
  rw [start_join he.toIsName, Path.segments_join he.toIsName, ← walk_filter, Path.filter_lead, walk_append, 
    h.walk, Except.ok_bind, walk_of_directory h.directory, move_name he.toIsName, 
    if_neg (by have := he.size; omega)]
  rfl

theorem opens_of_locate_join (hn : Path.IsName name) (h : t.locate (dir.join ⟨name⟩) = .ok loc) : 
    ∃ place, t.Opens dir place ∧ loc = name :: place := by
  obtain ⟨hc, hw⟩ := locate_eq_ok_iff.mp h
  have h0 : '\x00' ∉ dir.text.toList := by
    obtain ⟨_, _, ht⟩ := Path.text_join hn dir
    intro hm
    simp [check, ht, hm] at hc
  rw [start_join hn, Path.segments_join hn, ← walk_filter, Path.filter_lead, walk_append] at hw
  obtain ⟨place, hp, hw'⟩ := Except.bind_eq_ok_iff.mp hw
  obtain ⟨_, hd, hm, he⟩ := exists_move_of_walk hw'
  rw [move_name hn] at hm
  split at hm <;> cases hm
  exact ⟨place, ⟨h0, hp, hd⟩, (Except.ok.inj he).symm⟩

-- A name that is joined to a path is looked for in the directory that the path leads into, unless the 
-- joined path is too long.
theorem locate_join_iff (he : Path.IsEntry name) : t.locate (dir.join ⟨name⟩) = .ok loc ↔ 
    (dir.join ⟨name⟩).text.utf8ByteSize < tooLong ∧ ∃ place, t.Opens dir place ∧ loc = name :: place := by
  constructor
  case mp  =>
    intro h
    have ⟨place, ho, hl⟩ := opens_of_locate_join he.toIsName h
    exact ⟨(check_join_iff he.toIsName ho.noNul he.noNul).mp (locate_eq_ok_iff.mp h).left, place, ho, hl⟩
  case mpr =>
    rintro ⟨hs, place, ho, rfl⟩
    exact locate_eq_ok_iff.mpr ⟨(check_join_iff he.toIsName ho.noNul he.noNul).mpr hs, ho.walk_join he⟩

theorem Opens.unique (h : t.Opens dir place) (h' : t.Opens dir loc) : place = loc :=
  Except.ok.inj (h.walk.symm.trans h'.walk)

theorem Opens.locate_join (h : t.Opens dir place) (he : Path.IsEntry name) : 
    t.locate (dir.join ⟨name⟩) = .ok (name :: place) ↔ 
      (dir.join ⟨name⟩).text.utf8ByteSize < tooLong := by
  rw [locate_join_iff he, and_iff_left ⟨place, h, rfl⟩]

theorem Opens.isFile_join (h : t.Opens dir place) (he : Path.IsEntry name) : t.isFile (dir.join ⟨name⟩) ↔ 
    (dir.join ⟨name⟩).text.utf8ByteSize < tooLong ∧ ∃ c, t.node? (name :: place) = some (.file c) := by
  rw [isFile_iff, ← h.locate_join he]
  constructor
  case mp  =>
    intro ⟨loc, c, hl, hc⟩
    obtain ⟨_, place', ho, rfl⟩ := (locate_join_iff he).mp hl
    cases h.unique ho
    exact ⟨hl, c, hc⟩
  case mpr => exact fun ⟨hl, c, hc⟩ => ⟨_, c, hl, hc⟩

theorem isFile_join_iff (he : Path.IsEntry name) : t.isFile (dir.join ⟨name⟩) ↔ 
    (dir.join ⟨name⟩).text.utf8ByteSize < tooLong ∧ 
      ∃ place c, t.Opens dir place ∧ t.node? (name :: place) = some (.file c) := by
  constructor
  case mp  =>
    intro h
    have ⟨_, _, hl, _⟩ := isFile_iff.mp h
    have ⟨place, ho, _⟩ := opens_of_locate_join he.toIsName hl
    have ⟨hs, c, hc⟩ := (ho.isFile_join he).mp h
    exact ⟨hs, place, c, ho, hc⟩
  case mpr => exact fun ⟨hs, _, c, ho, hc⟩ => (ho.isFile_join he).mpr ⟨hs, c, hc⟩

theorem mem_names_iff : name ∈ t.names loc ↔ name :: loc ∈ t.nodes.map (·.1) := by
  simp only [names, List.mem_filterMap, List.mem_map]
  constructor
  case mp  =>
    rintro ⟨⟨_ | ⟨a, as⟩, n⟩, hm, hp⟩
    case nil  => contradiction
    case cons => 
      obtain ⟨rfl, rfl⟩ : as = loc ∧ a = name := by simpa using hp
      exact ⟨_, hm, rfl⟩
  case mpr =>
    rintro ⟨⟨_, n⟩, hm, rfl⟩
    exact ⟨_, hm, if_pos rfl⟩

theorem map_names_sublist (t : FileTree) (loc : Location) : 
    ((t.names loc).map (· :: loc)).Sublist (t.nodes.map (·.1)) := by
  unfold names
  induction t.nodes
  case nil              => exact .slnil
  case cons node ns hi  =>
    rcases node with ⟨_ | ⟨a, as⟩, n⟩
    case nil  => exact hi.cons _
    case cons => 
      by_cases he : as = loc
      case pos => simpa [List.filterMap_cons, he] using hi
      case neg => simpa [List.filterMap_cons, he] using hi.cons _

namespace Sound

theorem nodup_names (h : t.Sound) (loc : Location) : (t.names loc).Nodup :=
  .of_map (· :: loc) ((map_names_sublist t loc).nodup h.distinct)

theorem isEntry (h : t.Sound) (hm : name ∈ t.names loc) : Path.IsEntry name :=
  h.entries _ (mem_names_iff.mp hm) name List.mem_cons_self

theorem mem_names_of_node? {n : Node} (h : t.node? (name :: loc) = some n) : name ∈ t.names loc := by
  have ⟨before, after, he, _⟩ := List.lookup_eq_some_iff.mp h
  exact mem_names_iff.mpr (List.mem_map.mpr ⟨_, he ▸ List.mem_append_right _ List.mem_cons_self, rfl⟩)

end Sound

-- A path has been followed to a name in a directory, and has a parent.
section

variable (hn : Path.IsName name) (hq : (p.join ⟨name⟩).parent? = some q) 
variable (hl : t.locate (p.join ⟨name⟩) = .ok (name :: place))

include hn hq

theorem steps_of_parent?_join : q.steps = p.steps := by
  rw [Path.steps_of_parent? hq, Path.steps_join hn, List.dropLast_concat]

theorem start_of_parent?_join : t.start q = t.start p := by
  rw [start, Path.isAbsolute_of_parent? hq, Path.isAbsolute_join hn, ← start]

include hl

-- The parent leads into the same directory.
theorem opens_parent? : t.Opens q place := by
  have ⟨_, ho, he⟩ := opens_of_locate_join hn hl
  cases he
  refine ⟨fun hm => ?_, ?_, ho.directory⟩
  case refine_1 =>
    have hc := (locate_eq_ok_iff.mp hl).left
    simp [check, (Path.text_of_parent? hq).subset hm] at hc
  case refine_2 => rw [start_of_parent?_join hn hq, steps_of_parent?_join hn hq, ho.walk]

theorem node?_start_parent? : t.node? (t.start q) = some .directory := by
  have ⟨_, hw⟩ := locate_eq_ok_iff.mp hl
  rw [start_join hn, Path.segments_join hn, ← walk_filter, Path.filter_lead, 
    ← steps_of_parent?_join hn hq, ← start_of_parent?_join hn hq] at hw
  have ⟨_, _, he⟩ := List.exists_cons_of_ne_nil (List.append_ne_nil_of_right_ne_nil q.steps (List.cons_ne_nil name []))
  rw [he] at hw
  have ⟨_, hd, _⟩ := exists_move_of_walk hw
  exact hd

omit hn in
theorem check_parent? (hne : q.text ≠ "") : check q = .ok () :=
  check_of_front (locate_eq_ok_iff.mp hl).left (Path.text_of_parent? hq) hne

-- A parent is listed as the directory that the path leads into, if it can be followed at all.
theorem list_parent? (hne : q.text ≠ "") : t.list q = .ok (t.names place) := by
  have ho := opens_parent? hn hq hl
  have hl' := locate_tidy (Path.tidy_of_parent? hq) (check_parent? hq hl hne) (node?_start_parent? hn hq hl)
  simp [list, hl', ho.walk, ho.directory]

end

end FileTree
end Rollout
