import Rollout.Proofs.FileTree
namespace Rollout.FileTree

variable {t t' t'' : FileTree} {p q : Path} {loc loc' : Location} {ds es : List Location} {n : Node}
variable {seg : String} {segs : List String} {s : String}

-- All that a tree holds outside of some places stands in another tree as well. Directories stay 
-- wherever they are.
structure Keeps (ds : List Location) (t t' : FileTree) : Prop where
  here      : t'.here = t.here
  directory : ∀ {loc}, t.node? loc = some .directory → t'.node? loc = some .directory
  node      : ∀ {loc n}, loc ∉ ds → t.node? loc = some n → t'.node? loc = some n

namespace Keeps

theorem refl (t : FileTree) : Keeps ds t t :=
  ⟨rfl, id, fun _ => id⟩

theorem trans (h : Keeps ds t t') (h' : Keeps es t' t'') : Keeps (ds ++ es) t t'' where
  here      := h'.here.trans h.here
  directory := h'.directory ∘ h.directory
  node hl   := by 
    rw [List.mem_append, not_or] at hl
    exact h'.node hl.right ∘ h.node hl.left

theorem ne_of_directory (h : t.node? loc ≠ some .directory) (hn : t.node? loc' = some .directory) : 
    loc' ≠ loc := by
  rintro rfl
  exact h hn

theorem put (h : t.node? loc ≠ some .directory) : Keeps [loc] t (t.put loc n) where
  here         := rfl
  directory hn := by rwa [node?_put_of_ne (ne_of_directory h hn)]
  node hl hn   := by rwa [node?_put_of_ne (by simpa using hl)]

theorem put_of_none (h : t.node? loc = none) : Keeps [] t (t.put loc n) where
  here         := rfl
  directory hn := by rwa [node?_put_of_ne (by rintro rfl; simp_all)]
  node _ hn    := by rwa [node?_put_of_ne (by rintro rfl; simp_all)]

theorem remove (h : t.node? loc ≠ some .directory) : Keeps [loc] t (t.remove loc) where
  here         := rfl
  directory hn := by rwa [node?_remove_of_ne (ne_of_directory h hn)]
  node hl hn   := by rwa [node?_remove_of_ne (by simpa using hl)]

theorem replace (hs : t.node? loc ≠ some .directory) (hd : t.node? loc' ≠ some .directory) : 
    Keeps [loc, loc'] t ((t.remove loc).put loc' n) :=
  (remove hs).trans (put fun h => hd (node?_of_node?_remove h))

theorem start (h : Keeps ds t t') (p : Path) : t'.start p = t.start p := by
  simp [FileTree.start, h.here]

theorem walk (h : Keeps ds t t') (hw : t.walk loc segs = .ok loc') : t'.walk loc segs = .ok loc' := by
  induction segs generalizing loc
  case nil              => exact hw
  case cons seg segs hi =>
    have ⟨next, hn, hm, hw⟩ := exists_move_of_walk hw
    rw [walk_of_directory (h.directory hn), hm]
    exact hi hw

-- Where everything is kept, a walk ends differently only if something was missing.
theorem walk_of_ne (h : Keeps [] t t') (hw : t.walk loc segs ≠ .error .notFound) : 
    t'.walk loc segs = t.walk loc segs := by
  induction segs generalizing loc
  case nil              => rfl
  case cons seg segs hi =>
    match hn : t.node? loc with
    | none            => exact absurd (walk_of_none hn) hw
    | some (.file _)  => rw [walk_of_file hn, walk_of_file (h.node List.not_mem_nil hn)]
    | some .directory => 
      rw [walk_of_directory hn] at hw ⊢
      rw [walk_of_directory (h.directory hn)]
      cases hm : move loc seg
      case error => rfl
      case ok    => exact hi (by simpa [hm] using hw)

theorem locate (h : Keeps ds t t') (hl : t.locate p = .ok loc) : t'.locate p = .ok loc := by
  rw [locate_eq_ok_iff, h.start] at *
  exact ⟨hl.left, h.walk hl.right⟩ 

end Keeps

theorem dropTrailing_eq_self {silent : String → Bool} 
    (h : ¬(Path.dropTrailing silent segs).length < segs.length) : Path.dropTrailing silent segs = segs :=
  (Path.dropTrailing_prefix_self silent segs).eq_of_length_le (by omega)

-- A file is written into a directory, to where a reader of its path looks for it, and never onto 
-- another directory.
structure Writable (t : FileTree) (p : Path) (loc : Location) : Prop where
  locate  : t.locate p = .ok loc
  free    : t.node? loc ≠ some .directory
  covered : ∃ name parent, loc = name :: parent ∧ t.node? parent = some .directory

theorem Writable.ne_nil (h : Writable t p loc) : loc ≠ [] := by
  have ⟨_, _, he, _⟩ := h.covered
  exact he ▸ nofun

-- A file that has been written is moved onto another one.
theorem Writable.keeps_move {c : Content} (h : Writable t p loc) 
    (h' : Writable (t.put loc (.file c)) q loc') : 
    Keeps [loc, loc'] (t.put loc (.file c)) (((t.put loc (.file c)).remove loc).put loc' (.file c)) :=
  .replace (ne_directory_of_file (node?_put_self h.ne_nil)) h'.free

theorem writable_of_target (h : t.target p = .ok loc) : Writable t p loc := by
  unfold target at h
  obtain ⟨_, hc, h⟩ := Except.bind_eq_ok_iff.mp h
  dsimp only at h
  split at h
  case h_1         => contradiction
  case h_2 name hl =>
    obtain ⟨parent, hw, h⟩ := Except.bind_eq_ok_iff.mp h
    split at h
    case h_1    => contradiction
    case h_2    => contradiction
    case h_3 hn => 
      split_ifs at h with he hs
      split at h
      case h_1    => contradiction
      case h_2 hd => 
        cases h
        refine ⟨locate_eq_ok_iff.mpr ⟨hc, ?_⟩, hd, _, _, rfl, hn⟩ 
        -- Nothing is dropped from the path, so what leads to the parent is all but the name.
        simp only [Bool.or_eq_true, decide_eq_true_eq, not_or] at he
        obtain ⟨⟨he, hp⟩, hu⟩ := he
        have hm : move parent name = .ok (name :: parent) := by
          have hn := Path.not_silent_of_getLast? hl
          simp_all [move, Path.isSilent]
        obtain ⟨before, hb⟩ := List.getLast?_eq_some_iff.mp hl
        rw [hb, List.dropLast_concat] at hw
        rw [← dropTrailing_eq_self he, hb, walk_append, hw, Except.ok_bind, walk_of_directory hn, hm]
        rfl

theorem exists_of_write (h : t.write p s = .ok t') : 
    ∃ loc, Writable t p loc ∧ t' = t.put loc (.file (.text s)) := by
  have ⟨loc, ht, he⟩ := Except.bind_eq_ok_iff.mp h
  exact ⟨loc, writable_of_target ht, (Except.ok.inj he).symm⟩

theorem read_of_write (h : t.write p s = .ok t') : t'.read p = .ok s := by
  obtain ⟨loc, hw, rfl⟩ := exists_of_write h
  exact read_eq_ok_iff.mpr ⟨loc, (Keeps.put hw.free).locate hw.locate, node?_put_self hw.ne_nil⟩

theorem exists_of_rename (h : t.rename p q = .ok t') : 
    ∃ source dest n, t.locate p = .ok source ∧ t.node? source = some n ∧ Writable t q dest ∧ 
      t' = (t.remove source).put dest n := by
  have ⟨source, hl, h⟩ := Except.bind_eq_ok_iff.mp h
  split at h
  case h_1      => contradiction
  case h_2 n hn => 
    have ⟨dest, ht, he⟩ := Except.bind_eq_ok_iff.mp h
    exact ⟨source, dest, n, hl, hn, writable_of_target ht, (Except.ok.inj he).symm⟩ 

theorem exists_of_makeDirectory (h : t.makeDirectory p = .ok t') : 
    ∃ loc, t.locate p = .ok loc ∧ t.node? loc = none ∧ t' = t.put loc .directory := by
  have ⟨loc, hl, h⟩ := Except.bind_eq_ok_iff.mp h
  split at h
  case h_1    => contradiction
  case h_2 hn => exact ⟨loc, hl, hn, (Except.ok.inj h).symm⟩ 

-- Directories are made one by one, at a path or at those above it.
theorem makeDirectoriesWithin_induction {P : Path → Prop} {R : FileTree → FileTree → Prop} 
    (refl : ∀ t, R t t) (trans : ∀ {t t' t''}, R t t' → R t' t'' → R t t'') 
    (step : ∀ {t t' p}, P p → t.makeDirectory p = .ok t' → R t t') 
    (parent : ∀ {p q}, P p → p.parent? = some q → P q) (n : Nat) (t : FileTree) (hp : P p) : 
    R t (t.makeDirectoriesWithin n p).1 := by
  induction n generalizing t p
  case zero      => exact refl t
  case succ n hi => 
    unfold makeDirectoriesWithin
    dsimp only
    split
    case isTrue  => exact refl t
    case isFalse =>
      split
      case h_1 hm => exact step hp hm
      case h_2 _  => 
        split
        case h_1    => exact refl t
        case h_2 hq =>
          have hr := hi t (parent hp hq)
          split
          case h_1 he => exact he ▸ hr
          case h_2 he =>
            rw [he] at hr
            split
            case h_1 hm => exact trans hr (step hp hm)
            case h_2    => split <;> exact hr
      case h_3    => split <;> exact refl t

theorem keeps_makeDirectoriesWithin (n : Nat) (t : FileTree) (p : Path) : 
    Keeps [] t (t.makeDirectoriesWithin n p).1 :=
  makeDirectoriesWithin_induction (P := fun _ => True) Keeps.refl Keeps.trans (fun _ hm => by
    obtain ⟨loc, _, hn, rfl⟩ := exists_of_makeDirectory hm
    exact .put_of_none hn) (fun _ _ => trivial) _ t trivial

theorem keeps_makeDirectories (t : FileTree) (p : Path) : Keeps [] t (t.makeDirectories p).1 :=
  keeps_makeDirectoriesWithin _ t p

-- Without steps back, nothing is made but on the way to the path.
theorem node?_makeDirectories (hd : ".." ∉ p.segments) (hl : ¬loc <:+ t.placeOf p) : 
    (t.makeDirectories p).1.node? loc = t.node? loc := by
  let Aside (q : Path) := ".." ∉ q.segments ∧ ¬loc <:+ t.placeOf q
  let Same (a b : FileTree) := b.here = a.here ∧ (a.here = t.here → b.node? loc = a.node? loc)
  have hs : Same t (t.makeDirectories p).1 := by
    refine makeDirectoriesWithin_induction (P := Aside) ?refl ?trans ?step ?parent _ t ⟨hd, hl⟩ 
    case refl   => exact fun _ => ⟨rfl, fun _ => rfl⟩ 
    case trans  => 
      intro a b c ⟨hb, hn⟩ ⟨hc, hm⟩ 
      exact ⟨hc.trans hb, fun ha => (hm (hb.trans ha)).trans (hn ha)⟩ 
    case step   =>
      intro a b q ⟨_, hl⟩ hm
      obtain ⟨loc', hw, _, rfl⟩ := exists_of_makeDirectory hm
      refine ⟨rfl, fun ha => node?_put_of_ne ?_⟩
      rintro rfl
      rw [← placeOf_congr ha, placeOf_of_locate hw] at hl
      exact hl (List.suffix_refl _)
    case parent => 
      intro p q ⟨hd, hl⟩ hp
      have ⟨hq, hs⟩ := placeOf_parent? t hd hp
      exact ⟨hq, fun h => hl (h.trans hs)⟩ 
  exact hs.right rfl

end Rollout.FileTree
