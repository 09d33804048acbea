import Rollout.ContextStore
import Rollout.Proofs.FileTree.Join
import Rollout.Proofs.Segment
namespace Rollout.ContextStore

open FileTree (Keeps Writable Rooted Apart)

-- How far a replacement gets, once the directories are made: nothing is written, a new text stands
-- beside the old one, or it has taken its place.
inductive Replacement (made : FileTree) (target temporary : Path) (text : String) : 
    FileTree → Except Failure Unit → Prop
  | unwritten : Replacement made target temporary text made (.error f)
  | unmoved (ht : Writable made temporary loc) : 
    Replacement made target temporary text (made.put loc (.file (.text text))) (.error f)
  | done (ht : Writable made temporary beside) 
    (hw : Writable (made.put beside (.file (.text text))) target loc) : 
    Replacement made target temporary text 
      (((made.put beside (.file (.text text))).remove beside).put loc (.file (.text text))) (.ok ())

variable {t t' made : FileTree} {target temporary p dir : Path} {text s : String} {r : Except Failure Unit}

def container (target : Path) : Path :=
  target.parent?.getD ⟨""⟩ 

theorem replacement (t : FileTree) (target temporary : Path) (text : String) : 
    Replacement (t.makeDirectories (container target)).1 target temporary text 
      (replaceFile t target temporary text).1 (replaceFile t target temporary text).2 := by
  unfold replaceFile container
  dsimp only
  split
  case h_1 he => 
    rw [he]
    exact .unwritten
  case h_2 he =>
    rw [he]
    split
    case h_1    => exact .unwritten
    case h_2 hw =>
      obtain ⟨beside, ht, rfl⟩ := FileTree.exists_of_write hw
      split
      case h_1    => exact .unmoved ht
      case h_2 hr => 
        obtain ⟨_, loc, n, hl, hn, hw, rfl⟩ := FileTree.exists_of_rename hr
        cases hl.symm.trans ((Keeps.put ht.free).locate ht.locate)
        cases hn.symm.trans (FileTree.node?_put_self ht.ne_nil)
        exact .done ht hw

namespace Replacement

-- Nothing but the replaced file, and the one beside it, is given up.
theorem keeps (h : Replacement made target temporary text t' r) : 
    ∃ ds, Keeps ds made t' ∧ 
      ∀ loc ∈ ds, t'.locate temporary = .ok loc ∨ r = .ok () ∧ t'.locate target = .ok loc := by
  cases h
  case unwritten   => exact ⟨[], .refl _, nofun⟩ 
  case unmoved ht  => 
    have hk := Keeps.put (n := .file (.text text)) ht.free
    exact ⟨_, hk, by simpa using hk.locate ht.locate⟩ 
  case done ht hw =>
    have hk := Keeps.put (n := .file (.text text)) ht.free
    have hm := ht.keeps_move hw
    refine ⟨_, hk.trans hm, ?_⟩ 
    simp only [List.mem_append, List.mem_cons, List.not_mem_nil, or_false]
    rintro _ (rfl | rfl | rfl)
    case inl     => exact .inl ((hk.trans hm).locate ht.locate)
    case inr.inl => exact .inl ((hk.trans hm).locate ht.locate)
    case inr.inr => exact .inr ⟨trivial, hm.locate hw.locate⟩

-- Once it is done, the new text stands in place of the file.
theorem read_target (h : Replacement made target temporary text t' (.ok ())) : 
    t'.read target = .ok text := by
  cases h
  case done beside loc ht hw =>
    have hl := (ht.keeps_move hw).locate hw.locate
    exact FileTree.read_eq_ok_iff.mpr ⟨loc, hl, FileTree.node?_put_self hw.ne_nil⟩ 

-- What can be read elsewhere is still there, and so is what stood in place of the file if the 
-- replacement fails.
theorem read_of_apart (h : Replacement made target temporary text t' r) (hs : made.read p = .ok s) 
    (ht : Apart p temporary) (hp : r = .ok () → Apart p target) : t'.read p = .ok s := by
  have ⟨ds, hk, hd⟩ := h.keeps
  have ⟨loc, hl, hn⟩ := FileTree.read_eq_ok_iff.mp hs
  have hl := hk.locate hl
  refine FileTree.read_eq_ok_iff.mpr ⟨loc, hl, hk.node (fun hm => ?_) hn⟩ 
  obtain he | ⟨hr, he⟩ := hd loc hm
  case inl => exact ht _ _ hl he
  case inr => exact hp hr _ _ hl he

theorem node?_of_ne (h : Replacement made target temporary text t' (.ok ())) : 
    ∃ beside loc, made.locate temporary = .ok beside ∧ t'.locate target = .ok loc ∧ 
      ∀ place, place ≠ beside → place ≠ loc → t'.node? place = made.node? place := by
  cases h
  case done beside loc ht hw =>
    refine ⟨beside, loc, ht.locate, (ht.keeps_move hw).locate hw.locate, fun place hb hl => ?_⟩ 
    rw [FileTree.node?_put_of_ne hl, FileTree.node?_remove_of_ne hb, FileTree.node?_put_of_ne hb]

theorem rooted (h : Replacement made target temporary text t' r) (hm : made.Rooted) : t'.Rooted := by
  cases h
  case unwritten  => exact hm
  case unmoved ht => exact hm.put_of_writable ht
  case done ht hw => 
    have hb := FileTree.node?_put_self (t := made) (n := .file (.text text)) ht.ne_nil
    exact (hm.put_of_writable ht).replace (FileTree.ne_directory_of_file hb) hw

end Replacement

theorem rooted_replaceFile (h : t.Rooted) (target temporary : Path) (text : String) : 
    (replaceFile t target temporary text).1.Rooted :=
  (replacement t target temporary text).rooted (h.makeDirectories _)

theorem read_replaceFile (h : (replaceFile t target temporary text).2 = .ok ()) : 
    (replaceFile t target temporary text).1.read target = .ok text :=
  (h ▸ replacement t target temporary text).read_target

theorem read_replaceFile_of_apart (hs : t.read p = .ok s) (ht : Apart p temporary) 
    (hp : (replaceFile t target temporary text).2 = .ok () → Apart p target) : 
    (replaceFile t target temporary text).1.read p = .ok s := by
  have ⟨loc, hl, hn⟩ := FileTree.read_eq_ok_iff.mp hs
  have hk := FileTree.keeps_makeDirectories t (container target)
  have hs := FileTree.read_eq_ok_iff.mpr ⟨loc, hk.locate hl, hk.node List.not_mem_nil hn⟩ 
  exact (replacement t target temporary text).read_of_apart hs ht hp

-- The names of the files in the directory. No new text that is put beside another one has the name of
-- a file that is read, since their names end in different letters.
variable {name file : String}

theorem isName_of_ne (h : '/' ∉ name.toList) (hn : ∀ s ∈ ["", ".", ".."], name ≠ s) : Path.IsName name := by
  simp only [List.forall_mem_cons] at hn
  exact ⟨h, by simp [Path.isSilent, hn], hn.right.right.left⟩ 

theorem isName_append {extension : String} (hn : '/' ∉ name.toList) (he : '/' ∉ extension.toList) 
    (hl : 2 < extension.length) : Path.IsName (name ++ extension) := by
  have hl : 2 < (name ++ extension).length := by 
    rw [String.length_append]
    omega
  refine isName_of_ne (by simp [hn, he]) fun s hm he => ?_
  have : ∀ s ∈ ["", ".", ".."], ¬2 < s.length := by decide
  exact this s hm (he ▸ hl)

theorem isName_of_valid (h : Segment.valid name) : Path.IsName name := by
  refine isName_of_ne (Segment.slash_not_mem_of_valid h) fun s hm he => ?_
  have : ∀ s ∈ ["", ".", ".."], ¬Segment.valid s := by decide
  exact this s hm (he ▸ h)

theorem isName_context (h : Segment.valid name) : Path.IsName (name ++ ".toml") :=
  isName_append (Segment.slash_not_mem_of_valid h) (by decide) (by decide)

theorem isName_temporary (h : '/' ∉ name.toList) : Path.IsName (name ++ ".tmp") :=
  isName_append h (by decide) (by decide)

theorem isName_default : Path.IsName defaultFile :=
  ⟨by decide, by decide, by decide⟩

def isLasting (file : String) : Prop :=
  file.toList.getLast? ≠ some 'p'

theorem isLasting_context (name : String) : isLasting (name ++ ".toml") := by
  have h : ".toml".toList = ['.', 't', 'o', 'm', 'l'] := rfl
  simp [isLasting, h]

theorem isLasting_default : isLasting defaultFile := by
  unfold isLasting
  decide

theorem ne_temporary (h : isLasting file) (name : String) : file ≠ name ++ ".tmp" := by
  rintro rfl
  simp [isLasting] at h

theorem context_ne_default (name : String) : name ++ ".toml" ≠ defaultFile := by
  intro h
  have h := congrArg (·.toList.getLast?) h
  simp [defaultFile] at h

-- Without steps back, directories are only made on the way to the file.
theorem node?_container {loc : Location} (hd : ".." ∉ p.segments) (hl : ¬loc <:+ t.placeOf p) : 
    (t.makeDirectories (container p)).1.node? loc = t.node? loc := by
  unfold container
  cases hp : p.parent?
  case none   => rfl
  case some q =>
    have ⟨hq, hs⟩ := FileTree.placeOf_parent? t hd hp
    exact FileTree.node?_makeDirectories hq fun h => hl (h.trans hs)

variable {beside : String}

-- A file is replaced without any effect on what is read from those next to it, except that a name can 
-- be found to be too long once there is a directory.
theorem read_replaceFile_of_ne (ht : t.Rooted) (hd : ".." ∉ dir.segments) (hn : Path.IsName name) 
    (hf : Path.IsName file) (hb : Path.IsName beside) (hnf : name ≠ file) (hnb : name ≠ beside) 
    (h : (replaceFile t (dir.join ⟨file⟩) (dir.join ⟨beside⟩) text).2 = .ok ()) : 
    (replaceFile t (dir.join ⟨file⟩) (dir.join ⟨beside⟩) text).1.read (dir.join ⟨name⟩) = 
      if 255 < name.utf8ByteSize ∧ t.read (dir.join ⟨name⟩) = .error .notFound then .error .nameTooLong
      else t.read (dir.join ⟨name⟩) := by
  have hr := h ▸ replacement t (dir.join ⟨file⟩) (dir.join ⟨beside⟩) text
  have hm := FileTree.keeps_makeDirectories t (container (dir.join ⟨file⟩))
  have ⟨_, hk, _⟩ := hr.keeps
  obtain ⟨_, _, hb', hl, hs⟩ := hr.node?_of_ne
  obtain ⟨place, hw, hp, rfl⟩ := FileTree.exists_of_locate_join hb hb'
  obtain ⟨place', hw', hp', rfl⟩ := FileTree.exists_of_locate_join hf hl
  have hw'' := hk.walk hw
  rw [hk.start] at hw'
  cases hw''.symm.trans hw'
  have he : t.placeOf (dir.join ⟨file⟩) = file :: place := by
    rw [← FileTree.placeOf_congr (hk.here.trans hm.here), FileTree.placeOf_of_locate hl]
  refine FileTree.read_join_of_keeps ht hd hn hm hk hw hp ?_
  rw [hs _ (by simpa using hnb) (by simpa using hnf), node?_container (Path.inward_join hf hd)]
  rw [he]
  intro hs
  have := hs.eq_of_length rfl
  exact hnf (List.cons.inj this).left

end Rollout.ContextStore
