import Rollout.Proofs.ContextStore.Saved
import Rollout.Proofs.FileTree.Making
namespace Rollout.ContextStore

open FileTree (Keeps Writable Rooted)

variable {dir : Path} {t t' made : FileTree} {n m name file beside text : String} {c : StoredContext} 
variable {a : Action} {f : Failure}

-- A text that is left over beside a file makes no difference to what is read under other names.
theorem Replacement.read_of_error {target : Path} (hn : Path.IsName name) (hb : Path.IsName beside) 
    (hne : name ≠ beside) (h : Replacement made target (dir.join ⟨beside⟩) text t' (.error f)) : 
    t'.read (dir.join ⟨name⟩) = made.read (dir.join ⟨name⟩) := by
  cases h
  case unwritten  => rfl
  case unmoved ht =>
    have hk := Keeps.put (n := .file (.text text)) ht.free
    have ⟨place, hw, hp, he⟩ := FileTree.exists_of_locate_join hb ht.locate
    subst he
    refine FileTree.read_congr ?_ fun loc hl => ?_
    case refine_1 =>
      cases hc : FileTree.check (dir.join ⟨name⟩)
      case error => simp only [FileTree.locate, hc]; rfl
      case ok    => 
        rw [FileTree.locate_join_of_directory hn hc hw hp]
        exact FileTree.locate_join_of_directory hn hc (hk.start dir ▸ hk.walk hw) (hk.directory hp)
    case refine_2 => 
      obtain ⟨place', _, _, rfl⟩ := FileTree.exists_of_locate_join hn hl
      exact FileTree.node?_put_of_ne (by simp [hne])

-- A replacement that fails leaves directories at most.
theorem read_replaceFile_of_error (ht : t.Rooted) (hd : ".." ∉ dir.segments) (hn : Path.IsName name) 
    (hf : Path.IsName file) (hb : Path.IsName beside) (hne : name ≠ beside) 
    (h : (replaceFile t (dir.join ⟨file⟩) (dir.join ⟨beside⟩) text).2.isOk = false) : 
    (replaceFile t (dir.join ⟨file⟩) (dir.join ⟨beside⟩) text).1.read (dir.join ⟨name⟩) = 
      t.readPaved (dir.join ⟨name⟩) := by
  have hr := replacement t (dir.join ⟨file⟩) (dir.join ⟨beside⟩) text
  have ⟨q, hq⟩ := Path.exists_parent?_join hn dir
  have hc : container (dir.join ⟨file⟩) = q := by rw [container, Path.parent?_join hf hn, hq, Option.getD_some]
  cases hs : (replaceFile t (dir.join ⟨file⟩) (dir.join ⟨beside⟩) text).2
  case ok      => simp [hs, Except.isOk, Except.toBool] at h
  case error f => 
    rw [hs] at hr
    rw [hr.read_of_error hn hb hne, hc]
    exact FileTree.read_makeDirectories (Path.inward_join hn hd) (Path.segments_join hn dir) hn.moves hq ht

-- Whether an action tries to replace a file. A name that no context can have is refused before.
def Action.replaces : Action → Bool
  | .save name _     => Segment.valid name
  | .setDefault name => name.all Segment.valid
  | .load _          => false
  | .readDefault     => false

-- Either way, what can be read is the same as before but for names that are too long.
theorem read_apply_of_fails (ht : t.Rooted) (hd : ".." ∉ dir.segments) (hn : Path.IsName name) 
    (hl : isLasting name) (ha : a.succeeds dir t = false) : 
    (a.apply dir t).read (dir.join ⟨name⟩) = 
      if a.replaces ∧ (t.node? (t.start dir)).isSome ∧ t.read (dir.join ⟨name⟩) = .error .notFound ∧ 
        (dir.join ⟨name⟩).Overlong then .error .nameTooLong 
      else t.read (dir.join ⟨name⟩) := by
  rw [ite_and, ← FileTree.start_join hn, ← FileTree.readPaved]
  cases a
  case load        => rfl
  case readDefault => rfl
  case save n c => 
    cases hv : Segment.valid n
    case false => simp [Action.apply, Action.replaces, save_of_not_valid hv, hv]
    case true  =>
      have hb := isName_temporary (Segment.slash_not_mem_of_valid hv)
      simp only [Action.apply, Action.succeeds, Action.replaces, save_of_valid hv, hv, if_true] at ha ⊢
      exact read_replaceFile_of_error ht hd hn (isName_context hv) hb (ne_temporary hl n) ha
  case setDefault n =>
    have ho : n.all Segment.valid ↔ ∀ m ∈ n, Segment.valid m := Option.all_eq_true _ _
    by_cases hv : ∀ m ∈ n, Segment.valid m
    case neg => 
      obtain ⟨_, hf⟩ := setDefault_of_not_valid dir t hv
      rw [Action.replaces, if_neg (mt ho.mp hv), Action.apply, hf]
    case pos => 
      have hb : Path.IsName (defaultFile ++ ".tmp") := isName_temporary (by decide)
      simp only [Action.apply, Action.succeeds, setDefault_of_valid hv] at ha ⊢
      rw [Action.replaces, if_pos (ho.mpr hv)]
      exact read_replaceFile_of_error ht hd hn isName_default hb (ne_temporary hl _) ha

theorem readDefault_of_error {e : FileError} (he : e ≠ .notFound) (h : t.read (defaultPath dir) = .error e) : 
    readDefault t dir = .error ⟨[.read (defaultPath dir)], .file e⟩ := by
  cases e <;> simp_all [readDefault]

theorem readDefault_congr (h : t'.read (defaultPath dir) = t.read (defaultPath dir)) : 
    readDefault t' dir = readDefault t dir := by
  simp only [readDefault, h]

-- At a path that is too long, the lack of a default is the lack of a file.
theorem readDefault_eq_none_iff (ho : (defaultPath dir).Overlong) : 
    readDefault t dir = .ok none ↔ t.read (defaultPath dir) = .error .notFound := by
  cases hr : t.read (defaultPath dir)
  case error e => cases e <;> simp [readDefault, hr]
  case ok text =>
    obtain ⟨_, hl, _⟩ := FileTree.read_eq_ok_iff.mp hr
    exact absurd ho (FileTree.not_overlong_of_locate hl)

-- What it means that an action has done no harm: the default and all contexts read as before. The only 
-- exception is what could not be found for the lack of a directory, and has a name that is too long.
structure Unharmed (a : Action) (dir : Path) (t : FileTree) : Prop where
  default : readDefault (a.apply dir t) dir = 
    if a.replaces ∧ (t.node? (t.start dir)).isSome ∧ readDefault t dir = .ok none ∧ 
      (defaultPath dir).Overlong then .error ⟨[.read (defaultPath dir)], .file .nameTooLong⟩ 
    else readDefault t dir
  load    : ∀ m, readContext (a.apply dir t) dir m = 
    if a.replaces ∧ (t.node? (t.start dir)).isSome ∧ readContext t dir m = .error (.of (.noContext m dir)) ∧ 
      (contextPath dir m).Overlong then .error ⟨[.read (contextPath dir m)], .file .nameTooLong⟩ 
    else readContext t dir m

theorem readDefault_apply_of_fails (ht : t.Rooted) (hd : ".." ∉ dir.segments) (ha : a.succeeds dir t = false) : 
    readDefault (a.apply dir t) dir = 
      if a.replaces ∧ (t.node? (t.start dir)).isSome ∧ readDefault t dir = .ok none ∧ 
        (defaultPath dir).Overlong then .error ⟨[.read (defaultPath dir)], .file .nameTooLong⟩ 
      else readDefault t dir := by
  have hr := read_apply_of_fails ht hd isName_default isLasting_default ha
  rw [← defaultPath] at hr
  split
  case isTrue hc  => 
    obtain ⟨hp, hs, hn, ho⟩ := hc
    rw [if_pos ⟨hp, hs, (readDefault_eq_none_iff ho).mp hn, ho⟩] at hr
    exact readDefault_of_error (by decide) hr
  case isFalse hc =>
    rw [if_neg] at hr
    case hnc => 
      rintro ⟨hp, hs, hn, ho⟩ 
      exact hc ⟨hp, hs, (readDefault_eq_none_iff ho).mpr hn, ho⟩ 
    exact readDefault_congr hr

theorem readContext_apply_of_fails (ht : t.Rooted) (hd : ".." ∉ dir.segments) (ha : a.succeeds dir t = false) 
    (m : String) : 
    readContext (a.apply dir t) dir m = 
      if a.replaces ∧ (t.node? (t.start dir)).isSome ∧ readContext t dir m = .error (.of (.noContext m dir)) ∧ 
        (contextPath dir m).Overlong then .error ⟨[.read (contextPath dir m)], .file .nameTooLong⟩ 
      else readContext t dir m := by
  cases hv : Segment.valid m
  case false => 
    have hr (t : FileTree) : readContext t dir m = .error (.of (.contextName m)) := by
      simp [readContext, checkName, hv]
    simp [hr, Failure.of]
  case true  => 
    have hr := read_apply_of_fails ht hd (isName_context hv) (isLasting_context m) ha
    rw [← contextPath] at hr
    split
    case isTrue hc  => 
      obtain ⟨hp, hs, hn, ho⟩ := hc
      rw [if_pos ⟨hp, hs, (readContext_eq_noContext_iff.mp hn).right, ho⟩] at hr
      exact readContext_of_error hv (by decide) hr
    case isFalse hc =>
      rw [if_neg] at hr
      case hnc => 
        rintro ⟨hp, hs, hn, ho⟩ 
        exact hc ⟨hp, hs, readContext_eq_noContext_iff.mpr ⟨hv, hn⟩, ho⟩ 
      exact readContext_congr hr

-- An action that fails does no harm, however far it got.
theorem unharmed_of_fails (ht : t.Rooted) (hd : ".." ∉ dir.segments) (ha : a.succeeds dir t = false) : 
    Unharmed a dir t where
  default := readDefault_apply_of_fails ht hd ha
  load    := readContext_apply_of_fails ht hd ha

-- A directory stands where the context belongs, so the text beside it is left over.
theorem unharmed_of_fails_directory : 
    let dir : Path := ⟨"/settings"⟩ 
    let t : FileTree := ⟨[(["prod.toml", "settings"], .directory), (["settings"], .directory)], []⟩ 
    let a : Action := .save "prod" ⟨"w", ⟨"h:1", true, false⟩⟩ 
    t.Rooted ∧ ".." ∉ dir.segments ∧ a.succeeds dir t = false ∧ Unharmed a dir t := by
  intro dir t a
  have hs : FileTree.Rooted ⟨[(["settings"], .directory)], []⟩ := 
    (FileTree.Rooted.empty []).put nofun ⟨"settings", [], rfl, rfl⟩ 
  have ht : t.Rooted := hs.put nofun ⟨"prod.toml", ["settings"], rfl, rfl⟩ 
  have hd : ".." ∉ dir.segments := by decide
  have ha : a.succeeds dir t = false := by decide
  exact ⟨ht, hd, ha, unharmed_of_fails ht hd ha⟩ 

-- The directories are made up to the one whose name is too long, so that this name is seen then.
theorem overlong_refused_once_failed : 
    let dir : Path := Path.join ⟨"/settings"⟩ ⟨overlong⟩ 
    let a : Action := .setDefault (some "prod")
    FileTree.Rooted ⟨[], []⟩ ∧ ".." ∉ dir.segments ∧ a.succeeds dir ⟨[], []⟩ = false ∧ 
      readDefault ⟨[], []⟩ dir = .ok none ∧ 
      readDefault (a.apply dir ⟨[], []⟩) dir = .error ⟨[.read (defaultPath dir)], .file .nameTooLong⟩ := by
  intro dir a
  let t : FileTree := ⟨[], []⟩ 
  have hn : Path.IsName overlong := isName_of_valid valid_overlong
  have ht : t.Rooted := FileTree.Rooted.empty []
  have hd : ".." ∉ dir.segments := Path.inward_join hn (by decide)
  have hs : dir.steps = ["settings", overlong] := Path.steps_join hn ⟨"/settings"⟩ 
  have hl : (t.node? (t.start dir)).isSome := by
    rw [FileTree.start_join hn]
    decide
  have hw : t.walk (t.start dir) (dir.lead ++ [defaultFile]) = .error .notFound := by
    rw [← FileTree.walk_filter, Path.filter_lead, hs, FileTree.start_join hn]
    rfl
  have hc : FileTree.check (defaultPath dir) = .ok () := by
    have hz : '\x00' ∉ overlong.toList := by
      rw [toList_overlong, List.mem_replicate]
      decide
    have hl : (Path.text ⟨"/settings"⟩).utf8ByteSize + 1 + overlong.utf8ByteSize < 300 := by
      rw [utf8ByteSize_overlong]
      decide
    have hj : dir.text.utf8ByteSize < 300 := Nat.lt_of_le_of_lt (Path.utf8ByteSize_join_le hn _) hl
    have hf : 300 + 1 + defaultFile.utf8ByteSize < FileTree.tooLong := by decide
    have ht : 300 < FileTree.tooLong := by decide
    exact FileTree.check_join isName_default (FileTree.check_join hn (by decide) hz (by omega)) (by decide) 
      (by omega)
  have ho : (defaultPath dir).Overlong := by
    refine ⟨overlong, ?_, by rw [utf8ByteSize_overlong]; decide⟩ 
    have hm : overlong ∈ dir.steps := by simp [hs]
    rw [defaultPath, Path.segments_join isName_default]
    exact List.mem_append_left _ (List.mem_filter.mp (Path.filter_lead dir ▸ hm)).left
  have hr : readDefault t dir = .ok none := by
    refine (readDefault_eq_none_iff ho).mpr (FileTree.read_of_locate_error ?_)
    rw [FileTree.locate_of_check hc, defaultPath, FileTree.start_join isName_default, Path.segments_join isName_default]
    exact hw
  have ha : a.succeeds dir t = false := by
    refine Bool.eq_false_iff.mpr fun h => ?_
    obtain ⟨_, hl, _⟩ := FileTree.read_eq_ok_iff.mp (read_setDefault h).right
    exact FileTree.not_overlong_of_locate hl ho
  exact ⟨ht, hd, ha, hr, (readDefault_apply_of_fails ht hd ha).trans (if_pos ⟨rfl, hl, hr, ho⟩)⟩ 

end Rollout.ContextStore
