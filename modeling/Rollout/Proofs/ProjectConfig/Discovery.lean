import Rollout.Proofs.FileTree.Beside
import Rollout.Proofs.Path.Ancestors
import Rollout.Proofs.Path.Trailing
import Rollout.Proofs.ProjectConfig
namespace Rollout

namespace ProjectConfig

-- Where the configuration of a directory is.
def within (dir : Path) : Path :=
  dir.join ⟨fileName⟩

-- A configuration file stands in the directory that a path leads into.
def Holds (t : FileTree) (dir : Path) : Prop :=
  ∃ place c, t.Opens dir place ∧ t.node? (fileName :: place) = some (.file c)

-- A path is short enough to be followed.
def Fits (p : Path) : Prop :=
  p.text.utf8ByteSize < FileTree.tooLong

instance (p : Path) : Decidable (Fits p) := 
  inferInstanceAs (Decidable (_ < _))

-- The configuration file that is the first one on the way up. What it holds does not matter. A file is passed
-- over only if the path to it is too long.
inductive Nearest (t : FileTree) : Path → Path → Prop
  | here {dir} (file : Holds t dir) (fits : Fits (within dir)) : Nearest t dir (within dir)
  | above {dir up p} (passed : Holds t dir → ¬Fits (within dir)) (parent : dir.parent? = some up)
    (rest : Nearest t up p) : Nearest t dir p

-- A configuration that can be read from a file.
structure Usable (t : FileTree) (p : Path) (c : ProjectConfig) : Prop where
  source : ∃ text, t.read p = .ok text ∧ parse text = .ok c
  valid  : c.Valid

-- What is wrong with a file.
inductive Unusable (t : FileTree) (p : Path) : Failure → Prop
  | unreadable {e} (read : t.read p = .error e) : Unusable t p ⟨[.read p], .file e⟩
  | malformed {text f} (read : t.read p = .ok text) (parse : parse text = .error f) : 
    Unusable t p (f.within (.parse p))
  | invalid {text c cause} (read : t.read p = .ok text) (parse : parse text = .ok c) (fault : c.Fault cause) :
    Unusable t p ⟨[.validate p], cause⟩

-- A tree in which nothing is different but configuration files in directories above a place.
structure ChangedAbove (place : Location) (t t' : FileTree) : Prop where
  here  : t'.here = t.here
  node? : ∀ loc, t'.node? loc = t.node? loc ∨ 
    ∃ above, loc = fileName :: above ∧ above <:+ place ∧ above ≠ place ∧ t.node? loc ≠ some .directory

variable {t t' : FileTree} {start dir up near p : Path} {c : ProjectConfig} {f : Failure} {place loc : Location}

theorem isEntry_fileName : Path.IsEntry fileName :=
  ⟨⟨by decide, by decide, by decide⟩, by decide, by decide⟩

theorem isName_fileName : Path.IsName fileName :=
  isEntry_fileName.toIsName

theorem isFile_within_iff : t.isFile (within dir) ↔ Holds t dir ∧ Fits (within dir) := by
  rw [within, FileTree.isFile_join_iff isEntry_fileName, and_comm]
  rfl

theorem isFile_within_eq_false_iff : 
    t.isFile (within dir) = false ↔ (Holds t dir → ¬Fits (within dir)) := by
  rw [← Bool.not_eq_true, isFile_within_iff, not_and]

theorem find?_eq (t : FileTree) (dir : Path) : 
    find? t dir = if t.isFile (within dir) then some (within dir) else dir.parent?.bind (find? t) := by
  unfold find?
  rw [Path.ancestors_eq, List.map_cons, List.find?_cons, ← within]
  cases t.isFile (within dir)
  case true  => rfl
  case false => cases dir.parent? <;> rfl

theorem find?_eq_some_iff : find? t dir = some p ↔ Nearest t dir p := by
  constructor
  case mp  =>
    intro h
    induction dir using Path.parent?_induction
    case step dir hi =>
      rw [find?_eq] at h
      split at h
      case isTrue hf  => 
        have ⟨hh, hs⟩ := isFile_within_iff.mp hf
        exact Option.some.inj h ▸ .here hh hs
      case isFalse hf =>
        have ⟨up, hu, h⟩ := Option.bind_eq_some_iff.mp h
        exact .above (isFile_within_eq_false_iff.mp (by simpa using hf)) hu (hi up hu h)
  case mpr =>
    intro h
    induction h
    case here hh hs       => rw [find?_eq, if_pos (isFile_within_iff.mpr ⟨hh, hs⟩)]
    case above hp hu _ hi => 
      rw [find?_eq, isFile_within_eq_false_iff.mpr hp, if_neg Bool.false_ne_true, hu, Option.bind_some, hi]

theorem find?_eq_none_iff : 
    find? t start = none ↔ ∀ dir, start.Ascends dir → Holds t dir → ¬Fits (within dir) := by
  simp only [← isFile_within_eq_false_iff]
  simp [find?, ← Path.mem_ancestors_iff, within]

namespace Nearest

theorem isFile (h : Nearest t start p) : t.isFile p := by
  induction h
  case here hh hs => exact isFile_within_iff.mpr ⟨hh, hs⟩
  case above _ hi => exact hi

theorem fits (h : Nearest t start p) : Fits p := by
  induction h
  case here hs    => exact hs
  case above _ hi => exact hi

theorem exists_within (h : Nearest t start p) : ∃ near, start.Ascends near ∧ p = within near := by
  induction h
  case here            => exact ⟨_, .refl, rfl⟩
  case above hu _ hi   => 
    have ⟨near, ha, hp⟩ := hi
    exact ⟨near, .up hu ha, hp⟩

end Nearest

theorem load_eq_error_iff : load t p = .error f ↔ Unusable t p f := by
  simp only [load, Except.bind_eq_error_iff, Failure.because, Failure.during, Traced.mapError_eq_ok_iff, 
    Traced.mapError_eq_error_iff, Except.pure_eq, reduceCtorEq, and_false, exists_false, or_false]
  constructor
  case mp  =>
    rintro (⟨_, ⟨e, hr, rfl⟩, rfl⟩ | ⟨text, hr, ⟨_, hp, rfl⟩ | ⟨c, hp, _, ⟨_, hv, rfl⟩, rfl⟩⟩)
    case inl       => exact .unreadable hr
    case inr.inl   => exact .malformed hr hp
    case inr.inr   => exact .invalid hr hp (fault_of_validate hv)
  case mpr =>
    intro h
    cases h
    case unreadable hr      => exact .inl ⟨_, ⟨_, hr, rfl⟩, rfl⟩
    case malformed hr hp    => exact .inr ⟨_, hr, .inl ⟨_, hp, rfl⟩⟩
    case invalid hr hp hc   => exact .inr ⟨_, hr, .inr ⟨_, hp, _, ⟨_, validate_of_fault hc, rfl⟩, rfl⟩⟩

theorem usable_iff : Usable t p c ↔ load t p = .ok c := by
  rw [load_eq_ok_iff]
  exact ⟨fun ⟨⟨text, hr, hp⟩, hv⟩ => ⟨text, hr, hp, hv⟩, fun ⟨text, hr, hp, hv⟩ => ⟨⟨text, hr, hp⟩, hv⟩⟩

theorem placeOf_within (hd : ".." ∉ dir.segments) : t.placeOf (within dir) = fileName :: t.placeOf dir := by
  have hs : (within dir).steps = dir.steps ++ [fileName] := Path.steps_join isName_fileName dir
  have hb : t.start (within dir) = t.start dir := FileTree.start_join isName_fileName t dir
  have hd' : ".." ∉ (within dir).segments := Path.inward_join isName_fileName hd
  simp [FileTree.placeOf_eq hd', FileTree.placeOf_eq hd, hs, hb]

-- A directory inside of a place that it is reached through.
structure Beneath (t : FileTree) (place : Location) (dir : Path) : Prop where
  inward : ".." ∉ dir.segments
  below  : place <:+ t.placeOf dir
  opened : ∀ loc, t.start dir <:+ loc → loc <:+ place → t.node? loc = some .directory

theorem Nearest.beneath (h : Nearest t start p) (hd : ".." ∉ start.segments) 
    (hl : t.locate p = .ok (fileName :: place)) : Beneath t place start := by
  induction h
  case here dir _ _        => 
    have hp := (List.cons.inj ((placeOf_within hd).symm.trans (FileTree.placeOf_of_locate hl))).right
    have ⟨_, hw, hn, he⟩ := FileTree.exists_of_locate_join isName_fileName hl
    cases he
    refine ⟨hd, hp ▸ List.suffix_refl _, fun loc => ?_⟩
    exact FileTree.directory_of_walk (fun hm => hd (dir.lead_subset hm)) hw hn
  case above dir up _ _ hu _ hi => 
    have ⟨hd', hs⟩ := FileTree.placeOf_parent? t hd hu
    have ⟨_, hb, ho⟩ := hi hd' hl
    have ha : t.start up = t.start dir := by rw [FileTree.start, Path.isAbsolute_of_parent? hu, ← FileTree.start]
    exact ⟨hd, hb.trans hs, fun loc hl => ho loc (ha ▸ hl)⟩

namespace ChangedAbove

-- A configuration file further up is not on the way to one that is looked for in a directory beneath.
theorem node?_eq (h : ChangedAbove place t t') (hb : Beneath t place dir) (hs : t.start dir <:+ loc) 
    (hl : loc <:+ fileName :: t.placeOf dir) : t'.node? loc = t.node? loc := by
  obtain hn | ⟨above, rfl, ha, hne, hn⟩ := h.node? loc
  case inl => exact hn
  case inr =>
    obtain he | hl := List.suffix_cons_iff.mp hl
    case inl => 
      have he := (List.cons.inj he).right
      exact absurd (ha.eq_of_length_le (he ▸ hb.below.length_le)) hne
    case inr => 
      have hlt : above.length < place.length := Nat.lt_of_le_of_ne ha.length_le fun hlen => hne (ha.eq_of_length hlen)
      exact absurd (hb.opened _ hs (List.suffix_of_suffix_length_le hl hb.below hlt)) hn

variable (h : ChangedAbove place t t') (hb : Beneath t place dir)

include h hb

theorem locate_within : t'.locate (within dir) = t.locate (within dir) := by
  have hd : ".." ∉ (within dir).segments := Path.inward_join isName_fileName hb.inward
  have hs : t'.start (within dir) = t.start (within dir) := by simp [FileTree.start, h.here]
  rw [FileTree.locate, FileTree.locate, hs, FileTree.walk_congr hd]
  intro loc hl hp
  change loc <:+ t.placeOf (within dir) at hp
  exact h.node?_eq hb (FileTree.start_join isName_fileName t dir ▸ hl) (placeOf_within hb.inward ▸ hp)

theorem node?_within (hl : t.locate (within dir) = .ok loc) : t'.node? loc = t.node? loc := by
  have hp : fileName :: t.placeOf dir = loc := placeOf_within hb.inward ▸ FileTree.placeOf_of_locate hl
  have hs : t.start dir <:+ t.placeOf dir := FileTree.suffix_foldl_step hb.inward _
  exact h.node?_eq hb (hp ▸ hs.trans (List.suffix_cons _ _)) (hp ▸ List.suffix_refl _)

theorem isFile_within : t'.isFile (within dir) = t.isFile (within dir) :=
  FileTree.isFile_congr (h.locate_within hb) fun _ => h.node?_within hb

theorem read_within : t'.read (within dir) = t.read (within dir) :=
  FileTree.read_congr (h.locate_within hb) fun _ => h.node?_within hb

omit hb

-- What is nearest stays so, and holds what it held.
theorem nearest (hn : Nearest t start p) (hd : ".." ∉ start.segments) 
    (hl : t.locate p = .ok (fileName :: place)) : Nearest t' start p ∧ t'.read p = t.read p := by
  have hb := hn.beneath hd hl
  induction hn
  case here hh hs         => 
    have ⟨hh, hs⟩ := isFile_within_iff.mp <| 
      (h.isFile_within hb).trans (isFile_within_iff.mpr ⟨hh, hs⟩)
    exact ⟨.here hh hs, h.read_within hb⟩
  case above hp hu hn hi  => 
    have ⟨hd', _⟩ := FileTree.placeOf_parent? t hd hu
    have ⟨hn, hr⟩ := hi hd' hl (hn.beneath hd' hl)
    have hp := isFile_within_eq_false_iff.mp <| 
      (h.isFile_within hb).trans (isFile_within_eq_false_iff.mpr hp)
    exact ⟨.above hp hu hn, hr⟩

end ChangedAbove
end ProjectConfig

namespace LoadedConfig

open ProjectConfig

variable {t t' : FileTree} {start near p : Path} {f : Failure} {place : Location} {loaded : LoadedConfig}

theorem search_of_nearest (h : Nearest t start p) : 
    search t start = (load t p).map fun c => some ⟨p, c⟩ := by
  simp [search, find?_eq_some_iff.mpr h]

theorem search_of_none (h : find? t start = none) : search t start = .ok none := by
  simp [search, h]

-- All that a search can come to. It ends at the nearest file, be it usable or not.
structure Discovered (t : FileTree) (start : Path) : Prop where
  nothing : search t start = .ok none ↔ ∀ dir, start.Ascends dir → Holds t dir → ¬Fits (within dir)
  refused : ∀ f, search t start = .error f ↔ ∃ p, Nearest t start p ∧ Unusable t p f
  found   : ∀ loaded, search t start = .ok (some loaded) ↔ 
    Nearest t start loaded.path ∧ Usable t loaded.path loaded.config
  unmoved : ∀ near place t', ".." ∉ start.segments → Nearest t start (within near) → t.Opens near place → 
    ChangedAbove place t t' → search t' start = search t start

theorem search_eq_none_iff : 
    search t start = .ok none ↔ ∀ dir, start.Ascends dir → Holds t dir → ¬Fits (within dir) := by
  rw [← find?_eq_none_iff]
  cases hf : find? t start
  case none   => exact iff_of_true (search_of_none hf) rfl
  case some p => simp [search_of_nearest (find?_eq_some_iff.mp hf), Except.map_eq_ok_iff]

theorem search_eq_error_iff : 
    search t start = .error f ↔ ∃ p, Nearest t start p ∧ Unusable t p f := by
  simp only [← find?_eq_some_iff, ← load_eq_error_iff]
  cases hf : find? t start
  case none   => simp [search_of_none hf]
  case some p => simp [search_of_nearest (find?_eq_some_iff.mp hf), Except.map_eq_error_iff]

theorem search_eq_some_iff : 
    search t start = .ok (some loaded) ↔ Nearest t start loaded.path ∧ Usable t loaded.path loaded.config := by
  rcases loaded with ⟨path, config⟩
  simp only [← find?_eq_some_iff, usable_iff]
  cases hf : find? t start
  case none   => simp [search_of_none hf]
  case some p => 
    rw [search_of_nearest (find?_eq_some_iff.mp hf), Except.map_eq_ok_iff]
    simp only [Option.some.injEq, LoadedConfig.mk.injEq]
    constructor
    case mp  => 
      rintro ⟨_, hl, rfl, rfl⟩
      exact ⟨rfl, hl⟩
    case mpr => 
      rintro ⟨rfl, hl⟩
      exact ⟨_, hl, rfl, rfl⟩

theorem search_of_changedAbove (hd : ".." ∉ start.segments) (hn : Nearest t start (within near)) 
    (ho : t.Opens near place) (hc : ChangedAbove place t t') : search t' start = search t start := by
  have hl := (ho.locate_join isEntry_fileName).mpr hn.fits
  have ⟨hn', hr⟩ := hc.nearest hn hd hl
  rw [search_of_nearest hn, search_of_nearest hn', load, load, hr]

theorem discovered (t : FileTree) (start : Path) : Discovered t start where
  nothing           := search_eq_none_iff
  refused _         := search_eq_error_iff
  found _           := search_eq_some_iff
  unmoved _ _ _     := search_of_changedAbove

-- What is not text is not used, but nobody looks at it as long as there is a file further down.
theorem discovered_shop : 
    let t : FileTree := ⟨[(["shop"], .directory), ([fileName, "shop"], .file (.text "project = \"shop\"\n")), 
      ([fileName], .file .notText)], []⟩
    let loaded : LoadedConfig := ⟨⟨"/shop/deployctl.toml"⟩, ⟨"shop", none, []⟩⟩
    ChangedAbove ["shop"] t (t.remove [fileName]) ∧ search t ⟨"/shop/web"⟩ = .ok (some loaded) ∧ 
      search (t.remove [fileName]) ⟨"/shop/web"⟩ = .ok (some loaded) ∧ 
      search t ⟨"/"⟩ = .error ⟨[.read ⟨"/deployctl.toml"⟩], .file .notText⟩ := by
  intro t loaded
  have opens : t.Opens ⟨"/shop"⟩ ["shop"] := ⟨by decide, by decide, by decide⟩
  have nearest : Nearest t ⟨"/shop/web"⟩ (within ⟨"/shop"⟩) := by
    refine .above (fun ⟨_, _, ho, hc⟩ => ?_) (by decide) (.here ⟨_, _, opens, rfl⟩ (by decide))
    have hp : Except.ok ["web", "shop"] = Except.ok _ := ho.walk
    cases hp
    cases hc
  have changed : ChangedAbove ["shop"] t (t.remove [fileName]) := by
    refine ⟨rfl, fun loc => ?_⟩
    by_cases h : loc = [fileName]
    case pos => exact .inr ⟨[], h, List.nil_suffix, by decide, by rw [h]; decide⟩
    case neg => exact .inl (FileTree.node?_remove_of_ne h)
  have found : search t ⟨"/shop/web"⟩ = .ok (some loaded) := 
    ((discovered t _).found loaded).mpr ⟨nearest, usable_iff.mpr (by decide +kernel)⟩
  refine ⟨changed, found, ?_, ?_⟩
  · rw [(discovered t _).unmoved _ _ _ (by decide) nearest opens changed, found]
  · refine ((discovered t _).refused _).mpr ⟨_, .here ⟨[], _, ⟨by decide, rfl, rfl⟩, rfl⟩ (by decide), ?_⟩
    exact .unreadable (by decide)

end LoadedConfig

namespace Path

-- A way to a directory that stays in it for a while: `/a/././.`, and so on.
def lingering (n : Nat) : Path :=
  ofSegments ("" :: "a" :: List.replicate n ".")

theorem segments_lingering (n : Nat) : (lingering n).segments = "" :: "a" :: List.replicate n "." := by
  refine segments_ofSegments (List.cons_ne_nil _ _) fun seg h => ?_
  obtain rfl | rfl | ⟨_, rfl⟩ : seg = "" ∨ seg = "a" ∨ n ≠ 0 ∧ seg = "." := by simpa using h
  all_goals decide

theorem parent?_lingering (n : Nat) : (lingering n).parent? = some ⟨"/"⟩ := by
  have hd : dropTrailing isSilent ("a" :: List.replicate n ".") = ["a"] := by
    have hs : ∀ seg ∈ List.replicate n ".", isSilent seg := fun seg h => by
      rw [(List.mem_replicate.mp h).right]
      decide
    exact (dropTrailing_append hs ["a"]).trans (by decide)
  rw [parent?, segments_lingering]
  simp only [hd]
  rfl

theorem steps_lingering (n : Nat) : (lingering n).steps = ["a"] := by
  rw [steps, segments_lingering, List.filter_cons_of_neg (by decide), List.filter_cons_of_pos (by decide)]
  simp [isSilent]

theorem isAbsolute_lingering (n : Nat) : (lingering n).isAbsolute :=
  isAbsolute_of_segments_eq (segments_lingering n) (List.cons_ne_nil _ _)

theorem text_lingering (n : Nat) : (lingering n).text = "/a" ++ String.join (List.replicate n "/.") := by
  have tail (seg : String) : 
      "/".intercalate (seg :: List.replicate n ".") = seg ++ String.join (List.replicate n "/.") := by
    induction n generalizing seg
    case zero      => simp
    case succ n hi =>
      have hs (s : String) : "/" ++ ("." ++ s) = "/." ++ s := by
        rw [← String.append_assoc]
        rfl
      rw [List.replicate_succ, String.intercalate_cons_cons, hi, List.replicate_succ, String.join_cons, 
        String.append_assoc, hs]
  rw [lingering, ofSegments, String.intercalate_cons_cons, tail, ← String.append_assoc]
  rfl

theorem utf8ByteSize_lingering (n : Nat) : (lingering n).text.utf8ByteSize = 2 + 2 * n := by
  have ha : "/a".utf8ByteSize = 2 := by decide
  have hs : "/.".utf8ByteSize = 2 := by decide
  rw [text_lingering, String.utf8ByteSize_append, ha]
  induction n
  case zero      => simp
  case succ n hi => 
    rw [List.replicate_succ, String.join_cons, String.utf8ByteSize_append, hs]
    omega

theorem noNul_lingering (n : Nat) : '\x00' ∉ (lingering n).text.toList := by
  simp [text_lingering]

end Path

namespace LoadedConfig

open ProjectConfig

-- The file of a directory is passed over if there is a long way to it, and one further up is used instead.
theorem passed_over_if_too_long : 
    let t : FileTree := ⟨[(["a"], .directory), ([fileName, "a"], .file (.text "project = \"inner\"\n")), 
      ([fileName], .file (.text "project = \"outer\"\n"))], []⟩
    Holds t (.lingering 2044) ∧ (ProjectConfig.parse "project = \"inner\"\n").isOk ∧ 
      search t (.lingering 2044) = .ok (some ⟨⟨"/deployctl.toml"⟩, ⟨"outer", none, []⟩⟩) := by
  intro t
  have opens : t.Opens (.lingering 2044) ["a"] := by
    refine ⟨Path.noNul_lingering _, ?_, rfl⟩
    rw [FileTree.start, if_pos (Path.isAbsolute_lingering _), Path.steps_lingering]
    decide
  have long : ¬Fits (within (.lingering 2044)) := by
    obtain ⟨_, _, ht⟩ := Path.text_join isName_fileName (.lingering 2044)
    have hs := Path.utf8ByteSize_lingering 2044
    simp only [Fits, within, ht, String.utf8ByteSize_append, hs, FileTree.tooLong]
    have : fileName.utf8ByteSize = 14 := by decide
    omega
  have nearest : Nearest t (.lingering 2044) (within ⟨"/"⟩) := 
    .above (fun _ => long) (Path.parent?_lingering _) (.here ⟨[], _, ⟨by decide, rfl, rfl⟩, rfl⟩ (by decide))
  refine ⟨⟨_, _, opens, rfl⟩, by decide +kernel, ?_⟩
  rw [search_of_nearest nearest]
  decide +kernel

end LoadedConfig
end Rollout
