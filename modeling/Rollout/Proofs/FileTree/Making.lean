import Rollout.Proofs.FileTree.Join
import Rollout.Proofs.Path.Ancestors
namespace Rollout

-- A path with a name in it that no file or directory can have.
def Path.Overlong (p : Path) : Prop :=
  ∃ seg ∈ p.segments, 255 < seg.utf8ByteSize

instance (p : Path) : Decidable p.Overlong :=
  inferInstanceAs (Decidable (∃ seg ∈ p.segments, 255 < seg.utf8ByteSize))

namespace FileTree

variable {t t' made : FileTree} {p q dir : Path} {loc loc' start place : Location} {e : FileError} 
variable {name : String} {segs names : List String} {r : Except FileError Unit}

theorem walk_silent (hn : t.node? loc = some .directory) (h : segs.filter (!Path.isSilent ·) = []) : 
    t.walk loc segs = .ok loc := by
  induction segs
  case nil              => rfl
  case cons seg segs hi =>
    have ⟨hs, h⟩ : Path.isSilent seg ∧ segs.filter (!Path.isSilent ·) = [] := by simpa using h
    rw [walk_of_directory hn, move, if_pos hs, Except.ok_bind, hi h]

-- What does not move makes no difference but at the end.
theorem walk_filter (t : FileTree) (loc : Location) (segs : List String) (seg : String) : 
    t.walk loc (segs.filter (!Path.isSilent ·) ++ [seg]) = t.walk loc (segs ++ [seg]) := by
  induction segs generalizing loc
  case nil            => rfl
  case cons a segs hi =>
    cases ha : Path.isSilent a
    case false => 
      simp only [ha, List.filter_cons, Bool.not_false, if_true, List.cons_append, walk, hi]
    case true  =>
      rw [List.filter_cons_of_neg (by simp [ha]), hi, List.cons_append]
      rcases hn : t.node? loc with _ | _ | _
      case some.directory => rw [walk_of_directory hn, move, if_pos ha, Except.ok_bind]
      case none           => cases segs <;> simp [walk, hn]
      case some.file      => cases segs <;> simp [walk, hn]

theorem walk_tidy (hp : p.Tidy) (hn : t.node? loc = some .directory) : 
    t.walk loc p.segments = t.walk loc p.steps := by
  obtain hs | ⟨before, seg, hs, hm⟩ := hp
  case inl => rw [hs, walk_silent hn hs, walk]
  case inr => 
    rw [Path.steps, hs, ← walk_filter]
    simp [hm]

theorem locate_of_check (hc : check p = .ok ()) : t.locate p = t.walk (t.start p) p.segments := by
  rw [locate, hc, Except.ok_bind]

-- The steps of a path and nothing else decide where a directory is made.
theorem locate_tidy (hp : p.Tidy) (hc : check p = .ok ()) (hn : t.node? (t.start p) = some .directory) : 
    t.locate p = t.walk (t.start p) p.steps := by
  rw [locate_of_check hc, walk_tidy hp hn]

theorem utf8ByteSize_of_walk (h : t.walk loc segs = .ok loc') : ∀ seg ∈ segs, seg.utf8ByteSize ≤ 255 := by
  induction segs generalizing loc
  case nil              => nofun
  case cons seg segs hi =>
    have ⟨next, _, hm, hw⟩ := exists_move_of_walk h
    refine List.forall_mem_cons.mpr ⟨?_, hi hw⟩ 
    unfold move at hm
    split_ifs at hm with hs hu hl
    case pos => 
      obtain rfl | rfl : seg = "" ∨ seg = "." := by simpa [Path.isSilent] using hs
      all_goals decide
    case pos => rw [hu]; decide
    case neg => omega

-- Why a walk does not get anywhere.
inductive Halted (t : FileTree) (loc : Location) (segs : List String) : FileError → Prop
  | missing : Halted t loc segs .notFound
  | overlong {seg} (mem : seg ∈ segs) (size : 255 < seg.utf8ByteSize) : Halted t loc segs .nameTooLong
  | blocked {before seg after place c} (split : segs = before ++ seg :: after) 
    (walk : t.walk loc before = .ok place) (file : t.node? place = some (.file c)) : 
    Halted t loc segs .notADirectory

theorem halted_of_walk (h : t.walk loc segs = .error e) : Halted t loc segs e := by
  induction segs generalizing loc
  case nil              => contradiction
  case cons seg segs hi =>
    match hn : t.node? loc with
    | none            => 
      cases walk_of_none hn ▸ h
      exact .missing
    | some (.file _)  => 
      cases walk_of_file hn ▸ h
      exact .blocked (List.nil_append _).symm rfl hn
    | some .directory =>
      rw [walk_of_directory hn, Except.bind_eq_error_iff] at h
      obtain hm | ⟨next, hm, hw⟩ := h
      case inl => 
        unfold move at hm
        split_ifs at hm with hs hu hl
        cases hm
        exact .overlong List.mem_cons_self hl
      case inr =>
        cases hi hw
        case missing           => exact .missing
        case overlong hm hl    => exact .overlong (List.mem_cons_of_mem _ hm) hl
        case blocked hs hw' hf => 
          refine .blocked (hs ▸ (List.cons_append ..).symm) ?_ hf
          rw [walk_of_directory hn, hm]
          exact hw'

-- What stands in front of a text that can be followed can be followed itself, if it is not empty.
theorem check_of_front (hc : check p = .ok ()) (hq : q.text.toList <+: p.text.toList) (hn : q.text ≠ "") : 
    check q = .ok () := by
  have ⟨rest, hr⟩ := hq
  have hs : q.text.utf8ByteSize ≤ p.text.utf8ByteSize := by
    have hp : p.text = q.text ++ .ofList rest := by simp [String.ext_iff, ← hr]
    rw [hp, String.utf8ByteSize_append]
    omega
  unfold check at hc ⊢ 
  split_ifs at hc with h0 h1 h2
  have h0' : ¬q.text.toList.contains '\x00' := fun hm => h0 (by simpa using hq.subset (by simpa using hm))
  rw [if_neg h0', if_neg hn, if_neg (by omega)]

-- How far directories have been made: all the way, or up to something that bars the way to whatever 
-- is looked for behind it.
inductive Paved (t : FileTree) (loc : Location) (names : List String) : Except FileError Unit → Prop
  | reached {place : Location} (walk : t.walk loc names = .ok place) (directory : t.node? place = some .directory) :
    Paved t loc names (.ok ())
  | barred {e f : FileError} (reason : e ≠ .notFound) (walk : ∀ name, t.walk loc (names ++ [name]) = .error e) :
    Paved t loc names (.error f)

theorem Paved.walk_ne_notFound (h : Paved t loc names r) (name : String) : 
    t.walk loc (names ++ [name]) ≠ .error .notFound := by
  cases h
  case reached hw hd => 
    rw [walk_append, hw, Except.ok_bind, walk_of_directory hd, ne_eq, Except.bind_eq_error_iff]
    rintro (hm | ⟨_, _, hm⟩)
    case inl => exact move_ne_notFound _ name hm
    case inr => contradiction
  case barred hr hw  => 
    rw [hw name]
    simpa using hr

theorem isDirectory_iff : t.isDirectory p ↔ ∃ loc, t.locate p = .ok loc ∧ t.node? loc = some .directory := by
  unfold isDirectory find
  cases t.locate p
  case error  => simp
  case ok loc =>
    match hn : t.node? loc with
    | none            => simp [hn]
    | some .directory => simp [hn]
    | some (.file _)  => simp [hn]

theorem makeDirectory_of_error (h : t.locate p = .error e) : t.makeDirectory p = .error e := by
  rw [makeDirectory, h]
  rfl

theorem makeDirectory_of_some {n : Node} (h : t.locate p = .ok loc) (hn : t.node? loc = some n) : 
    t.makeDirectory p = .error .alreadyExists := by
  simp [makeDirectory, h, hn]

theorem makeDirectory_of_none (h : t.locate p = .ok loc) (hn : t.node? loc = none) : 
    t.makeDirectory p = .ok (t.put loc .directory) := by
  simp [makeDirectory, h, hn]

theorem locate_of_makeDirectory (h : t.makeDirectory p = .error .notFound) : 
    t.locate p = .error .notFound := by
  cases hl : t.locate p
  case error  => 
    cases (makeDirectory_of_error hl).symm.trans h
    rfl
  case ok loc => 
    cases hn : t.node? loc
    case none   => cases (makeDirectory_of_none hl hn).symm.trans h
    case some _ => cases (makeDirectory_of_some hl hn).symm.trans h

section

variable (hp : p.Tidy) (hs : t.node? (t.start p) = some .directory)

include hp hs

theorem paved_of_makeDirectory (h : t.makeDirectory p = .ok t') : 
    Paved t' (t.start p) p.steps (.ok ()) := by
  obtain ⟨loc, hl, hn, rfl⟩ := exists_of_makeDirectory h
  have hw := (locate_eq_ok_iff.mp hl).right
  rw [walk_tidy hp hs] at hw
  refine .reached ((Keeps.put_of_none hn).walk hw) (node?_put_self ?_)
  rintro rfl
  contradiction

-- A directory that cannot be made, though nothing is missing in front of it, stands there already or is 
-- out of reach.
theorem paved_unlessPresent (hc : check p = .ok ()) (he : t.makeDirectory p = .error e) 
    (hw : t.walk (t.start p) p.steps ≠ .error .notFound) : 
    let made : FileTree × Except FileError Unit := if t.isDirectory p then (t, .ok ()) else (t, .error e)
    Paved made.1 (t.start p) p.steps made.2 := by
  have hl := locate_tidy hp hc hs
  dsimp only
  split
  case isTrue hd  =>
    have ⟨place, hl', hd⟩ := isDirectory_iff.mp hd
    exact .reached (hl ▸ hl') hd
  case isFalse hd =>
    cases hk : t.walk (t.start p) p.steps
    case error e => 
      refine .barred (fun he => hw (he ▸ hk)) fun name => ?_
      rw [walk_append, hk, Except.error_bind]
    case ok place =>
      rw [hk] at hl
      match hn : t.node? place with
      | none            => cases (makeDirectory_of_none hl hn).symm.trans he
      | some .directory => exact absurd (isDirectory_iff.mpr ⟨place, hl, hn⟩) hd
      | some (.file _)  => 
        refine .barred (show FileError.notADirectory ≠ .notFound from nofun) fun name => ?_
        rw [walk_append, hk, Except.ok_bind, walk_of_file hn]

end

theorem paved_makeDirectoriesWithin (n : Nat) (t : FileTree) (hp : p.Tidy) 
    (hc : p.text = "" ∨ check p = .ok ()) (hs : t.node? (t.start p) = some .directory) 
    (hn : p.text.length < n) : 
    Paved (t.makeDirectoriesWithin n p).1 (t.start p) p.steps (t.makeDirectoriesWithin n p).2 := by
  induction n generalizing p
  case zero      => omega
  case succ n hi =>
    unfold makeDirectoriesWithin
    dsimp only
    split
    case isTrue he   => 
      have he : p.steps = [] := by
        cases p
        subst he
        decide
      exact he ▸ .reached rfl hs
    case isFalse hne =>
      have hc := hc.resolve_left hne
      have hl := locate_tidy hp hc hs
      split
      case h_1 hm        => exact paved_of_makeDirectory hp hs hm
      case h_2 hm        => 
        have hw := hl.symm.trans (locate_of_makeDirectory hm)
        have hne : p.steps ≠ [] := by
          intro he
          rw [he] at hw
          contradiction
        split
        case h_1 hq   => exact absurd (Path.steps_of_parent?_none hq) hne
        case h_2 q hq =>
          obtain ⟨last, hsteps⟩ : ∃ last, p.steps = q.steps ++ [last] := 
            ⟨_, Path.steps_of_parent? hq ▸ (List.dropLast_concat_getLast hne).symm⟩
          have hstart : t.start q = t.start p := by rw [start, start, Path.isAbsolute_of_parent? hq]
          have hk := keeps_makeDirectoriesWithin n t q
          have hi := hi (Path.tidy_of_parent? hq) 
            (or_iff_not_imp_left.mpr (check_of_front hc (Path.text_of_parent? hq))) (hstart ▸ hs) 
            (by have := Path.length_lt_of_parent? hq; omega)
          rw [hstart] at hi
          split
          case h_1 he =>
            rw [he] at hi
            cases hi
            case barred hr hw => 
              refine .barred hr fun name => ?_
              rw [hsteps, walk_append, hw, Except.error_bind]
          case h_2 he =>
            rw [he] at hi hk
            have hs := hk.directory (hk.start p ▸ hs)
            have hw := hi.walk_ne_notFound last
            rw [← hsteps, ← hk.start] at hw
            rw [← hk.start]
            split
            case h_1 hm   => exact paved_of_makeDirectory hp hs hm
            case h_2 e hm => exact paved_unlessPresent hp hs hc hm hw
      case h_3 e hm hnot => 
        have hw : t.walk (t.start p) p.steps ≠ .error .notFound := fun hw => 
          hm (Except.error.inj (hnot.symm.trans (makeDirectory_of_error (hl.trans hw))))
        exact paved_unlessPresent hp hs hc hnot hw

theorem makeDirectories_of_start (h : t.node? (t.start p) ≠ some .directory) : (t.makeDirectories p).1 = t := by
  let Along (q : Path) := q.isAbsolute = p.isAbsolute
  let Idle (a b : FileTree) := a.node? (a.start p) ≠ some .directory → b = a
  have hi : Idle t (t.makeDirectories p).1 := by
    refine makeDirectoriesWithin_induction (P := Along) ?refl ?trans ?step ?parent _ t rfl
    case refl   => exact fun _ _ => rfl
    case trans  => 
      intro a b c hb hc ha
      cases hb ha
      exact hc ha
    case step   => 
      intro a b q hq hm ha
      obtain ⟨loc, hl, _⟩ := exists_of_makeDirectory hm
      have hw := (locate_eq_ok_iff.mp hl).right
      obtain ⟨first, segs, hs⟩ := List.exists_cons_of_ne_nil q.segments_ne_nil
      rw [hs, start, hq] at hw
      obtain ⟨_, hd, _⟩ := exists_move_of_walk hw
      exact absurd hd ha
    case parent => exact fun hp hq => (Path.isAbsolute_of_parent? hq).trans hp
  exact hi h

theorem file_of_makeDirectories {c : Content} (h : (t.makeDirectories p).1.node? loc = some (.file c)) : 
    t.node? loc = some (.file c) := by
  let Made (a b : FileTree) := b.node? loc = some (.file c) → a.node? loc = some (.file c)
  have hm : Made t (t.makeDirectories p).1 := by
    refine makeDirectoriesWithin_induction (P := fun _ => True) (R := Made) (fun _ => id) (fun h h' => h ∘ h') ?_ 
      (fun _ _ => trivial) _ t trivial
    intro a b q _ hm h
    obtain ⟨loc', _, hn, rfl⟩ := exists_of_makeDirectory hm
    by_cases he : loc = loc'
    case neg => rwa [node?_put_of_ne he] at h
    case pos =>
      subst he
      cases loc
      case nil  => contradiction
      case cons => cases (node?_put_self (List.cons_ne_nil _ _)).symm.trans h
  exact hm h

-- Directories that are made never end in a file where nothing was found before.
theorem Rooted.walk_makeDirectories_ne (ht : Rooted t) (hd : ".." ∉ segs) 
    (hw : t.walk loc segs = .error .notFound) : 
    (t.makeDirectories p).1.walk loc segs ≠ .error .notADirectory := by
  have hk := keeps_makeDirectories t p
  intro hm
  cases halted_of_walk hm
  case blocked before seg after place c hs hb hf => 
    subst hs
    have hf := file_of_makeDirectories hf
    cases hl : t.walk loc before
    case ok place'  =>
      cases (foldl_step_of_walk hl).symm.trans (foldl_step_of_walk hb)
      rw [walk_append, hl, Except.ok_bind, walk_of_file hf] at hw
      contradiction
    case error e    =>
      by_cases he : e = .notFound
      case neg => 
        have hne : t.walk loc before ≠ .error .notFound := by simpa [hl] using he
        cases (hk.walk_of_ne hne).symm.trans hb ▸ hl
      case pos => 
        have hn := ht.node?_of_walk (fun h => hd (List.mem_append_left _ h)) (he ▸ hl)
        rw [foldl_step_of_walk hb, hf] at hn
        contradiction

theorem paved_makeDirectories (hp : p.Tidy) (hc : p.text = "" ∨ check p = .ok ()) 
    (hs : t.node? (t.start p) = some .directory) : 
    Paved (t.makeDirectories p).1 (t.start p) p.steps (t.makeDirectories p).2 :=
  paved_makeDirectoriesWithin _ t hp hc hs (Nat.lt_succ_self _)

-- What is read once there are directories in front of a path, as far as there can be. Where nothing was found 
-- for the lack of a directory, and a name on the way is too long, this is seen then.
def readPaved (t : FileTree) (p : Path) : Except FileError String :=
  if (t.node? (t.start p)).isSome ∧ t.read p = .error .notFound ∧ p.Overlong then .error .nameTooLong 
  else t.read p

theorem not_overlong_of_locate (h : t.locate p = .ok loc) : ¬p.Overlong := by
  intro ⟨seg, hm, hl⟩
  have := utf8ByteSize_of_walk (locate_eq_ok_iff.mp h).right seg hm
  omega

section

variable {before : List String} (hd : ".." ∉ p.segments) (hp : p.segments = before ++ [name]) 
variable (hm : Path.isSilent name = false) (hq : p.parent? = some q)

include hd hp hm hq

omit hd hq in
theorem check_ne_notFound : check p ≠ .error .notFound := by
  intro hc
  have ht : p.text = "" := by
    unfold check at hc
    split_ifs at hc with _ ht <;> cases hc
    exact ht
  have hn : before = [] ∧ name = "" := by
    simpa [Path.segments, ht, Path.pieces, List.singleton_eq_append_iff] using hp
  rw [hn.right] at hm
  contradiction

-- The way to a parent leads past its children.
theorem node?_placeOf_makeDirectories : (t.makeDirectories q).1.node? (t.placeOf p) = t.node? (t.placeOf p) := by
  have hdq := (placeOf_parent? t hd hq).left
  have hs : p.steps = before.filter (!Path.isSilent ·) ++ [name] := by simp [Path.steps, hp, hm]
  refine node?_makeDirectories hdq fun h => ?_
  have hl := h.length_le
  rw [placeOf_eq hd, placeOf_eq hdq, Path.steps_of_parent? hq, hs, List.dropLast_concat, start, start, 
    Path.isAbsolute_of_parent? hq] at hl
  simp only [List.length_append, List.length_reverse, List.length_singleton] at hl
  omega

omit hd in
theorem walk_makeDirectories_ne_notFound (hc : check p = .ok ()) (hs : t.node? (t.start p) = some .directory) : 
    (t.makeDirectories q).1.walk (t.start p) p.segments ≠ .error .notFound := by
  have hps : p.steps = before.filter (!Path.isSilent ·) ++ [name] := by simp [Path.steps, hp, hm]
  have hqs : t.start q = t.start p := by rw [start, start, Path.isAbsolute_of_parent? hq]
  have hqc : q.text = "" ∨ check q = .ok () := 
    or_iff_not_imp_left.mpr (check_of_front hc (Path.text_of_parent? hq))
  have h := paved_makeDirectories (Path.tidy_of_parent? hq) hqc (hqs ▸ hs)
  rw [hqs, Path.steps_of_parent? hq, hps, List.dropLast_concat] at h
  rw [hp, ← walk_filter]
  exact h.walk_ne_notFound name

-- Where something was in the way already, or the path leads to a place, the directories change nothing.
theorem read_makeDirectories_of_walk (hc : check p = .ok ()) 
    (hw : t.walk (t.start p) p.segments ≠ .error .notFound) : (t.makeDirectories q).1.read p = t.readPaved p := by
  have hk := keeps_makeDirectories t q
  have hn := node?_placeOf_makeDirectories (t := t) hd hp hm hq
  have hr : (t.makeDirectories q).1.read p = t.read p := by
    refine read_congr ?_ fun loc hl => by rwa [← placeOf_of_locate hl]
    rw [locate_of_check hc, locate_of_check hc, hk.start, hk.walk_of_ne hw]
  rw [hr, readPaved, if_neg]
  rintro ⟨_, hf, ho⟩ 
  cases hl : t.locate p
  case error e => 
    cases (read_of_locate_error hl).symm.trans hf
    exact hw (locate_of_check hc ▸ hl)
  case ok loc  => exact not_overlong_of_locate hl ho

-- Where nothing was found, only a name that is too long can still be in the way.
theorem read_makeDirectories_of_missing (ht : t.Rooted) (hc : check p = .ok ()) 
    (hw : t.walk (t.start p) p.segments = .error .notFound) (hs : t.node? (t.start p) = some .directory) : 
    (t.makeDirectories q).1.read p = if p.Overlong then .error .nameTooLong else .error .notFound := by
  have hk := keeps_makeDirectories t q
  have hn := node?_placeOf_makeDirectories (t := t) hd hp hm hq
  have hl : (t.makeDirectories q).1.locate p = (t.makeDirectories q).1.walk (t.start p) p.segments := 
    hk.start p ▸ locate_of_check hc
  cases hw' : (t.makeDirectories q).1.walk (t.start p) p.segments
  case ok loc  => 
    rw [hw'] at hl
    have hloc : t.placeOf p = loc := by rw [← placeOf_congr hk.here, placeOf_of_locate hl]
    have hnone : t.node? (t.placeOf p) = none := ht.node?_of_walk hd hw
    rw [if_neg (not_overlong_of_locate hl)]
    exact read_of_none hl (hloc ▸ hn.trans hnone)
  case error e => 
    cases halted_of_walk hw'
    case missing           => exact absurd hw' (walk_makeDirectories_ne_notFound hp hm hq hc hs)
    case blocked           => exact absurd hw' (ht.walk_makeDirectories_ne hd hw)
    case overlong hmem hlt => 
      rw [if_pos ⟨_, hmem, hlt⟩]
      exact read_of_locate_error (hl.trans hw')

theorem read_makeDirectories (ht : t.Rooted) : (t.makeDirectories q).1.read p = t.readPaved p := by
  cases hc : check p
  case error e =>
    have hr (t : FileTree) : t.read p = .error e := read_of_locate_error (by rw [locate, hc]; rfl)
    have he : e ≠ .notFound := fun he => check_ne_notFound hp hm (he ▸ hc)
    simp [readPaved, hr, he]
  case ok      =>
    by_cases hw : t.walk (t.start p) p.segments = .error .notFound
    case neg => exact read_makeDirectories_of_walk hd hp hm hq hc hw
    case pos =>
      have hr : t.read p = .error .notFound := read_of_locate_error (locate_of_check hc ▸ hw)
      rcases hs : t.node? (t.start p) with _ | _ | _
      case some.directory => simp [readPaved, hr, hs, read_makeDirectories_of_missing hd hp hm hq ht hc hw hs]
      case none           => 
        have hs' : t.node? (t.start q) ≠ some .directory := by
          rw [start, Path.isAbsolute_of_parent? hq, ← start, hs]
          simp
        simp [readPaved, makeDirectories_of_start hs', hr, hs]
      case some.file      => 
        obtain ⟨first, segs, he⟩ := List.exists_cons_of_ne_nil p.segments_ne_nil
        rw [he, walk_of_file hs] at hw
        contradiction

end

end FileTree
end Rollout
