import Rollout.Proofs.ContextStore.Default
namespace Rollout.ContextStore

variable {dir : Path} {t t' : FileTree} {n m : String} {c : StoredContext} {a : Action} 
variable {actions before : List Action}

theorem rooted_apply (h : t.Rooted) (dir : Path) (a : Action) : (a.apply dir t).Rooted := by
  cases a
  case load        => exact h
  case readDefault => exact h
  case save name c => 
    cases hv : Segment.valid name
    case false => simpa [Action.apply, save_of_not_valid hv] using h
    case true  => simpa [Action.apply, save_of_valid hv] using rooted_replaceFile h _ _ _
  case setDefault name =>
    by_cases hv : ∀ n ∈ name, Segment.valid n
    case neg => 
      obtain ⟨_, hf⟩ := setDefault_of_not_valid dir t hv
      simpa [Action.apply, hf] using h
    case pos => simpa [Action.apply, setDefault_of_valid hv] using rooted_replaceFile h _ _ _

theorem rooted_run (h : t.Rooted) (dir : Path) (actions : List Action) : (run dir t actions).Rooted := by
  induction actions generalizing t
  case nil            => exact h
  case cons a as hi   => exact hi (rooted_apply h dir a)

-- No other failure is like the one of a context that cannot be found.
theorem readContext_eq_noContext_iff : 
    readContext t dir m = .error (.of (.noContext m dir)) ↔ 
      Segment.valid m ∧ t.read (contextPath dir m) = .error .notFound := by
  cases hv : Segment.valid m
  case false => simp [readContext, checkName, hv, Failure.of]
  case true  =>
    simp only [readContext, checkName, hv, if_true, Except.ok_bind]
    cases hr : t.read (contextPath dir m)
    case error e => 
      cases e
      all_goals simp [Failure.of]
    case ok text => 
      cases hp : StoredContext.parse text
      all_goals simp [hp, Failure.during, Failure.within, Failure.of]

theorem readContext_of_error {e : FileError} (hv : Segment.valid m) (he : e ≠ .notFound) 
    (h : t.read (contextPath dir m) = .error e) : 
    readContext t dir m = .error ⟨[.read (contextPath dir m)], .file e⟩ := by
  cases e <;> simp_all [readContext, checkName]

theorem readContext_congr (h : t'.read (contextPath dir m) = t.read (contextPath dir m)) : 
    readContext t' dir m = readContext t dir m := by
  simp only [readContext, h]

theorem utf8ByteSize_context (m : String) : (m ++ ".toml").utf8ByteSize = m.utf8ByteSize + 5 := by
  rw [String.utf8ByteSize_append]
  rfl

theorem readDefault_save (ht : t.Rooted) (hd : ".." ∉ dir.segments) 
    (hs : (Action.save n c).succeeds dir t) : 
    readDefault ((Action.save n c).apply dir t) dir = readDefault t dir := by
  have hv := valid_of_succeeds hs
  simp only [Action.succeeds, Action.apply, save_of_valid hv] at hs ⊢
  have hr := read_replaceFile_of_ne ht hd isName_default (isName_context hv) 
    (isName_temporary (Segment.slash_not_mem_of_valid hv)) (context_ne_default n).symm 
    (ne_temporary isLasting_default n) (exists_of_isOk hs)
  rw [if_neg fun h => absurd h.left (by decide)] at hr
  simp only [readDefault, defaultPath, contextPath, temporaryPath, hr]

-- The answer for another context is the same as before. Only where nothing could be found because 
-- there was no directory, a name that is too long is now refused.
theorem readContext_save_of_ne (ht : t.Rooted) (hd : ".." ∉ dir.segments) 
    (hs : (Action.save n c).succeeds dir t) (hm : m ≠ n) : 
    readContext ((Action.save n c).apply dir t) dir m = 
      if 250 < m.utf8ByteSize ∧ readContext t dir m = .error (.of (.noContext m dir)) then
        .error ⟨[.read (contextPath dir m)], .file .nameTooLong⟩ 
      else readContext t dir m := by
  have hv := valid_of_succeeds hs
  simp only [Action.succeeds, Action.apply, save_of_valid hv, readContext_eq_noContext_iff] at hs ⊢
  cases hw : Segment.valid m
  case false => simp [readContext, checkName, hw]
  case true  =>
    have hr := read_replaceFile_of_ne ht hd (isName_context hw) (isName_context hv) 
      (isName_temporary (Segment.slash_not_mem_of_valid hv)) (by simpa using hm) 
      (ne_temporary (isLasting_context m) n) (exists_of_isOk hs)
    rw [utf8ByteSize_context] at hr
    split
    case isTrue hl  => 
      rw [if_pos ⟨by omega, hl.right.right⟩] at hr
      exact readContext_of_error hw (by decide) hr
    case isFalse hl => 
      rw [if_neg fun h => hl ⟨by omega, rfl, h.right⟩] at hr
      exact readContext_congr hr

-- What it means that a context has been saved: it can be loaded until another one is saved under its
-- name, and nothing is different for those who ask for the default or for other contexts, but for
-- names that are too long.
structure Saved (dir : Path) (n : String) (c : StoredContext) (t t' : FileTree) : Prop where
  kept    : ∀ actions, Fails (·.Saves n) dir t' actions → readContext (run dir t' actions) dir n = .ok c
  default : readDefault t' dir = readDefault t dir
  others  : ∀ m ≠ n, readContext t' dir m = 
    if 250 < m.utf8ByteSize ∧ readContext t dir m = .error (.of (.noContext m dir)) then
      .error ⟨[.read (contextPath dir m)], .file .nameTooLong⟩ 
    else readContext t dir m

-- Every save that succeeds brings this about, whatever was done before it.
theorem saved_of_succeeds (ht : t.Rooted) (hd : ".." ∉ dir.segments) 
    (hs : (Action.save n c).succeeds dir (run dir t before)) : 
    Saved dir n c (run dir t before) (run dir t (before ++ [.save n c])) := by
  have ht := rooted_run ht dir before
  rw [run_append]
  constructor
  case kept    => 
    intro actions ha
    have hv := valid_of_succeeds hs
    refine readContext_of_read hv (read_run (isName_context hv) (isLasting_context n) (read_save hs) ha ?_)
    exact fun _ => Action.saves_of_file?
  case default => exact readDefault_save ht hd hs
  case others  => exact fun m hm => readContext_save_of_ne ht hd hs hm

-- The default is set before, and the text holds all kinds of marks.
theorem saved_of_succeeds_prod : 
    let dir : Path := ⟨"/settings"⟩ 
    let t : FileTree := ⟨[(["settings"], .directory)], []⟩ 
    let c : StoredContext := ⟨"a \"b\"\\\n\u0001'''é", ⟨"h:1", false, true⟩⟩ 
    t.Rooted ∧ ".." ∉ dir.segments ∧ 
      (Action.save "prod" c).succeeds dir (run dir t [.setDefault (some "prod")]) ∧ 
      Saved dir "prod" c (run dir t [.setDefault (some "prod")]) 
        (run dir t [.setDefault (some "prod"), .save "prod" c]) := by
  intro dir t c
  have ht : t.Rooted := (FileTree.Rooted.empty []).put nofun ⟨"settings", [], rfl, rfl⟩ 
  have hd : ".." ∉ dir.segments := by decide
  have hs : (Action.save "prod" c).succeeds dir (run dir t [.setDefault (some "prod")]) := by decide
  exact ⟨ht, hd, hs, saved_of_succeeds ht hd hs⟩ 

-- A name that is longer than the name of a file can be.
def overlong : String :=
  .ofList (List.replicate 260 'm')

theorem toList_overlong : overlong.toList = List.replicate 260 'm' := 
  String.toList_ofList

theorem utf8ByteSize_overlong : overlong.utf8ByteSize = 260 := by
  decide +kernel

theorem valid_overlong : Segment.valid overlong := by
  rw [Segment.valid_iff, toList_overlong]
  exact ⟨List.cons_ne_nil _ _, fun c hc => (List.mem_replicate.mp hc).right ▸ rfl⟩

theorem check_overlong : FileTree.check (contextPath ⟨"/settings"⟩ overlong) = .ok () := by
  have hp : contextPath ⟨"/settings"⟩ overlong = ⟨"/settings" ++ "/" ++ (overlong ++ ".toml")⟩ := by
    rw [contextPath, Path.join, (isName_context valid_overlong).not_isAbsolute]
    rfl
  have hn : '\x00' ∉ (contextPath ⟨"/settings"⟩ overlong).text.toList := by
    simp only [hp, String.toList_append, toList_overlong, List.mem_append, List.mem_replicate]
    decide
  have hs : (contextPath ⟨"/settings"⟩ overlong).text.utf8ByteSize = 275 := by
    simp only [hp, String.utf8ByteSize_append, utf8ByteSize_overlong]
    decide
  have he : (contextPath ⟨"/settings"⟩ overlong).text ≠ "" := by
    intro he
    simp [he] at hs
  simp [FileTree.check, hn, hs, he, FileTree.tooLong]

-- As long as there is no directory, a name that is too long is only not found.
theorem overlong_refused_once_saved : 
    let dir : Path := ⟨"/settings"⟩ 
    let c : StoredContext := ⟨"w", ⟨"h:1", true, false⟩⟩ 
    FileTree.Rooted ⟨[], []⟩ ∧ ".." ∉ dir.segments ∧ (Action.save "a" c).succeeds dir ⟨[], []⟩ ∧ 
      overlong ≠ "a" ∧ 
      readContext ⟨[], []⟩ dir overlong = .error (.of (.noContext overlong dir)) ∧ 
      readContext (run dir ⟨[], []⟩ [.save "a" c]) dir overlong = 
        .error ⟨[.read (contextPath dir overlong)], .file .nameTooLong⟩ := by
  intro dir c
  have ht := FileTree.Rooted.empty []
  have hd : ".." ∉ dir.segments := by decide
  have hs : (Action.save "a" c).succeeds dir ⟨[], []⟩ := by decide
  have hn : overlong ≠ "a" := by
    intro he
    exact absurd (he ▸ utf8ByteSize_overlong) (by decide)
  let t : FileTree := ⟨[], []⟩ 
  have hl : t.walk (t.start dir) dir.lead = .ok ["settings"] := by decide
  have hr : readContext ⟨[], []⟩ dir overlong = .error (.of (.noContext overlong dir)) := 
    readContext_eq_noContext_iff.mpr ⟨valid_overlong, 
      FileTree.read_join_of_missing (isName_context valid_overlong) check_overlong (.inr ⟨hl, rfl⟩)⟩ 
  refine ⟨ht, hd, hs, hn, hr, (readContext_save_of_ne ht hd hs hn).trans (if_pos ⟨?_, hr⟩)⟩ 
  rw [utf8ByteSize_overlong]
  decide

end Rollout.ContextStore
