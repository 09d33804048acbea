import Mathlib.Tactic.ByContra
import Rollout.Proofs.ContextStore
namespace Rollout.ContextStore

variable {dir : Path} {t : FileTree} {name file s : String} {c : StoredContext} {a : Action} 
variable {actions : List Action} {r : Except Failure Unit}

theorem save_of_valid (h : Segment.valid name) : save dir name c t = 
    replaceFile t (contextPath dir name) (temporaryPath dir name) c.text := by
  simp [save, checkName, h]

theorem save_of_not_valid (h : Segment.valid name = false) : 
    save dir name c t = (t, .error (.of (.contextName name))) := by
  simp [save, checkName, h]

def defaultText (name : Option String) : String :=
  name.getD noDefault ++ "\n"

theorem setDefault_of_valid {name : Option String} (h : ∀ n ∈ name, Segment.valid n) : 
    setDefault dir name t = 
      replaceFile t (defaultPath dir) (temporaryPath dir defaultFile) (defaultText name) := by
  cases name <;> simp_all [setDefault, checkName, defaultText]

theorem setDefault_of_not_valid {name : Option String} (dir : Path) (t : FileTree) 
    (h : ¬∀ n ∈ name, Segment.valid n) : ∃ f, setDefault dir name t = (t, .error f) := by
  cases name <;> simp_all [setDefault, checkName]

-- The file that an action replaces, if it succeeds.
def Action.file? : Action → Option String
  | .save name _  => some (name ++ ".toml")
  | .setDefault _ => some defaultFile
  | .load _       => none
  | .readDefault  => none

-- An action takes nothing away but the text of the one file that it replaces.
theorem read_apply (hf : Path.IsName file) (hl : isLasting file) (hs : t.read (dir.join ⟨file⟩) = .ok s) 
    (ha : a.succeeds dir t → a.file? ≠ some file) : (a.apply dir t).read (dir.join ⟨file⟩) = .ok s := by
  have hr (name other text) (hn : '/' ∉ name.toList) (ho : Path.IsName other) 
      (hd : (replaceFile t (dir.join ⟨other⟩) (temporaryPath dir name) text).2.isOk → other ≠ file) : 
      (replaceFile t (dir.join ⟨other⟩) (temporaryPath dir name) text).1.read (dir.join ⟨file⟩) = .ok s := by
    refine read_replaceFile_of_apart hs ?_ ?_
    case refine_1 => exact FileTree.apart_join hf (isName_temporary hn) (ne_temporary hl name)
    case refine_2 => exact fun h => FileTree.apart_join hf ho (Ne.symm (hd (by rw [h]; rfl)))
  cases a
  case load        => exact hs
  case readDefault => exact hs
  case save name c =>
    cases hv : Segment.valid name
    case false => simpa [Action.apply, save_of_not_valid hv] using hs
    case true  => 
      simp only [Action.apply, Action.succeeds, Action.file?, save_of_valid hv] at ha ⊢
      exact hr _ _ _ (Segment.slash_not_mem_of_valid hv) (isName_context hv) fun h he => ha h (by rw [he])
  case setDefault name => 
    by_cases hv : ∀ n ∈ name, Segment.valid n
    case neg => 
      obtain ⟨_, hf⟩ := setDefault_of_not_valid dir t hv
      simpa [Action.apply, hf] using hs
    case pos => 
      simp only [Action.apply, Action.succeeds, Action.file?, setDefault_of_valid hv] at ha ⊢
      exact hr _ _ _ (by decide) isName_default fun h he => ha h (by rw [he])

def Action.Saves (name : String) (a : Action) : Prop :=
  ∃ c, a = .save name c

def Action.SetsDefault (a : Action) : Prop :=
  ∃ name, a = .setDefault name

theorem Action.saves_of_file? (h : a.file? = some (name ++ ".toml")) : a.Saves name := by
  cases a
  case save name' c  => 
    obtain rfl : name' = name := by simpa [file?] using h
    exact ⟨c, rfl⟩
  case setDefault    => exact absurd (Option.some.inj h).symm (context_ne_default name)
  case load          => contradiction
  case readDefault   => contradiction

theorem Action.setsDefault_of_file? (h : a.file? = some defaultFile) : a.SetsDefault := by
  cases a
  case save name _   => exact absurd (Option.some.inj h) (context_ne_default name)
  case setDefault    => exact ⟨_, rfl⟩
  case load          => contradiction
  case readDefault   => contradiction

-- In a run, no action of some kind succeeds.
def Fails (kind : Action → Prop) (dir : Path) (t : FileTree) (actions : List Action) : Prop :=
  ∀ before a after, actions = before ++ a :: after → kind a → a.succeeds dir (run dir t before) = false

-- An action succeeds in a run, and afterwards none of some kind does.
def Last (kind : Action → Prop) (a : Action) (dir : Path) (t : FileTree) (actions : List Action) : Prop :=
  ∃ before after, actions = before ++ a :: after ∧ a.succeeds dir (run dir t before) ∧ 
    Fails kind dir (run dir t (before ++ [a])) after

variable {kind : Action → Prop}

namespace Fails

theorem nil : Fails kind dir t [] := by
  intro before a after h
  simp at h

theorem cons (ha : kind a → a.succeeds dir t = false) (h : Fails kind dir (a.apply dir t) actions) : 
    Fails kind dir t (a :: actions) := by
  intro before b after he hb
  cases before
  case nil  => 
    cases he
    exact ha hb
  case cons => 
    cases he
    exact h _ b after rfl hb

theorem head (h : Fails kind dir t (a :: actions)) (ha : kind a) : a.succeeds dir t = false :=
  h [] a actions rfl ha

theorem tail (h : Fails kind dir t (a :: actions)) : Fails kind dir (a.apply dir t) actions := by
  rintro before b after rfl
  exact h (a :: before) b after rfl

end Fails

theorem run_append (dir : Path) (t : FileTree) (before after : List Action) : 
    run dir t (before ++ after) = run dir (run dir t before) after :=
  List.foldl_append

theorem read_run (hf : Path.IsName file) (hl : isLasting file) (hs : t.read (dir.join ⟨file⟩) = .ok s) 
    (ha : Fails kind dir t actions) (hk : ∀ a : Action, a.file? = some file → kind a) : 
    (run dir t actions).read (dir.join ⟨file⟩) = .ok s := by
  induction actions generalizing t
  case nil          => exact hs
  case cons a as hi => 
    refine hi (read_apply hf hl hs fun hs he => ?_) ha.tail
    simp [ha.head (hk a he)] at hs

-- What is written last is what is read.
theorem read_of_last (hf : Path.IsName file) (hl : isLasting file) (ha : Last kind a dir t actions) 
    (hk : ∀ a : Action, a.file? = some file → kind a) 
    (hs : ∀ t, a.succeeds dir t → (a.apply dir t).read (dir.join ⟨file⟩) = .ok s) : 
    (run dir t actions).read (dir.join ⟨file⟩) = .ok s := by
  obtain ⟨before, after, rfl, ha, hn⟩ := ha
  rw [List.append_cons, run_append]
  refine read_run hf hl ?_ hn hk
  rw [run_append]
  exact hs _ ha

theorem exists_of_isOk (h : r.isOk) : r = .ok () := by
  cases r
  case error => contradiction
  case ok    => rfl

theorem valid_of_succeeds (h : (Action.save name c).succeeds dir t) : Segment.valid name := by
  by_contra hv
  simp [Action.succeeds, save_of_not_valid (Bool.eq_false_iff.mpr hv), Except.isOk, Except.toBool] at h

theorem read_save (h : (Action.save name c).succeeds dir t) : 
    ((Action.save name c).apply dir t).read (contextPath dir name) = .ok c.text := by
  have hv := valid_of_succeeds h
  simp only [Action.succeeds, Action.apply, save_of_valid hv] at h ⊢
  exact read_replaceFile (exists_of_isOk h)

end Rollout.ContextStore
