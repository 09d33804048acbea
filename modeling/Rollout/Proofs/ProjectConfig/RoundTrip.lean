import Rollout.Proofs.FileTree.Change
import Rollout.Proofs.ProjectConfig
import Rollout.Proofs.Toml.Layout
namespace Rollout.ProjectConfig

open Toml Writer

-- The lines of a written configuration: what stands in front of the apps, and a few for each app.
def appStatements (name : String) : List Statement :=
  [.itemTitle "app", .entry "name" (Writer.text name)]

def runnerStatements (enabled : Bool) : List Statement :=
  [.title "runner", .entry "enabled" (switch enabled)]

def front (c : ProjectConfig) : List Statement :=
  [.entry "project" (Writer.text c.project)]
    ++ (if c.apps.isEmpty then [.emptyList "app"] else [])
    ++ c.runner.elim [] runnerStatements

-- What these lines come to.
def appSection (name : String) : Section :=
  [("name", .value (.string name))]

def runnerSection (enabled : Bool) : Section :=
  [("runner", .table .named [("enabled", .value (.boolean enabled))])]

def frontSection (c : ProjectConfig) : Section :=
  [("project", .value (.string c.project))]
    ++ (if c.apps.isEmpty then [("app", .value (.array []))] else [])
    ++ c.runner.elim [] runnerSection

def root (c : ProjectConfig) : Section :=
  c.frontSection ++ if c.apps.isEmpty then [] else [("app", .tables (c.apps.map appSection))]

variable {s : Section} {d : Draft}

theorem laid_text (c : ProjectConfig) : 
    Statement.Laid c.text.toList (c.front ++ c.apps.flatMap appStatements) := by
  have hp := laid_entry "project" (by decide) (written_text c.project)
  have he : Statement.Laid (if c.apps.isEmpty then entry "app" "[]" else "").toList 
      (if c.apps.isEmpty then [.emptyList "app"] else []) := by
    split
    case isTrue  => exact laid_emptyList "app" (by decide)
    case isFalse => exact .nil
  have hr : Statement.Laid 
      (c.runner.elim "" fun enabled => titled "runner" (entry "enabled" (switch enabled))).toList 
      (c.runner.elim [] runnerStatements) := by
    cases c.runner
    case none         => exact .nil
    case some enabled => 
      exact laid_titled "runner" (by decide) (laid_entry "enabled" (by decide) (written_switch enabled))
  have ha := laid_join c.apps fun name _ => 
    laid_item "app" (by decide) (laid_entry "name" (by decide) (written_text name))
  have ht := laid_append (laid_append (laid_append (laid_append hp he) hr) ha) laid_break
  rwa [List.append_nil] at ht

theorem exists_foldlM_front (c : ProjectConfig) : 
    ∃ current, c.front.foldlM Draft.apply Draft.empty = .ok ⟨c.frontSection, current⟩ := by
  have hp := fun d : Draft => d.apply_entry "project" (by decide) (written_text c.project)
  have he := fun d : Draft => d.apply_emptyList "app" (by decide)
  have hr := fun d : Draft => d.apply_title "runner" (by decide)
  have hs := fun (d : Draft) b => d.apply_entry "enabled" (by decide) (written_switch b)
  unfold front frontSection
  split <;> cases c.runner
  all_goals simp [runnerStatements, runnerSection, hp, he, hr, hs, Draft.empty, Section.descend, 
    Section.assign, Section.openTable, Section.replace, orRedefined, List.lookup_cons]

theorem lookup_frontSection (c : ProjectConfig) (h : c.apps ≠ []) : 
    c.frontSection.lookup "app" = none := by
  unfold frontSection
  cases c.runner <;> simp [h, runnerSection, List.lookup_cons]

-- An app opens a table of its own at the end of the list, and the table holds its name.
theorem foldlM_appStatement (h : s.lookup "app" = none) (items : List Section) 
    (ho : Section.openItem "app" d.root = some (s ++ [("app", .tables (items ++ [[]]))])) 
    (name : String) : 
    (appStatements name).foldlM Draft.apply d = 
      .ok ⟨s ++ [("app", .tables (items ++ [appSection name]))], ["app"]⟩ := by
  have ht := d.apply_itemTitle "app" (by decide)
  have hn := fun d : Draft => d.apply_entry "name" (by decide) (written_text name)
  have hd : ∀ change, Section.descend change ["app"] (s ++ [("app", .tables (items ++ [[]]))]) = _ := 
    fun change => Section.descend_tables change h
  simp [appStatements, appSection, ht, ho, hn, hd, Section.assign, orRedefined]

theorem foldlM_appStatements (h : s.lookup "app" = none) (declared apps : List String) : 
    (apps.flatMap appStatements).foldlM Draft.apply 
        ⟨s ++ [("app", .tables (declared.map appSection))], ["app"]⟩ = 
      .ok ⟨s ++ [("app", .tables ((declared ++ apps).map appSection))], ["app"]⟩ := by
  induction apps generalizing declared
  case nil               => simp
  case cons name apps hi =>
    have ha := fun current => foldlM_appStatement h (d := ⟨_, current⟩) (declared.map appSection) 
      (Section.openItem_tables h) name
    have hi := hi (declared ++ [name])
    simp only [List.map_append, List.map_cons, List.map_nil, List.append_assoc, 
      List.singleton_append] at hi
    rw [List.flatMap_cons, List.foldlM_append, ha, Except.ok_bind]
    simpa using hi

theorem foldlM_apps (h : s.lookup "app" = none) (current : List String) (name : String) 
    (apps : List String) : 
    ((name :: apps).flatMap appStatements).foldlM Draft.apply ⟨s, current⟩ = 
      .ok ⟨s ++ [("app", .tables ((name :: apps).map appSection))], ["app"]⟩ := by
  have ha := foldlM_appStatement h (d := ⟨s, current⟩) [] (Section.openItem_new h) name
  have hs := foldlM_appStatements h [name] apps
  rw [List.map_singleton] at hs
  rw [List.flatMap_cons, List.foldlM_append, ha, Except.ok_bind, List.nil_append, hs, 
    List.singleton_append]

theorem exists_foldlM_statements (c : ProjectConfig) : ∃ current, 
    (c.front ++ c.apps.flatMap appStatements).foldlM Draft.apply Draft.empty = 
      .ok ⟨c.root, current⟩ := by
  have ⟨current, hf⟩ := c.exists_foldlM_front
  rw [List.foldlM_append, hf, Except.ok_bind, root]
  cases h : c.apps
  case nil            => exact ⟨current, by simp⟩
  case cons name apps => 
    refine ⟨["app"], ?_⟩
    rw [foldlM_apps (c.lookup_frontSection (h ▸ List.cons_ne_nil _ _))]
    rfl

theorem mapM_app?_toTables (apps : List String) : 
    (Section.toTables (apps.map appSection)).mapM app? = some apps := by
  induction apps
  case nil        => rfl
  case cons _ _ hi => 
    simp [Section.toTables, appSection, Section.toTable, Node.toValue, app?, parts?, text?, hi]

theorem ofTable?_root (c : ProjectConfig) : ofTable? (Section.toTable c.root) = some c := by
  rcases c with ⟨project, runner, apps⟩
  have ha := mapM_app?_toTables apps
  cases apps <;> cases runner
  all_goals simp_all [root, frontSection, runnerSection, Section.toTable, Node.toValue, ofTable?, parts?, 
    List.lookup_cons, text?, runner?, switch?, apps?]

theorem head?_text (c : ProjectConfig) : c.text.toList.head? ≠ some '\ufeff' := by
  simp [text, entry]

-- A written configuration is read as it was.
theorem parse_text (c : ProjectConfig) : parse c.text = .ok c := by
  have ⟨_, hd⟩ := c.exists_foldlM_statements
  have hr := Document.read_of_laid c.laid_text c.head?_text hd
  simp [parse, hr, c.ofTable?_root, Failure.because]

theorem load_of_save {t t' : FileTree} {p : Path} {c : ProjectConfig} 
    (h : save t p c = (t', .ok ())) : load t' p = .ok c := by
  have ⟨hv, hw⟩ := save_eq_ok_iff.mp h
  exact load_eq_ok_iff.mpr ⟨c.text, FileTree.read_of_write hw, c.parse_text, hv⟩

-- A configuration is refused for a fault in it, whatever the file and its surroundings are, and before
-- anything is written. One that is not refused fails to be saved only if its file cannot be written, 
-- which leaves everything as it was, and is loaded as it was saved.
theorem loaded_as_saved (c : ProjectConfig) (t : FileTree) (p : Path) : 
    (¬c.Valid ↔ ∃ cause, c.Fault cause ∧ ∀ t p, save t p c = (t, .error (.of cause))) ∧ 
    (c.Valid → ∀ t' f, save t p c = (t', .error f) ↔ 
      t' = t ∧ ∃ e, t.write p c.text = .error e ∧ f = ⟨[.write p], .file e⟩) ∧ 
    ∀ t', save t p c = (t', .ok ()) → load t' p = .ok c := by
  refine ⟨⟨fun hv => ?_, fun ⟨_, hf, _⟩ => hf.not_valid⟩, fun hv _ _ => save_eq_error_iff hv, 
    fun _ => load_of_save⟩
  cases h : c.validate
  case error cause => exact ⟨cause, fault_of_validate h, save_of_validate h⟩
  case ok          => exact absurd (validate_eq_ok_iff.mp h) hv

-- Without a runner section, and with one that says no. An app that is declared twice leaves the file as 
-- it is.
theorem loaded_as_saved_shop : 
    let t : FileTree := ⟨[], []⟩
    let p : Path := ⟨"/deployctl.toml"⟩
    let c : ProjectConfig := ⟨"shop", some false, ["web", "api"]⟩
    let twice : ProjectConfig := ⟨"shop", none, ["web", "api", "web"]⟩
    c.Valid ∧ ∃ t', save t p c = (t', .ok ()) ∧ load t' p = .ok c ∧ 
      ¬twice.Valid ∧ save t' p twice = (t', .error (.of (.repeatedApp "web"))) := by
  intro t p c twice
  have hs : (save t p c).2 = .ok () := by decide +kernel
  have ht : save t p c = ((save t p c).1, .ok ()) := Prod.ext rfl hs
  have invalid : ¬twice.Valid := by
    rw [← validate_eq_ok_iff]
    decide
  have ⟨cause, fault, refused⟩ := (loaded_as_saved twice t p).left.mp invalid
  have found : twice.validate = .error (.repeatedApp "web") := by decide
  cases (validate_of_fault fault).symm.trans found
  exact ⟨(save_eq_ok_iff.mp ht).left, _, ht, (loaded_as_saved c t p).right.right _ ht, invalid, 
    refused _ _⟩

end Rollout.ProjectConfig
