import Rollout.Proofs.ContextStore.RoundTrip
import Rollout.Proofs.ContextStore.Run
import Rollout.Proofs.Precedence.Connection
import Rollout.Proofs.Precedence.Workspace
namespace Rollout.ContextStore

variable {dir : Path} {t : FileTree} {name : Option String} {n s : String} {c : StoredContext}
variable {actions : List Action}

theorem trim_line (h : Segment.valid n) : Text.trim (n ++ "\n") = n := by
  have around : (n ++ "\n").toList = [] ++ n.toList ++ ['\n'] := by simp
  have blank : ∀ c ∈ ['\n'], Text.isBlankChar c := List.forall_mem_singleton.mpr rfl
  exact Text.trims_iff.mp ⟨⟨[], ['\n'], around, nofun, blank⟩, Text.unpadded_of_word (Segment.valid_iff_word.mp h)⟩ 

-- The mark for no default is a word itself, and so it is read as the others are.
theorem readDefault_of_read (hv : ∀ n ∈ name, Segment.valid n) 
    (h : t.read (defaultPath dir) = .ok (defaultText name)) : 
    readDefault t dir = .ok (name.filter (· ≠ noDefault)) := by
  have hv : Segment.valid (name.getD noDefault) := by
    cases name
    case none   => decide
    case some n => exact hv n rfl
  have hn : name.getD noDefault ≠ "" := by
    intro he
    rw [he] at hv
    contradiction
  simp only [readDefault, h, defaultText, trim_line hv]
  cases name <;> simp_all [Option.filter]

theorem readContext_of_read (hv : Segment.valid n) (h : t.read (contextPath dir n) = .ok c.text) : 
    readContext t dir n = .ok c := by
  simp [readContext, checkName, hv, h, c.parse_text, Failure.during]

theorem read_setDefault (h : (Action.setDefault name).succeeds dir t) : 
    (∀ n ∈ name, Segment.valid n) ∧ 
      ((Action.setDefault name).apply dir t).read (defaultPath dir) = .ok (defaultText name) := by
  by_cases hv : ∀ n ∈ name, Segment.valid n
  case neg => 
    have ⟨_, hf⟩ := setDefault_of_not_valid dir t hv
    simp [Action.succeeds, hf, Except.isOk, Except.toBool] at h
  case pos =>
    simp only [Action.succeeds, Action.apply, setDefault_of_valid hv] at h ⊢
    exact ⟨hv, read_replaceFile (exists_of_isOk h)⟩

theorem readContext_of_last (h : Last (·.Saves n) (.save n c) dir t actions) : 
    readContext (run dir t actions) dir n = .ok c := by
  have ⟨_, _, _, hs, _⟩ := h
  have hv := valid_of_succeeds hs
  refine readContext_of_read hv (read_of_last (isName_context hv) (isLasting_context n) h ?_ ?_)
  case refine_1 => exact fun _ => Action.saves_of_file?
  case refine_2 => exact fun _ => read_save

-- What is decided by a context that is the default one.
structure Decides (c : StoredContext) (store : ContextStore) : Prop where
  workspace  : (WorkspaceRef.resolve none none store).result.map (·.name) = 
    .ok (if Text.isBlank c.workspace then "default" else Text.trim c.workspace)
  connection : Text.isBlank c.connection.address = false → 
    (Connection.resolve none store).result = .ok (some c.connection)

theorem decides_of_default {store : ContextStore} (hd : store.default = .ok (some n)) 
    (hl : store.load n = .ok c) : Decides c store := by
  have hc : store.Holds (some c) := .context hd hl
  constructor
  case workspace => 
    have silent : WorkspaceRef.Silent none none := ⟨rfl, rfl⟩ 
    cases hb : Text.isBlank c.workspace
    case false => 
      have hn := WorkspaceRef.Named.context silent hc hb (Text.trims_trim c.workspace)
      have hw : (WorkspaceRef.resolve none none store).result = .ok ⟨Text.trim c.workspace, by simpa using hb⟩ := 
        WorkspaceRef.result_of_named hn rfl
      simp [hw, Except.map]
    case true  => 
      have hn := WorkspaceRef.Named.usual silent hc (by simpa using hb)
      have hw : (WorkspaceRef.resolve none none store).result = .ok .default := 
        WorkspaceRef.result_of_named hn rfl
      simp [hw, WorkspaceRef.default, Except.map]
  case connection =>
    intro hb
    have silent : ({} : Flags).serverAddress.all Text.isBlank := rfl
    exact Connection.result_eq_ok_iff.mpr (.context silent hc hb)

-- The default that is set last is the one that is read, except for the one context whose name is 
-- the mark for no default: to set that one is to set none.
theorem default_of_last (h : Last Action.SetsDefault (.setDefault name) dir t actions) : 
    readDefault (run dir t actions) dir = .ok (name.filter (· ≠ noDefault)) ∧ 
      ∀ n c, name = some n → n ≠ noDefault → Last (·.Saves n) (.save n c) dir t actions → 
        Decides c (inDirectory (run dir t actions) dir) := by
  have ⟨_, _, _, hs, _⟩ := h
  have hv := (read_setDefault hs).left
  have hr := read_of_last isName_default isLasting_default h (fun _ => Action.setsDefault_of_file?) 
    fun _ hs => (read_setDefault hs).right
  have hd := readDefault_of_read hv hr
  refine ⟨hd, ?_⟩ 
  rintro n c rfl hn hc
  refine decides_of_default (n := n) ?_ (readContext_of_last hc)
  simpa [inDirectory, Option.filter, hn] using hd

-- A failed attempt to set another default changes nothing.
theorem default_of_last_refused :
    let dir : Path := ⟨"/settings"⟩ 
    let c : StoredContext := ⟨" staging\n", ⟨"example.org:8080", false, true⟩⟩ 
    let actions : List Action := 
      [.save "prod" c, .setDefault (some "prod"), .setDefault (some "a.b"), .load "prod"]
    Last Action.SetsDefault (.setDefault (some "prod")) dir ⟨[], []⟩ actions ∧
      Last (·.Saves "prod") (.save "prod" c) dir ⟨[], []⟩ actions ∧ 
      readDefault (run dir ⟨[], []⟩ actions) dir = .ok (some "prod") ∧ 
      Decides c (inDirectory (run dir ⟨[], []⟩ actions) dir) := by
  intro dir c actions
  have hd : Last Action.SetsDefault (.setDefault (some "prod")) dir ⟨[], []⟩ actions := 
    ⟨[.save "prod" c], [.setDefault (some "a.b"), .load "prod"], rfl, by decide, 
      .cons (fun _ => by decide) (.cons (nomatch ·) .nil)⟩ 
  have hc : Last (·.Saves "prod") (.save "prod" c) dir ⟨[], []⟩ actions :=
    ⟨[], [.setDefault (some "prod"), .setDefault (some "a.b"), .load "prod"], rfl, by decide,
      .cons (nomatch ·) (.cons (nomatch ·) (.cons (nomatch ·) .nil))⟩ 
  have ⟨hr, hw⟩ := default_of_last hd
  exact ⟨hd, hc, hr, hw "prod" c rfl (by decide) hc⟩ 

-- The context whose name is the mark for no default is saved as all others are, but it is not found
-- when it is the default one.
theorem mark_not_recalled : 
    let dir : Path := ⟨"/settings"⟩ 
    let c : StoredContext := ⟨"staging", ⟨"h:1", true, false⟩⟩ 
    let saved := run dir ⟨[], []⟩ [.save "-" c]
    let store := inDirectory (run dir saved [.setDefault (some "-")]) dir
    (Action.save "-" c).succeeds dir ⟨[], []⟩ ∧ (Action.setDefault (some "-")).succeeds dir saved ∧ 
      store.default = .ok none ∧ 
      (WorkspaceRef.resolve none none store).result.map (·.name) = .ok "default" ∧ 
      (Connection.resolve none store).result = .ok none := by
  decide

end Rollout.ContextStore
