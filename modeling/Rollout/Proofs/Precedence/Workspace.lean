import Rollout.Proofs.ContextStore.Current
import Rollout.Proofs.Ref
namespace Rollout.WorkspaceRef

-- Neither the flag nor the environment says anything.
structure Silent (flag environment : Option String) : Prop where
  flag        : flag.all Text.isBlank
  environment : environment.all Text.isBlank

-- The name of the workspace that a command works in, by the source that decides.
inductive Named (flag environment : Option String) (store : ContextStore) : String → Prop
  | flag {s w} (given : flag = some s) (nonblank : Text.isBlank s = false) (trims : Text.Trims s w) : 
    Named flag environment store w
  | environment {s w} (silent : flag.all Text.isBlank) (given : environment = some s) 
    (nonblank : Text.isBlank s = false) (trims : Text.Trims s w) : Named flag environment store w
  | context {c w} (silent : Silent flag environment) (holds : store.Holds (some c)) 
    (nonblank : Text.isBlank c.workspace = false) (trims : Text.Trims c.workspace w) : 
    Named flag environment store w
  | usual {c?} (silent : Silent flag environment) (holds : store.Holds c?) 
    (blank : ∀ c ∈ c?, Text.isBlank c.workspace) : Named flag environment store "default"

variable {s flag environment : Option String} {store : ContextStore} {w : WorkspaceRef} {f : Failure}

theorem given?_eq_some_iff : 
    given? s = some w ↔ ∃ u, s = some u ∧ Text.isBlank u = false ∧ Text.Trims u w.name := by
  simp only [Text.trims_iff, ← Text.given?_eq_some_iff, given?]
  cases h : Text.given? s
  case none   => simp
  case some u => 
    have hu := Text.not_isBlank_of_given? h
    simp [ofName_of_nonblank hu, Except.toOption, WorkspaceRef.ext_iff]

theorem given?_eq_none_iff : given? s = none ↔ s.all Text.isBlank := by
  rw [← Text.given?_eq_none_iff, given?]
  cases h : Text.given? s
  case none   => simp
  case some u => 
    have hu := Text.not_isBlank_of_given? h
    simp [ofName_of_nonblank hu, Except.toOption]

theorem or_given?_eq_none_iff : 
    (given? flag).or (given? environment) = none ↔ Silent flag environment := by
  rw [Option.or_eq_none_iff, given?_eq_none_iff, given?_eq_none_iff]
  exact ⟨fun ⟨hf, he⟩ => ⟨hf, he⟩, fun h => ⟨h.flag, h.environment⟩⟩ 

theorem resolve_of_some (h : (given? flag).or (given? environment) = some w) : 
    resolve flag environment store = pure w := by
  rw [resolve, h]

theorem resolve_of_silent (h : Silent flag environment) : resolve flag environment store = 
    store.current >>= fun c? => pure ((given? (c?.map (·.workspace))).getD .default) := by
  rw [resolve, or_given?_eq_none_iff.mpr h]

theorem named_of_some (h : (given? flag).or (given? environment) = some w) : 
    Named flag environment store w.name := by
  cases Option.or_eq_some_iff.mp h
  case inl h =>
    obtain ⟨_, hs, hb, ht⟩ := given?_eq_some_iff.mp h
    exact .flag hs hb ht
  case inr h => 
    obtain ⟨_, hs, hb, ht⟩ := given?_eq_some_iff.mp h.right
    exact .environment (given?_eq_none_iff.mp h.left) hs hb ht

theorem named_of_holds {c? : Option StoredContext} (h : Silent flag environment) (hc : store.Holds c?) : 
    Named flag environment store ((given? (c?.map (·.workspace))).getD .default).name := by
  cases hg : given? (c?.map (·.workspace))
  case some w => 
    obtain ⟨_, hs, hb, ht⟩ := given?_eq_some_iff.mp hg
    obtain ⟨_, rfl, rfl⟩ := Option.map_eq_some_iff.mp hs
    exact .context h hc hb ht
  case none   =>
    refine .usual h hc fun c hm => ?_
    cases hm
    exact given?_eq_none_iff.mp hg

theorem result_of_named {n : String} (h : Named flag environment store n) (hw : w.name = n) : 
    (resolve flag environment store).result = .ok w := by
  cases h
  case flag hs hb ht             => 
    have hf : given? flag = some w := given?_eq_some_iff.mpr ⟨_, hs, hb, hw ▸ ht⟩
    rw [resolve_of_some (by rw [hf, Option.some_or]), Traced.result_pure]
  case environment hf hs hb ht   =>
    have he : given? environment = some w := given?_eq_some_iff.mpr ⟨_, hs, hb, hw ▸ ht⟩
    rw [resolve_of_some (by rw [given?_eq_none_iff.mpr hf, he, Option.none_or]), Traced.result_pure]
  case context c silent hc hb ht =>
    have hg : given? (some c.workspace) = some w := given?_eq_some_iff.mpr ⟨_, rfl, hb, hw ▸ ht⟩
    rw [resolve_of_silent silent, ContextStore.result_derived_eq_ok_iff]
    exact ⟨_, hc, by rw [Option.map_some, hg, Option.getD_some]⟩ 
  case usual c? silent hc hb     =>
    have hg : given? (c?.map (·.workspace)) = none := given?_eq_none_iff.mpr (by cases c? <;> simp_all)
    have hd : WorkspaceRef.default = w := WorkspaceRef.ext hw.symm
    rw [resolve_of_silent silent, ContextStore.result_derived_eq_ok_iff]
    exact ⟨_, hc, by rw [hg, Option.getD_none, hd]⟩ 

theorem result_eq_ok_iff : 
    (resolve flag environment store).result = .ok w ↔ Named flag environment store w.name := by
  constructor
  case mpr => exact fun h => result_of_named h rfl
  case mp  =>
    intro h
    cases hg : (given? flag).or (given? environment)
    case some v =>
      rw [resolve_of_some hg, Traced.result_pure] at h
      cases h
      exact named_of_some hg
    case none   =>
      have hn := or_given?_eq_none_iff.mp hg
      rw [resolve_of_silent hn, ContextStore.result_derived_eq_ok_iff] at h
      obtain ⟨c?, hc, rfl⟩ := h
      exact named_of_holds hn hc

theorem result_eq_error_iff : 
    (resolve flag environment store).result = .error f ↔ Silent flag environment ∧ store.FailsWith f := by
  rw [← or_given?_eq_none_iff]
  cases hg : (given? flag).or (given? environment)
  case some v => simp [resolve_of_some hg]
  case none   => 
    have hs := or_given?_eq_none_iff.mp hg
    rw [resolve_of_silent hs, ContextStore.result_derived_eq_error_iff, and_iff_right rfl]

theorem Named.wellFormed {n : String} (h : Named flag environment store n) : 
    Text.isBlank n = false ∧ Text.Unpadded n := by
  cases h
  case flag hb ht        => exact ht.of_not_blank hb
  case environment hb ht => exact ht.of_not_blank hb
  case context hb ht     => exact ht.of_not_blank hb
  case usual             => exact ⟨by decide, Text.unpadded_of_word (Segment.valid_iff_word.mp (by decide))⟩ 

-- The workspace is settled by the first source that says something, and a store only matters if it is
-- needed. A store that fails then is an error, as is a broken default of a directory.
theorem settled_by_first_source (flag environment : Option String) (store : ContextStore) : 
    (∀ w, (resolve flag environment store).result = .ok w ↔ Named flag environment store w.name) ∧ 
      (∀ n, Named flag environment store n → Text.isBlank n = false ∧ Text.Unpadded n) ∧ 
      (∀ f, (resolve flag environment store).result = .error f ↔ 
        Silent flag environment ∧ store.FailsWith f) ∧ 
      (∀ t dir f, (resolve flag environment (.inDirectory t dir)).result = .error f ↔ 
        Silent flag environment ∧ ContextStore.Broken t dir f) ∧ 
      (¬Silent flag environment → (resolve flag environment store).events = [] ∧ 
        ∀ other, resolve flag environment other = resolve flag environment store) := by
  refine ⟨fun _ => result_eq_ok_iff, fun _ => Named.wellFormed, fun _ => result_eq_error_iff, ?_, ?_⟩ 
  case refine_1 => 
    intro t dir f
    rw [result_eq_error_iff, ContextStore.failsWith_inDirectory_iff]
  case refine_2 =>
    intro hn
    obtain ⟨w, hw⟩ := Option.ne_none_iff_exists'.mp (mt or_given?_eq_none_iff.mp hn)
    exact ⟨by rw [resolve_of_some hw, Traced.events_pure], 
      fun other => by rw [resolve_of_some hw, resolve_of_some hw]⟩

-- The default names a context that does not exist. That goes unnoticed as long as the environment
-- names a workspace.
theorem settled_by_first_source_dangling : 
    let dir : Path := ⟨"/settings"⟩ 
    let t : FileTree := ⟨[(["settings"], .directory), 
      ([".default", "settings"], .file (.text " prod\n"))], []⟩ 
    let store := ContextStore.inDirectory t dir
    ¬Silent (some "\t") (some " staging\n") ∧ 
      (resolve (some "\t") (some " staging\n") store).events = [] ∧ 
      (resolve (some "\t") (some " staging\n") store).result = .ok ⟨"staging", by decide⟩ ∧ 
      (resolve (some "\t") none store).result = .error (.of (.noContext "prod" dir)) := by
  intro dir t store
  have hs : ¬Silent (some "\t") (some " staging\n") := fun h => absurd h.environment (by decide)
  have hr : t.read (ContextStore.defaultPath dir) = .ok " prod\n" := by decide
  have hd : ContextStore.Names t dir "prod" := ⟨hr, Text.trims_iff.mpr (by decide), by decide, by decide⟩ 
  have ⟨hw, _, _, _, hn⟩ := settled_by_first_source (some "\t") (some " staging\n") store
  have ⟨_, _, _, hb, _⟩ := settled_by_first_source (some "\t") none store
  refine ⟨hs, (hn hs).left, (hw _).mpr ?_, (hb t dir _).mpr ⟨⟨by decide, by decide⟩, ?_⟩⟩ 
  case refine_1 => exact .environment (by decide) rfl (by decide) (Text.trims_iff.mpr (by decide))
  case refine_2 => exact .unloadable hd (.dangling (Segment.valid_iff_word.mp (by decide)) (by decide))

end Rollout.WorkspaceRef
