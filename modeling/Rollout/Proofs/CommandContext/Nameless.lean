import Rollout.Proofs.CommandContext.Values
import Rollout.Proofs.Program.Preparation
import Rollout.Proofs.Variable.Merging
namespace Rollout.CommandContext

variable {inv : Invocation} {process : Environment} {demands : Demands} {env : Collaborators}
variable {t : FileTree} {config : Option LoadedConfig} {s : Stage}

-- A preparation that gets as far as to have all variables at hand that are to be set.
structure Collects (inv : Invocation) (demands : Demands) (env : Collaborators) : Prop where
  passed : ∀ s < Stage.values, (work inv demands env s).result = .ok ()
  read   : ∃ r paths files, (resolution inv demands env).result = .ok r ∧ 
    (automaticFiles env.files r.config).result = .ok paths ∧ 
      (readFiles env.files (paths ++ inv.flags.variableFiles)).result = .ok files

theorem loadVariables_within_eq_unnamed_iff : 
    (loadVariables t config (inv.within process)).result = .error (.unnamed (.emptyName .environment)) ↔ 
      process.Nameless ∧ ∃ paths files, (automaticFiles t config).result = .ok paths ∧ 
        (readFiles t (paths ++ inv.flags.variableFiles)).result = .ok files := by
  simp only [loadVariables_eq_unnamed_iff, Invocation.within, Variables.merge_eq_environment_iff, 
    ← Environment.nameless_iff]
  constructor
  case mp  => 
    rintro ⟨paths, files, hp, hf, hn⟩
    exact ⟨hn, paths, files, hp, hf⟩
  case mpr => 
    rintro ⟨hn, paths, files, hp, hf⟩
    exact ⟨paths, files, hp, hf, hn⟩

-- All other stages do the same whatever the environment sets.
theorem work_within (h : s ≠ .values) : work (inv.within process) demands env s = work inv demands env s := by
  cases s
  case values => contradiction
  all_goals rfl

theorem failsAt_within_iff : 
    FailsAt (inv.within process) demands env .values (.unnamed (.emptyName .environment)) ↔ 
      process.Nameless ∧ Collects inv demands env := by
  have earlier : ∀ s < Stage.values, work (inv.within process) demands env s = work inv demands env s := 
    fun s hs => work_within (by rintro rfl; exact absurd hs (by decide))
  constructor
  case mp  =>
    intro f
    have ⟨r, hr⟩ := exists_resolution (f.passed .target (by decide))
    have ⟨hn, paths, files, hp, hf⟩ := 
      loadVariables_within_eq_unnamed_iff.mp ((result_work_values hr).mp f.fails)
    exact ⟨hn, fun s hs => earlier s hs ▸ f.passed s hs, r, paths, files, hr, hp, hf⟩
  case mpr =>
    intro ⟨hn, passed, r, paths, files, hr, hp, hf⟩
    have hv := loadVariables_within_eq_unnamed_iff.mpr ⟨hn, paths, files, hp, hf⟩
    have resolved : (resolution (inv.within process) demands env).result = .ok r := hr
    exact ⟨(result_work_values resolved).mpr hv, fun s hs => earlier s hs ▸ passed s hs⟩ 

theorem init_within_eq_unnamed_iff : 
    (init (inv.within process) demands env).result = .error (.unnamed (.emptyName .environment)) ↔ 
      process.Nameless ∧ Collects inv demands env := by
  rw [← failsAt_within_iff, init_eq_error_iff]
  constructor
  case mpr => exact fun f => ⟨.values, f⟩
  case mp  =>
    intro ⟨s, f⟩
    have hr := f.raises
    cases s <;> simp only [Stage.Raises, reduceCtorEq, exists_false, or_self] at hr
    exact f

theorem init_within_ne_ok {c : CommandContext} (h : process.Nameless) : 
    (init (inv.within process) demands env).result ≠ .ok c := by
  intro hi
  cases init_eq_ok_iff.mp hi
  case intro values _ _ =>
    have ⟨_, _, _, _, hm⟩ := loadVariables_eq_ok_iff.mp values
    exact nomatch hm.symm.trans (Variables.merge_of_blank (Environment.nameless_iff.mp h))

-- Without blank names, what the environment sets is of no consequence for how a preparation goes.
theorem forget_loadVariables_within (h : ¬process.Nameless) : 
    (loadVariables t config (inv.within process)).forget = 
      (loadVariables t config (inv.within ⟨[]⟩)).forget := by
  simp only [loadVariables, Traced.forget_bind]
  refine Traced.bind_congr_of_ok fun _ _ => Traced.bind_congr_of_ok fun files _ => ?_
  have same := Variables.map_merge_of_named (Environment.named_of_not_nameless h) files 
    (inv.flags.assignments.map fun a => (a.key, a.value))
  ext1
  case events => simp
  case result => 
    simp only [Traced.result_forget, Traced.result_mapError, Traced.result_of, Except.map_mapError, 
      Invocation.within, Environment.assignments_nil, same]

theorem forget_init_within (h : ¬process.Nameless) : 
    (init (inv.within process) demands env).forget = (init (inv.within ⟨[]⟩) demands env).forget := by
  have same : work (inv.within process) demands env = work (inv.within ⟨[]⟩) demands env := by
    funext s
    by_cases hs : s = .values
    case neg => rw [work_within hs, work_within hs]
    case pos => 
      cases hs
      cases hr : (resolution inv demands env).result 
      all_goals
        have hr' : (resolution (inv.within process) demands env).result = _ := hr
        have hr'' : (resolution (inv.within ⟨[]⟩) demands env).result = _ := hr
        simp only [work, onceResolved, hr', hr'', forget_loadVariables_within h]
  rw [forget_init, forget_init, same]

-- What the environment can do to the commands that are run in it.
structure Bearing (process : Environment) : Prop where
  -- A name without any characters is passed over.
  collected : ∀ name value, (name, value) ∈ process.assignments ↔ 
    name ≠ "" ∧ (Environment.variableMark ++ name, value) ∈ process.entries
  accepted  : (∃ vs, Variables.merge ⟨process.assignments, [], []⟩ = .ok vs) ↔ ¬process.Nameless
  blamed    : ∀ files flags, 
    Variables.merge ⟨process.assignments, files, flags⟩ = .error (.emptyName .environment) ↔ 
      process.Nameless
  refused   : ∀ (inv : Invocation) demands env, 
    (init (inv.within process) demands env).result = .error (.unnamed (.emptyName .environment)) ↔ 
      process.Nameless ∧ Collects inv demands env
  broken    : process.Nameless → ∀ (inv : Invocation) demands env c, 
    (init (inv.within process) demands env).result ≠ .ok c
  -- Each preparation goes as it does if nothing is set, up to the values that are set.
  harmless  : ¬process.Nameless → ∀ (inv : Invocation) demands env, 
    (init (inv.within process) demands env).forget = (init (inv.within ⟨[]⟩) demands env).forget

theorem accepted_iff : 
    (∃ vs, Variables.merge ⟨process.assignments, [], []⟩ = .ok vs) ↔ ¬process.Nameless := by
  constructor
  case mp  =>
    intro ⟨vs, hm⟩ hn
    exact nomatch hm.symm.trans (Variables.merge_of_blank (Environment.nameless_iff.mp hn))
  case mpr =>
    intro hn
    cases hm : Variables.merge ⟨process.assignments, [], []⟩
    case ok vs   => exact ⟨vs, rfl⟩
    case error e => 
      have := (Variables.merge_eq_error_iff_of_named (Environment.named_of_not_nameless hn)).mp hm
      cases this

theorem broken_by_blank_names_only (process : Environment) : Bearing process where
  collected _ _   := Environment.mem_assignments_iff.trans 
    ⟨fun h => ⟨h.named, h.entry⟩, fun ⟨named, entry⟩ => ⟨named, entry⟩⟩
  accepted        := accepted_iff
  blamed _ _      := Variables.merge_eq_environment_iff.trans Environment.nameless_iff.symm
  refused _ _ _   := init_within_eq_unnamed_iff
  broken h _ _ _ _ := init_within_ne_ok h
  harmless h _ _ _ := forget_init_within h

-- A tab breaks every command, and a name with a blank in front of it none.
theorem broken_by_blank_names_only_tab : 
    let broken : Environment := ⟨[("DEPLOYCTL_VAR_\t", "x")]⟩ 
    let whole : Environment := ⟨[("DEPLOYCTL_VAR_ region", "eu"), ("DEPLOYCTL_VAR_", "x"), ("\t", "")]⟩ 
    let env : Collaborators := ⟨⟨[], []⟩, .ok none, ⟨.ok none, fun _ => .ok {}⟩, none⟩ 
    let demands : Demands := ⟨.appOptional, .loadOptional, false⟩ 
    (∀ c, (init (Invocation.within {} broken) demands env).result ≠ .ok c) ∧ 
      (init (Invocation.within {} broken) demands env).result = .error (.unnamed (.emptyName .environment)) ∧ 
      (init (Invocation.within {} whole) demands env).forget = 
        (init (Invocation.within {} ⟨[]⟩) demands env).forget := by
  intro broken whole env demands
  have nameless : broken.Nameless := ⟨"\t", "x", ⟨by decide, by decide +kernel⟩, by decide⟩ 
  have assigned : whole.assignments = [(" region", "eu")] := by
    have marked : Environment.variableName? "DEPLOYCTL_VAR_ region" = some " region" := by decide +kernel
    have bare : Environment.variableName? "DEPLOYCTL_VAR_" = none := by decide +kernel
    have unmarked : Environment.variableName? "\t" = none := by decide +kernel
    simp [whole, Environment.assignments, marked, bare, unmarked]
  have named : ¬whole.Nameless := by
    rw [Environment.nameless_iff, assigned]
    decide
  have collects : Collects {} demands env := by
    refine ⟨fun s hs => ?_, _, _, _, rfl, rfl, rfl⟩ 
    cases s
    case placement => rfl
    case workspace => rfl
    case target    => rfl
    all_goals exact absurd hs (by decide)
  have breaks := broken_by_blank_names_only broken
  have keeps := broken_by_blank_names_only whole
  exact ⟨breaks.broken nameless _ _ _, (breaks.refused _ _ _).mpr ⟨nameless, collects⟩, 
    keeps.harmless named _ _ _⟩ 

-- A single blank behind the mark is enough.
theorem blank_name_breaks_command :
    let process : Environment := ⟨[("DEPLOYCTL_VAR_ ", "x")]⟩
    let w : World := {
      files       := ⟨[], []⟩
      environment := ⟨[("DEPLOYCTL_VAR_ ", "x")]⟩
      workingDir  := .ok ⟨"/"⟩
      serverAt    := Server.unusable
    }
    w.environment.variables? = some process ∧ process.Nameless ∧ process.assignments = [(" ", "x")] ∧ 
    Variables.merge ⟨process.assignments, [], []⟩ = .error (.emptyName .environment) ∧ 
    Program.run ["context"] w = ⟨2, "", "! variable name must not be empty (source: Env)\n"⟩ ∧ 
    Program.run ["context"] { w with environment := ⟨[("DEPLOYCTL_VAR_", "x")]⟩ } = 
      ⟨0, "==> workspace: default\n", ""⟩ := by
  intro process w
  let line : CommandLine := ⟨.context, {}, []⟩ 
  let w' : World := { w with environment := ⟨[("DEPLOYCTL_VAR_", "x")]⟩ }
  let bare : Environment := ⟨[("DEPLOYCTL_VAR_", "x")]⟩ 
  have assigned : process.assignments = [(" ", "x")] := by cbv
  have unassigned : bare.assignments = [] := by
    have none : Environment.variableName? "DEPLOYCTL_VAR_" = none := by decide +kernel
    simp [bare, Environment.assignments, none]
  have read : CommandLine.read ["context"] = .ok line := by decide +kernel
  have nameless : process.Nameless := ⟨" ", "x", ⟨by decide, by decide +kernel⟩, by decide⟩
  have merged : Variables.merge ⟨[(" ", "x")], [], []⟩ = .error (.emptyName .environment) := by decide
  have broken : Program.run ["context"] w = 
      ⟨2, "", "! variable name must not be empty (source: Env)\n"⟩ := by
    have settled : (line.settle w).result = .ok ⟨⟨"/"⟩, none, process⟩ := 
      CommandLine.settle_eq_ok_iff.mpr ⟨rfl, .nowhere (by decide +kernel), rfl⟩ 
    rw [Program.run_of_read read, CommandLine.run_of_settled rfl settled, CommandLine.preparation, 
      CommandLine.invocation, assigned]
    decide +kernel
  have whole : Program.run ["context"] w' = ⟨0, "==> workspace: default\n", ""⟩ := by
    have settled : (line.settle w').result = .ok ⟨⟨"/"⟩, none, bare⟩ := 
      CommandLine.settle_eq_ok_iff.mpr ⟨rfl, .nowhere (by decide +kernel), rfl⟩ 
    rw [Program.run_of_read read, CommandLine.run_of_settled rfl settled, CommandLine.preparation, 
      CommandLine.invocation, unassigned]
    decide +kernel
  exact ⟨rfl, nameless, assigned, assigned ▸ merged, broken, whole⟩

end Rollout.CommandContext
