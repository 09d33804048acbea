import Mathlib.Data.List.Permutation
import Rollout.Proofs.CommandContext.Loading
import Rollout.Proofs.CommandContext.Prepared
import Rollout.Proofs.Environment
namespace Rollout

-- The same invocation in a process that has these variables.
def Invocation.within (inv : Invocation) (process : Environment) : Invocation :=
  { inv with environment := process.assignments }

namespace CommandContext

-- Where a variable has its value from: the last flag that names it, or else the last named file that
-- mentions it, or else the latest such file next to the configuration, or else the environment.
inductive Settled (flags : Flags) (process : Environment) (t : FileTree) 
    (config : Option LoadedConfig) : Variable → Prop
  | flag {name value} (last : LastOf (·.key = name) flags.assignments ⟨name, value⟩) : 
    Settled flags process t config ⟨name, value, .flag⟩
  | file {name value p} 
    (noFlag : ∀ a ∈ flags.assignments, a.key ≠ name) 
    (last : LastOf (VariableFile.Mentions t · name) flags.variableFiles p) 
    (holds : VariableFile.Holds t p name value) : 
    Settled flags process t config ⟨name, value, .file p⟩
  | automatic {name value loaded file} 
    (noFlag : ∀ a ∈ flags.assignments, a.key ≠ name)
    (noFile : ∀ p ∈ flags.variableFiles, ¬VariableFile.Mentions t p name)
    (brought : config = some loaded) (latest : VariableFile.Latest t loaded.dir name file)
    (holds : VariableFile.Holds t (loaded.dir.join ⟨file⟩) name value) : 
    Settled flags process t config ⟨name, value, .file (loaded.dir.join ⟨file⟩)⟩
  | environment {name value}
    (noFlag : ∀ a ∈ flags.assignments, a.key ≠ name)
    (noFile : ∀ p ∈ flags.variableFiles, ¬VariableFile.Mentions t p name)
    (noAutomatic : ∀ loaded file, config = some loaded → VariableFile.Unasked t loaded.dir file → 
      ¬VariableFile.Mentions t (loaded.dir.join ⟨file⟩) name)
    (sets : process.Sets name value)
    (greatest : ∀ other, process.Sets name other → Text.bytes other ≤ Text.bytes value) : 
    Settled flags process t config ⟨name, value, .environment⟩

variable {inv : Invocation} {process process' : Environment} {demands : Demands} {env : Collaborators}
variable {t t' : FileTree} {config : Option LoadedConfig} {vs : Variables} {v : Variable}

theorem lastOf_flags_iff {flags : List Assignment} {name value : String} : 
    LastOf (·.1 = name) (flags.map fun a => (a.key, a.value)) (name, value) ↔ 
      LastOf (·.key = name) flags ⟨name, value⟩ := by
  rw [lastOf_map_iff]
  constructor
  case mp  => 
    rintro ⟨_, hl, ⟨⟩⟩
    exact hl
  case mpr => exact fun hl => ⟨_, hl, rfl⟩

-- What a preparation loads is what its tiers settle.
theorem mem_iff_settled (h : (loadVariables t config (inv.within process)).result = .ok vs) : 
    v ∈ vs.toList ↔ Settled inv.flags process t config v := by
  obtain ⟨paths, files, hp, hf, hm⟩ := loadVariables_eq_ok_iff.mp h
  have hf : (readFiles t (paths ++ inv.flags.variableFiles)).result = .ok files := hf
  obtain ⟨name, value, source⟩ := v
  have unflagged : 
      (∀ v ∈ Variables.ofSource .flag (inv.flags.assignments.map fun a => (a.key, a.value)), 
        v.name ≠ name) ↔ ∀ a ∈ inv.flags.assignments, a.key ≠ name := by
    simp [Variables.ofSource]
  rw [Variables.mem_of_merge hm, Variables.Inputs.writes, lastOf_append_iff, lastOf_append_iff, 
    Variables.lastOf_ofSource_iff, Variables.lastOf_ofSource_iff, lastOf_files_iff hf]
  simp only [Invocation.within, unflagged, forall_files_iff hf, lastOf_flags_iff, lastOf_append_iff, 
    lastOf_automaticFiles_iff hp, Environment.lastOf_assignments_iff]
  constructor
  case mp  =>
    rintro (⟨rfl, last⟩ | ⟨⟨p, rfl, last, holds⟩ | ⟨⟨rfl, sets, greatest⟩, noPath⟩, noFlag⟩)
    case inl     => exact .flag last
    case inr.inl =>
      obtain last | ⟨⟨loaded, file, brought, latest, rfl⟩, noFile⟩ := last
      case inl => exact .file noFlag last holds
      case inr => exact .automatic noFlag noFile brought latest holds
    case inr.inr =>
      refine .environment noFlag (fun p hm => noPath p (List.mem_append_right _ hm)) ?_ sets greatest
      intro loaded file brought unasked
      have hm := (mem_automaticFiles hp).mpr ⟨loaded, file, brought, unasked, rfl⟩
      exact noPath _ (List.mem_append_left _ hm)
  case mpr =>
    rintro (last | ⟨noFlag, last, holds⟩ | ⟨noFlag, noFile, brought, latest, holds⟩ | 
      ⟨noFlag, noFile, noAutomatic, sets, greatest⟩)
    case flag        => exact .inl ⟨rfl, last⟩
    case file        => exact .inr ⟨.inl ⟨_, rfl, .inl last, holds⟩, noFlag⟩
    case automatic   => 
      exact .inr ⟨.inl ⟨_, rfl, .inr ⟨⟨_, _, brought, latest, rfl⟩, noFile⟩, holds⟩, noFlag⟩
    case environment =>
      refine .inr ⟨.inr ⟨⟨rfl, sets, greatest⟩, fun p hm => ?_⟩, noFlag⟩
      cases List.mem_append.mp hm
      case inr hm => exact noFile p hm
      case inl hm =>
        obtain ⟨loaded, file, brought, unasked, rfl⟩ := (mem_automaticFiles hp).mp hm
        exact noAutomatic loaded file brought unasked

theorem FailsAt.eq_values {s : Stage} {f : Failure} (h : FailsAt inv demands env s (.variableFile f)) : 
    s = .values := by
  have hr := h.raises
  cases s <;> simp_all [Stage.Raises]

theorem exists_resolution (h : (work inv demands env .target).result = .ok ()) : 
    ∃ r, (resolution inv demands env).result = .ok r := by
  obtain ⟨r, hr⟩ := Traced.result_forget_eq_ok_iff.mp h
  exact ⟨r, Traced.result_mapError_eq_ok_iff.mp hr⟩

theorem result_work_values {r : Resolution} (hr : (resolution inv demands env).result = .ok r) 
    {e : InitError} : (work inv demands env .values).result = .error e ↔ 
      (loadVariables env.files r.config inv).result = .error e := by
  simp only [work, onceResolved, hr, Traced.result_forget_eq_error_iff]

-- How a preparation comes by its variables in a process.
structure Valued (inv : Invocation) (process : Environment) (demands : Demands) (env : Collaborators) : 
    Prop where
  settled    : ∀ c, (init (inv.within process) demands env).result = .ok c → 
    c.values.names.Nodup ∧ ∀ v, v ∈ c.values.toList ↔ Settled inv.flags process env.files c.config v
  -- Neither the process nor a directory holds its contents in an order that matters.
  unordered  : ∀ process' files', process'.entries.Perm process.entries → env.files.Relisted files' → 
    init (inv.within process') demands { env with files := files' } = 
      init (inv.within process) demands env
  -- This goes for variables without a name, too.
  unreadable : (∀ s < .values, (work (inv.within process) demands env s).result = .ok ()) → 
    ∃ r, (resolution inv demands env).result = .ok r ∧ ∀ f, 
      (init (inv.within process) demands env).result = .error (.variableFile f) ↔ 
        Unreadable inv.flags env.files r.config f

theorem valued_by_highest_tier (inv : Invocation) (process : Environment) (demands : Demands) 
    (env : Collaborators) : Valued inv process demands env where
  settled c h := by
    obtain ⟨_, _, _, hv, _, _⟩ := init_eq_ok_iff.mp h
    obtain ⟨_, _, _, _, hm⟩ := loadVariables_eq_ok_iff.mp hv
    exact ⟨Variables.nodup_of_merge hm, fun _ => mem_iff_settled hv⟩
  unordered process' files' hp r := by
    have hi : inv.within process' = inv.within process := by
      rw [Invocation.within, Environment.assignments_of_perm hp, Invocation.within]
    simp only [hi, init, loadVariables_of_relisted r]
  unreadable hp := by
    obtain ⟨r, hr⟩ := exists_resolution (hp .target (by decide))
    refine ⟨r, hr, fun f => ?_⟩
    have hf : inv.flags = (inv.within process).flags := rfl
    rw [hf, ← loadVariables_eq_error_iff]
    constructor
    case mp  =>
      intro h
      obtain ⟨s, hf⟩ := init_eq_error_iff.mp h
      exact (result_work_values hr).mp (hf.eq_values ▸ hf.fails)
    case mpr =>
      intro h
      have hf : FailsAt (inv.within process) demands env .values (.variableFile f) := 
        ⟨(result_work_values hr).mpr h, hp⟩
      exact hf.result_init

-- One variable is set by the environment alone, and twice. The others are set by one tier more each.
theorem valued_by_highest_tier_four :
    let config : LoadedConfig := ⟨⟨"/shop/deployctl.toml"⟩, ⟨"shop", none, []⟩⟩
    let files : FileTree := { 
      nodes := [(["shop"], .directory), 
        (["a.auto.vars.toml", "shop"], .file (.text "zone = \"a\"\nregion = \"a\"")),
        (["b.auto.vars.toml", "shop"], .file (.text "zone = \"b\"\nregion = \"b\"")),
        (["size.toml"], .file (.text "size = \"small\"\nregion = \"c\""))]
    }
    let process : Environment := 
      ⟨[("DEPLOYCTL_VAR_tier", "low"), ("DEPLOYCTL_VAR_tier", "high"), ("DEPLOYCTL_VAR_zone", "none")]⟩
    let flags : Flags := { assignments := [⟨"size", "large"⟩], variableFiles := [⟨"/size.toml"⟩] }
    let env : Collaborators := 
      ⟨files, .ok (some config), ⟨.ok none, fun _ => .error (.of .noAddress)⟩, none⟩
    let values : List Variable := 
      [⟨"tier", "low", .environment⟩, ⟨"zone", "b", .file ⟨"/shop/b.auto.vars.toml"⟩⟩, 
        ⟨"region", "c", .file ⟨"/size.toml"⟩⟩, ⟨"size", "large", .flag⟩]
    (∃ c, (init (Invocation.within { flags } process) {} env).result = .ok c ∧ c.values = ⟨values⟩) ∧ 
    (∀ v ∈ values, Settled flags process files config v) ∧ 
    init (Invocation.within { flags } ⟨process.entries.reverse⟩) {} 
      { env with files := ⟨files.nodes.reverse, []⟩ } = 
        init (Invocation.within { flags } process) {} env := by
  intro config files process flags env values
  have valued := valued_by_highest_tier { flags } process {} env
  have assigned : process.assignments = [("tier", "high"), ("tier", "low"), ("zone", "none")] := by 
    cbv
  have dir : config.dir = ⟨"/shop"⟩ := by 
    decide +kernel
  have listed : files.list ⟨"/shop"⟩ = .ok ["a.auto.vars.toml", "b.auto.vars.toml"] := by 
    decide +kernel
  -- Sorting does not compute here, but what is to be sorted is in order already.
  have automatic : VariableFile.automatic files ⟨"/shop"⟩ = 
      .ok [⟨"/shop/a.auto.vars.toml"⟩, ⟨"/shop/b.auto.vars.toml"⟩] := by
    simp only [VariableFile.automatic, listed]
    rw [List.mergeSort_of_pairwise] <;> decide +kernel
  have loaded : (loadVariables files (some config) (Invocation.within { flags } process)).result = 
      .ok ⟨values⟩ := by
    simp only [loadVariables, automaticFiles, Invocation.within, assigned, dir, automatic]
    decide +kernel
  have prepared : Prepared (Invocation.within { flags } process) {} env 
      (assemble { flags } .default ⟨.project ⟨"shop", by decide⟩, false, [], some config⟩ ⟨values⟩) := 
    .intro (by decide) (by decide +kernel) (by decide +kernel) loaded (by decide) (by decide)
  have accepted := init_eq_ok_iff.mpr prepared
  refine ⟨⟨_, accepted, rfl⟩, fun v => ((valued.settled _ accepted).right v).mp, ?_⟩
  exact valued.unordered _ _ (List.reverse_perm _) 
    (FileTree.relisted_of_perm (by decide) (List.reverse_perm _) rfl)

end CommandContext
end Rollout
