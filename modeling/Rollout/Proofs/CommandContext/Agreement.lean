import Mathlib.Data.List.Basic
import Rollout.Proofs.CommandContext.Footprint
namespace Rollout.CommandContext

-- Two preparations that find the same answers to all that is consulted up to a stage. What only later
-- stages consult may differ in any way.
structure Agree (s : Stage) (inv inv' : Invocation) (demands demands' : Demands) 
    (env env' : Collaborators) : Prop where
  placement : inv.args = inv'.args ∧ inv.recognized = inv'.recognized
  workspace : .workspace ≤ s → 
    inv.flags.workspace = inv'.flags.workspace ∧ inv.workspace = inv'.workspace ∧ 
      env.contexts = env'.contexts
  target    : .target ≤ s → 
    demands.target = demands'.target ∧ demands.config = demands'.config ∧ 
      inv.flags.project = inv'.flags.project ∧ inv.flags.app = inv'.flags.app ∧ 
      env.config = env'.config
  values    : .values ≤ s → 
    inv.environment = inv'.environment ∧ inv.flags.variableFiles = inv'.flags.variableFiles ∧ 
      inv.flags.assignments = inv'.flags.assignments ∧ env.files = env'.files
  remote    : .remote ≤ s → inv.flags.remote = inv'.flags.remote
  runner    : .runner ≤ s → demands.runnable = demands'.runnable ∧ env.server = env'.server

variable {inv inv' : Invocation} {demands demands' : Demands} {env env' : Collaborators}
variable {s t : Stage} {e : InitError}

namespace Agree

theorem resolution_eq (a : Agree s inv inv' demands demands' env env') (h : .target ≤ s) : 
    resolution inv demands env = resolution inv' demands' env' := by
  have ⟨hm, hc, hp, ha, he⟩ := a.target h
  simp [resolution, a.placement, hm, hc, hp, ha, he]

theorem loadVariables_eq (a : Agree s inv inv' demands demands' env env') (h : .values ≤ s) 
    (config : Option LoadedConfig) :
    loadVariables env.files config inv = loadVariables env'.files config inv' := by
  have ⟨he, hv, ha, hf⟩ := a.values h
  simp [loadVariables, he, hv, ha, hf]

theorem checkRemote_eq (a : Agree s inv inv' demands demands' env env') (h : .remote ≤ s) 
    (r : Resolution) : checkRemote demands inv.flags r = checkRemote demands' inv'.flags r := by
  have ht := a.target (Nat.le_trans (by decide) h)
  simp [checkRemote, ht.left, a.remote h]

theorem checkExplicit_eq (a : Agree s inv inv' demands demands' env env') (h : .runner ≤ s) 
    (r : Resolution) : checkExplicit demands env.server r = checkExplicit demands' env'.server r := by
  have ⟨hd, hs⟩ := a.runner h
  simp [checkExplicit, hd, hs]

-- What two preparations agree on lets their stages do the same.
theorem work_eq (a : Agree s inv inv' demands demands' env env') (h : t ≤ s) : 
    work inv demands env t = work inv' demands' env' t := by
  cases t
  case placement => simp only [work, a.placement]
  case workspace => 
    obtain ⟨hf, hw, hc⟩ := a.workspace h
    simp only [work, hf, hw, hc]
  case target => simp only [work, a.resolution_eq h]
  case values => 
    have hr := a.resolution_eq (Nat.le_trans (by decide) h)
    simp only [work, onceResolved, hr, a.loadVariables_eq h]
  case remote => 
    have hr := a.resolution_eq (Nat.le_trans (by decide) h)
    simp only [work, onceResolved, hr, a.checkRemote_eq h]
  case runner =>
    have hr := a.resolution_eq (Nat.le_trans (by decide) h)
    simp only [work, onceResolved, hr, a.checkExplicit_eq h]

end Agree

theorem FailsAt.agree (f : FailsAt inv demands env s e) 
    (a : Agree s inv inv' demands demands' env env') : FailsAt inv' demands' env' s e where
  fails       := a.work_eq (Nat.le_refl _) ▸ f.fails
  passed t ht := a.work_eq (Nat.le_of_lt ht) ▸ f.passed t ht

-- Neither the error nor what happens on the way to it depends on anything that later stages consult.
theorem FailsAt.forget_init_eq (f : FailsAt inv demands env s e) 
    (a : Agree s inv inv' demands demands' env env') : 
    (init inv' demands' env').forget = (init inv demands env).forget := by
  have he : ∀ t ∈ s.before, (work inv' demands' env' t).events = (work inv demands env t).events := 
    fun t ht => by rw [a.work_eq (Nat.le_of_lt (Stage.lt_of_mem_before ht))]
  rw [f.forget_init, (f.agree a).forget_init, a.work_eq (Nat.le_refl _), List.flatMap_congr he]

end Rollout.CommandContext
