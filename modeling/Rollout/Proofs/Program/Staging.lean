import Rollout.Program
import Rollout.Proofs.CommandContext.Agreement
namespace Rollout

namespace CommandContext

-- How a preparation keeps its stages apart.
structure Staged (inv : Invocation) (demands : Demands) (env : Collaborators) : Prop where
  runs      : (init inv demands env).forget = Stage.all.forM (work inv demands env)
  ordered   : (init inv demands env).events.Pairwise Stage.Follows
  fails     : ∀ e, (init inv demands env).result = .error e ↔ ∃ s, FailsAt inv demands env s e
  raises    : ∀ s e, FailsAt inv demands env s e → s.Raises e
  -- What only later stages consult is left alone by a failure, and the failure does not depend on it.
  untouched : ∀ s e, FailsAt inv demands env s e → 
    ∀ ev ∈ (init inv demands env).events, ∃ t, t ≤ s ∧ Stage.ofEvent? ev = some t
  unmoved   : ∀ s e, FailsAt inv demands env s e → 
    ∀ inv' demands' env', Agree s inv inv' demands demands' env env' → 
      (init inv' demands' env').result = .error e ∧ 
        (init inv' demands' env').events = (init inv demands env).events

theorem staged (inv : Invocation) (demands : Demands) (env : Collaborators) : 
    Staged inv demands env where
  runs          := forget_init inv demands env
  ordered       := events_init_pairwise
  fails _       := init_eq_error_iff
  raises _ _ f  := f.raises
  untouched _ _ := FailsAt.ofEvent?_le
  unmoved _ _ f _ _ _ a := by
    refine ⟨(f.agree a).result_init, ?_⟩
    rw [← Traced.events_forget, f.forget_init_eq a, Traced.events_forget]

end CommandContext

namespace CommandLine

-- Nothing at all happens in front of a misplaced flag.
theorem run_of_misplaced {line : CommandLine} {m : FlagOrder.Misplaced} 
    (h : FlagOrder.check line.args (recognized line.command) = .error m) (w : World) : 
    line.run w = Traced.fail (.init (.misplacedFlags m)) := by
  simp only [run, h]
  rfl

end CommandLine

namespace Program

theorem run_of_read {args : List String} {line : CommandLine} (h : CommandLine.read args = .ok line) 
    (w : World) : run args w = 
      let shown := CommandLine.report (line.run w)
      .ofEvents line.flags.plain shown.1 shown.2 := by
  simp only [run, h]

-- Every preparation is staged, and a run of the program looks for misplaced flags before anything 
-- else: what is shown then is the same in every world.
theorem preparation_staged_after_placement : 
    (∀ inv demands env, CommandContext.Staged inv demands env) ∧ 
    ∀ args line m, CommandLine.read args = .ok line → 
      FlagOrder.check line.args (CommandLine.recognized line.command) = .error m → 
      ∀ w, (line.run w).events = [] ∧ 
        run args w = .ofEvents line.flags.plain [.error m.message] 2 := by
  refine ⟨CommandContext.staged, fun args line m hr hm w => ?_⟩
  rw [run_of_read hr, CommandLine.run_of_misplaced hm]
  exact ⟨rfl, rfl⟩

-- The default context cannot be read here, since a directory stands in its place. 
theorem preparation_staged_after_placement_label :
    let broken : World := {
      files := { nodes := [(["config"], .directory), (["context", "config"], .directory), 
        ([".default", "context", "config"], .directory)] }
      environment := ⟨[("DEPLOYCTL_CONFIG_DIR", "/config")]⟩ 
      workingDir  := .ok ⟨"/"⟩ 
      serverAt    := Server.unusable
    }
    let contexts := ContextStore.inDirectory broken.files (broken.environment.contextDir none)
    contexts.default.isOk = false ∧ 
    run ["targets", "shop", "--label=x"] broken = 
      .ofEvents false [.error (FlagOrder.Misplaced.message ⟨["label"]⟩)] 2 := by
  intro broken contexts
  refine ⟨by decide +kernel, ?_⟩
  exact preparation_staged_after_placement.right _ ⟨.targets, {}, ["shop", "--label=x"]⟩ _ 
    (by decide +kernel) (by decide +kernel) broken |>.right

end Program
end Rollout
