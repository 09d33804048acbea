import Rollout.Proofs.CommandContext.Prepared
import Rollout.Proofs.Dispatch.Candidates
import Rollout.Proofs.Text.Blank
namespace Rollout

-- A plan with one task for each of these apps of a project, in order, and with no other task.
structure Plan.Covers (q : Plan) (w : WorkspaceRef) (p : ProjectRef) (names : List String) : Prop where
  names  : q.tasks.map (·.app.app) = names
  inside : ∀ h ∈ q.tasks, h.app.project = p.name ∧ h.workspace = w

namespace Dispatcher

variable {d : Dispatcher} {p : ProjectRef} {q : Plan} {names : List String} {apps : List AppRef}

theorem AppsOf.covers (h : AppsOf p names apps) (mode : RunnerMode) (w : WorkspaceRef) 
    (runner : Option String) : Plan.Covers ⟨mode, apps.map (⟨·, w⟩), runner⟩ w p names where
  names  := by rw [List.map_map]; exact h.named
  inside := List.forall_mem_map.mpr fun a ha => ⟨h.inside a ha, rfl⟩

-- Without an app that is named or targeted, a flag that names a project leads to the apps of that
-- project, as the server knows them. A configuration only has a say if the server knows none.
theorem covers_of_flagProject (hf : d.context.flagProject = some p) (ha : d.context.flagApp = none) 
    (ht : d.context.target.app? = none) (h : d.plan.result = .ok q) : 
    ∃ s project, d.server = some s ∧ s.project p = .ok project ∧ 
      (project.apps ≠ [] ∨ d.context.config = none → q.Covers d.context.workspace p project.apps) ∧ 
      ∀ loaded, project.apps = [] → d.context.config = some loaded → 
        q.Covers d.context.workspace p loaded.config.apps := by
  have ⟨mode, apps, chosen, hl, hc, hq⟩ := plan_eq_ok_iff.mp h
  rw [listed_of_flagProject hf, survey_eq_ok_iff] at hl
  have ⟨s, project, _, hs, hp, _, _, listed⟩ := hl
  have empty : apps = [] ↔ project.apps = [] := by rw [← listed.named, List.map_eq_nil_iff]
  refine ⟨s, project, hs, hp, ?_⟩
  subst hq
  cases chosen_of_choose hc
  case target ht'                  => simp [ht] at ht'
  case flag ha' _ _                => simp [ha] at ha'
  case listed hn                   =>
    exact ⟨fun _ => listed.covers _ _ _, fun loaded he _ => absurd (empty.mpr he) hn⟩
  case configured he hc hp' declared => 
    rw [project?_of_flagProject hf, Option.some.injEq] at hp'
    subst hp'
    refine ⟨fun hn => ?_, fun loaded _ hl => ?_⟩
    case refine_1 => simp [empty.mp he, hc] at hn
    case refine_2 => 
      cases hc ▸ hl
      exact declared.covers _ _ _
  case nothing he hu               =>
    refine ⟨fun _ => ⟨by simp [empty.mp he], nofun⟩, fun loaded _ hl => ?_⟩
    simp [hl, project?_of_flagProject hf] at hu

end Dispatcher

namespace CommandContext

variable {inv : Invocation} {demands : Demands} {env : Collaborators} {c : CommandContext}
variable {p : ProjectRef} {server : Option Server} {runner : Option String} {q : Plan}

-- A project that a flag names is operated on app by app, whatever the configuration declares, unless the 
-- server knows no app of it.
theorem flagged_project_covered (hp : inv.flags.project = some p.name) 
    (ha : inv.flags.app.all Text.isBlank) (h : (init inv demands env).result = .ok c) 
    (ht : c.target.app? = none) (hq : (Dispatcher.plan ⟨c, server, runner⟩).result = .ok q) : 
    ∃ s project, server = some s ∧ s.project p = .ok project ∧ 
      (project.apps ≠ [] ∨ c.config = none → q.Covers c.workspace p project.apps) ∧ 
      ∀ loaded, project.apps = [] → c.config = some loaded → 
        q.Covers c.workspace p loaded.config.apps := by
  have hf : c.flagProject = some p := (flagProject_eq_some_iff h).mpr hp
  have hn : c.flagApp = none := by rw [flagApp_eq h, Text.verbatim?_eq_none_iff, ha]
  exact Dispatcher.covers_of_flagProject (d := ⟨c, server, runner⟩) hf hn ht hq

-- The configuration speaks for another project here, and the blank flag for no app.
theorem flagged_project_covered_two :
    let inv : Invocation := { flags := { project := some "billing", app := some " " } }
    let file : LoadedConfig := ⟨⟨"/shop/deployctl.toml"⟩, ⟨"shop", none, ["web"]⟩⟩
    let server : Server := { 
      project  := fun p => .ok ⟨p.name, ["ledger", "invoices"], false, none, none⟩
      profiles := .ok [] 
    }
    let env : Collaborators := 
      ⟨⟨[], []⟩, .ok (some file), ⟨.ok none, fun _ => .ok {}⟩, some server⟩ 
    let p : ProjectRef := ⟨"billing", by decide⟩
    let c := assemble inv .default ⟨.project p, false, [], some file⟩ .empty
    (init inv {} env).result = .ok c ∧ c.target.app? = none ∧ 
    ∃ q, (Dispatcher.plan ⟨c, some server, none⟩).result = .ok q ∧ 
      q.Covers .default p ["ledger", "invoices"] := by
  intro inv file server env p c
  have hc : (init inv {} env).result = .ok c := by
    refine init_eq_ok_iff.mpr <| .intro ?_ ?_ ?_ ?_ ?_ ?_
    all_goals decide +kernel
  let tasks : List AppHandle := [⟨⟨"billing", "ledger", by decide, by decide⟩, .default⟩, 
    ⟨⟨"billing", "invoices", by decide, by decide⟩, .default⟩]
  have hq : (Dispatcher.plan ⟨c, some server, none⟩).result = .ok ⟨.here, tasks, none⟩ := by 
    decide +kernel
  have ⟨_, _, hs, hp, covers, _⟩ := flagged_project_covered (p := p) rfl (by decide) hc rfl hq
  cases hs
  cases hp
  exact ⟨hc, rfl, _, hq, covers (.inl (by decide))⟩

-- The server knows the project and no app of it, so that the plan falls back on the configuration, which
-- is about another project.
theorem undeclared_app_planned :
    let inv : Invocation := { flags := { project := some "billing" } }
    let file : LoadedConfig := ⟨⟨"/shop/deployctl.toml"⟩, ⟨"shop", none, ["web"]⟩⟩
    let project : Project := ⟨"billing", [], false, none, none⟩
    let server : Server := { project := fun _ => .ok project, profiles := .ok [] }
    let env : Collaborators := 
      ⟨⟨[], []⟩, .ok (some file), ⟨.ok none, fun _ => .ok {}⟩, some server⟩ 
    let p : ProjectRef := ⟨"billing", by decide⟩
    let c := assemble inv .default ⟨.project p, false, [], some file⟩ .empty
    let q : Plan := ⟨.here, [⟨⟨"billing", "web", by decide, by decide⟩, .default⟩], none⟩
    (init inv {} env).result = .ok c ∧ c.target.app? = none ∧ 
    (Dispatcher.plan ⟨c, some server, none⟩).result = .ok q ∧ ¬q.Covers .default p project.apps := by
  intro inv file project server env p c q
  have hc : (init inv {} env).result = .ok c := by
    refine init_eq_ok_iff.mpr <| .intro ?_ ?_ ?_ ?_ ?_ ?_
    all_goals decide +kernel
  exact ⟨hc, rfl, by decide +kernel, fun covers => nomatch covers.names⟩

end CommandContext
end Rollout
