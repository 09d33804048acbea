import Rollout.Proofs.Dispatch.Declared
import Rollout.Proofs.Dispatch.Mode
namespace Rollout

namespace Target

variable {mode : TargetMode} {policy : ConfigPolicy} {flags : TargetFlags}
variable {search : Except Failure (Option LoadedConfig)} {args : List String} {r : Resolution}

-- Whoever has read a configuration knows of a project.
theorem exists_project_of_loaded {loaded : LoadedConfig} 
    (h : (resolve mode policy flags search args).result = .ok r) (hc : r.config = some loaded) : 
    ∃ p, r.target.project? = some p := by
  cases found_of_resolve h
  case named hp _         => 
    exact Option.isSome_iff_exists.mp (named_of_positional? hp).project?_isSome
  case nothing            => contradiction
  case implied _ _ _ hi   =>
    have ⟨p, hp, _⟩ := Option.map_eq_some_iff.mp (name_of_implied hi)
    exact ⟨p, hp⟩

end Target

namespace Dispatcher

variable {d : Dispatcher} {c : CommandContext} {q : Plan} {chosen : List AppRef} {runner : Option String}
variable {p : ProjectRef} {x : String}

theorem ownMode_eq_remote_iff : ownMode c = .remote ↔ c.explicit ∨ c.remote := by
  rw [ownMode, ← Bool.or_eq_true]
  cases c.explicit || c.remote <;> decide

theorem exists_chosen_of_plan (hf : d.context.flagProject = none) (h : d.plan.result = .ok q) : 
    ∃ chosen, Chosen d [] chosen ∧ q = {
      mode   := ownMode d.context
      tasks  := chosen.map (⟨·, d.context.workspace⟩)
      runner := if ownMode d.context = .here then d.runner else none
    } := by
  have ⟨_, _, chosen, hl, hc, hq⟩ := plan_eq_ok_iff.mp h
  rw [listed_of_noFlagProject hf, Traced.result_pure] at hl
  cases hl
  exact ⟨chosen, chosen_of_choose hc, hq⟩

theorem Chosen.inside (h : Chosen d [] chosen) (hf : d.context.flagProject = none) : 
    ∀ a ∈ chosen, d.context.target.project?.map (·.name) = some a.project := by
  intro a hm
  cases h
  case target ht                    => 
    cases List.mem_singleton.mp hm
    rw [Target.project?_of_app? ht]
    rfl
  case flag _ _ hp ha               =>
    cases List.mem_singleton.mp hm
    rw [← project?_of_noFlagProject hf, hp, (ProjectRef.app_eq_ok_iff.mp ha).left]
    rfl
  case listed                       => contradiction
  case configured _ _ _ _ hp hd     =>
    rw [← project?_of_noFlagProject hf, hp, hd.inside a hm]
    rfl
  case nothing                      => contradiction

theorem eq_error_of_mem_plan (hf : d.context.flagProject = none) : 
    ∀ ev ∈ d.plan.events, ∃ message, ev = .error message := by
  rw [plan, listed_of_noFlagProject hf, pure_bind]
  exact Traced.forall_events_bind eq_error_of_mem_choose fun _ _ => by simp

-- Whatever the server is like, without such a flag it makes no difference.
theorem plan_server_irrelevant (hf : c.flagProject = none) (server server' : Option Server) : 
    plan ⟨c, server, runner⟩ = plan ⟨c, server', runner⟩ := by
  simp only [plan, listed, hf]
  rfl

theorem covers_of_flagApp (hf : d.context.flagProject = none) (ht : d.context.target.app? = none) 
    (ha : d.context.flagApp = some x) (h : d.plan.result = .ok q) : 
    ∃ p, d.context.target.project? = some p ∧ q.Covers d.context.workspace p [x] := by
  obtain ⟨chosen, hc, rfl⟩ := exists_chosen_of_plan hf h
  cases hc
  case target ht'            => simp [ht] at ht'
  case flag _ ha' hp app     =>
    cases ha ▸ ha'
    rw [project?_of_noFlagProject hf] at hp
    exact ⟨_, hp, (appsOf_singleton_iff.mpr ⟨_, app, rfl⟩).covers _ _ _⟩ 
  case listed                => contradiction
  case configured ha' _ _ _ _ => simp [ha] at ha'
  case nothing ha' _ _       => simp [ha] at ha'

theorem covers_of_config {loaded : LoadedConfig} (hf : d.context.flagProject = none) 
    (ht : d.context.target.app? = none) (ha : d.context.flagApp = none) 
    (hc : d.context.config = some loaded) (hp : d.context.target.project? = some p) 
    (h : d.plan.result = .ok q) : q.Covers d.context.workspace p loaded.config.apps := by
  rw [← project?_of_noFlagProject hf] at hp
  obtain ⟨chosen, hch, rfl⟩ := exists_chosen_of_plan hf h
  cases hch
  case target ht'                  => simp [ht] at ht'
  case flag ha' _ _                => simp [ha] at ha'
  case listed                      => contradiction
  case configured hc' hp' declared =>
    cases hc ▸ hc'
    cases hp ▸ hp'
    exact declared.covers _ _ _
  case nothing hu                  => simp [hc, hp] at hu

theorem tasks_of_noConfig (hf : d.context.flagProject = none) (ht : d.context.target.app? = none) 
    (ha : d.context.flagApp = none) (hc : d.context.config = none) (h : d.plan.result = .ok q) : 
    q.tasks = [] := by
  obtain ⟨chosen, hch, rfl⟩ := exists_chosen_of_plan hf h
  cases hch
  case target ht'         => simp [ht] at ht'
  case flag ha' _ _       => simp [ha] at ha'
  case listed             => contradiction
  case configured hc' _ _ => simp [hc] at hc'
  case nothing            => rfl

end Dispatcher

namespace CommandContext

-- What is planned if no flag names a project: the app that is targeted, or else the one that a flag names, or 
-- else all that the configuration declares.
structure PlannedUnasked (inv : Invocation) (c : CommandContext) (runner : Option String) (q : Plan) : 
    Prop where
  target     : ∀ a, c.target.app? = some a → q.tasks = [⟨a, c.workspace⟩] 
  flag       : ∀ x, c.target.app? = none → inv.flags.app = some x → Text.isBlank x = false → 
    ∃ p, c.target.project? = some p ∧ q.Covers c.workspace p [x]
  configured : ∀ loaded, c.target.app? = none → inv.flags.app.all Text.isBlank → c.config = some loaded → 
    ∃ p, c.target.project? = some p ∧ q.Covers c.workspace p loaded.config.apps
  nothing    : c.target.app? = none → inv.flags.app.all Text.isBlank → c.config = none → q.tasks = []
  inside     : ∀ t ∈ q.tasks, 
    c.target.project?.map (·.name) = some t.app.project ∧ t.workspace = c.workspace
  mode       : q.mode = .remote ↔ c.explicit ∨ inv.flags.remote
  -- A runner on this machine is of no use elsewhere.
  runner     : q.runner = if q.mode = .here then runner else none

variable {inv : Invocation} {demands : Demands} {env : Collaborators} {c : CommandContext}
variable {server : Option Server} {runner : Option String} {q : Plan} {loaded : LoadedConfig}

theorem exists_project_of_config (h : (init inv demands env).result = .ok c) (hc : c.config = some loaded) : 
    ∃ p, c.target.project? = some p := by
  cases init_eq_ok_iff.mp h
  case intro hr _ _ _ => exact Target.exists_project_of_loaded hr hc

theorem plannedUnasked_of_plan (h : (init inv demands env).result = .ok c) (hf : c.flagProject = none) 
    (hq : (Dispatcher.plan ⟨c, server, runner⟩).result = .ok q) : PlannedUnasked inv c runner q := by
  have unnamed (ha : inv.flags.app.all Text.isBlank) : c.flagApp = none := by
    rw [flagApp_eq h, Text.verbatim?_eq_none_iff, ha]
  constructor
  case target     => exact fun a ht => Dispatcher.tasks_of_app? ht hq
  case flag       => 
    intro x ht hx hb
    have ha : c.flagApp = some x := by
      rw [flagApp_eq h, Text.verbatim?_eq_some_iff]
      exact ⟨hx, hb⟩ 
    exact Dispatcher.covers_of_flagApp hf ht ha hq
  case configured =>
    intro loaded ht ha hc
    have ⟨p, hp⟩ := exists_project_of_config h hc
    exact ⟨p, hp, Dispatcher.covers_of_config hf ht (unnamed ha) hc hp hq⟩ 
  case nothing    => exact fun ht ha hc => Dispatcher.tasks_of_noConfig hf ht (unnamed ha) hc hq
  all_goals obtain ⟨chosen, hch, rfl⟩ := Dispatcher.exists_chosen_of_plan hf hq
  case inside     => exact List.forall_mem_map.mpr fun a ha => ⟨hch.inside hf a ha, rfl⟩ 
  case mode       => rw [Dispatcher.ownMode_eq_remote_iff, remote_eq h]
  case runner     => rfl

-- Without a flag that names a project the plan follows from what the command knows, and nobody is asked for it. 
-- All that can be shown is why there is no plan.
theorem planned_unasked (h : (init inv demands env).result = .ok c) (hp : inv.flags.project.all Text.isBlank) : 
    (∀ q, (Dispatcher.plan ⟨c, server, runner⟩).result = .ok q → 
      PlannedUnasked inv c runner q ∧ (Dispatcher.plan ⟨c, server, runner⟩).events = []) ∧ 
    (∀ ev ∈ (Dispatcher.plan ⟨c, server, runner⟩).events, ∃ message, ev = .error message) ∧ 
    ∀ server', Dispatcher.plan ⟨c, server', runner⟩ = Dispatcher.plan ⟨c, server, runner⟩ := by
  have hf : c.flagProject = none := flagProject_eq_none h hp
  refine ⟨fun q hq => ⟨plannedUnasked_of_plan h hf hq, ?_⟩, Dispatcher.eq_error_of_mem_plan hf, 
    fun _ => Dispatcher.plan_server_irrelevant hf _ _⟩ 
  have ⟨chosen, hc, _⟩ := Dispatcher.exists_chosen_of_plan (d := ⟨c, server, runner⟩) hf hq
  rw [Dispatcher.plan_of_chosen hf hc, Traced.events_pure]

-- The configuration belongs to another project than the argument, and lends it its apps.
theorem planned_unasked_positional :
    let inv : Invocation := { flags := { project := some " " }, args := ["billing", "now"] }
    let file : LoadedConfig := ⟨⟨"/shop/deployctl.toml"⟩, ⟨"shop", none, ["web", "worker"]⟩⟩
    let env : Collaborators := ⟨⟨[], []⟩, .ok (some file), ⟨.ok none, fun _ => .ok {}⟩, none⟩ 
    let billing : ProjectRef := ⟨"billing", by decide⟩
    let c := assemble inv .default ⟨.project billing, true, ["now"], some file⟩ .empty
    (init inv ⟨.appOptional, .load, false⟩ env).result = .ok c ∧ 
    ∃ q, (Dispatcher.plan ⟨c, none, some "r1"⟩).result = .ok q ∧ PlannedUnasked inv c (some "r1") q ∧ 
      q.Covers .default billing ["web", "worker"] ∧ q.mode = .remote ∧ q.runner = none := by
  intro inv file env billing c
  have hc : (init inv ⟨.appOptional, .load, false⟩ env).result = .ok c := by
    refine init_eq_ok_iff.mpr <| .intro ?_ ?_ ?_ ?_ ?_ ?_
    all_goals decide +kernel
  let tasks : List AppHandle := [⟨⟨"billing", "web", by decide, by decide⟩, .default⟩, 
    ⟨⟨"billing", "worker", by decide, by decide⟩, .default⟩]
  have hq : (Dispatcher.plan ⟨c, none, some "r1"⟩).result = .ok ⟨.remote, tasks, none⟩ := by 
    decide +kernel
  have unasked : PlannedUnasked inv c (some "r1") _ := 
    ((planned_unasked hc (by decide)).left _ hq).left
  have ⟨p, hp, covers⟩ := unasked.configured file rfl rfl rfl
  cases hp
  exact ⟨hc, _, hq, unasked, covers, rfl, rfl⟩ 

end CommandContext
end Rollout
