import Rollout.Proofs.CommandContext.Prepared
import Rollout.Proofs.Dispatch.Candidates
import Rollout.Proofs.Routing
import Rollout.Proofs.Target
namespace Rollout

namespace Dispatcher

variable {d : Dispatcher} {p : ProjectRef} {s : Server} {q : Plan}

theorem mode_of_noFlagProject (hf : d.context.flagProject = none) (h : d.plan.result = .ok q) : 
    q.mode = ownMode d.context := by
  have ⟨_, _, _, hl, _, hq⟩ := plan_eq_ok_iff.mp h
  rw [listed_of_noFlagProject hf] at hl
  cases hl
  rw [hq]

-- A flag that names a project has the last word about where its operations run.
theorem mode_of_flagProject (hf : d.context.flagProject = some p) (hs : d.server = some s) 
    (h : d.plan.result = .ok q) : q.mode = .remote ↔ s.RunsRemotely p := by
  have ⟨_, _, _, hl, _, hq⟩ := plan_eq_ok_iff.mp h
  rw [listed_of_flagProject hf, survey_eq_ok_iff] at hl
  obtain ⟨s', project, routing, hs', hp, hr, hm, _⟩ := hl
  cases hs' ▸ hs
  rw [hq, ← hm, Server.runsRemotely_iff hp hr]

end Dispatcher

namespace CommandContext

variable {inv : Invocation} {demands : Demands} {env : Collaborators} {c : CommandContext}
variable {p : ProjectRef} {s : Server} {r : Resolution}

theorem checkRunner_eq_ok_iff : (checkRunner (some s) p).result = .ok () ↔ s.RunsRemotely p := by
  simp only [checkRunner, Traced.result_bind_eq_ok_iff, Traced.result_mapError_eq_ok_iff, 
    Traced.result_asked, Server.RunsRemotely]
  refine exists_congr fun project => ?_
  rw [← exists_and_left]
  refine exists_congr fun routing => and_congr_right fun _ => and_congr_right fun _ => ?_
  split
  case isTrue h  => simp [h]
  case isFalse h => simp [h]

theorem exists_project_of_explicit (h : (resolution inv demands env).result = .ok r) (he : r.explicit) : 
    ∃ p, r.target.project? = some p := by
  cases Target.found_of_resolve h
  case named hp _      => 
    exact Option.isSome_iff_exists.mp (Target.named_of_positional? hp).project?_isSome
  case nothing _ _ _   => contradiction
  case implied _ _ _ _ => contradiction

theorem checkExplicit_of_explicit (hp : r.target.project? = some p) (he : r.explicit) 
    (hr : demands.runnable) : checkExplicit demands (some s) r = checkRunner (some s) p := by
  simp [checkExplicit, hp, he, hr]

-- What has been checked of a target that an argument names.
theorem runsRemotely_of_init (hr : demands.runnable) (hs : env.server = some s) 
    (h : (init inv demands env).result = .ok c) (he : c.explicit) : 
    ∃ p, c.target.project? = some p ∧ s.RunsRemotely p := by
  cases init_eq_ok_iff.mp h
  case intro r _ _ _ ht _ _ hc =>
    have ⟨p, hp⟩ := exists_project_of_explicit ht he
    rw [hs, checkExplicit_of_explicit hp he hr, checkRunner_eq_ok_iff] at hc
    exact ⟨p, hp, hc⟩

-- A command that has been accepted because its target runs remotely runs remotely, unless a flag names
-- a project that does not.
theorem validated_runs_remotely (hr : demands.runnable) (hs : env.server = some s) 
    (h : (init inv demands env).result = .ok c) (he : c.explicit) : 
    (∃ t, c.target.project? = some t ∧ s.RunsRemotely t) ∧ 
    ∀ runner q, (Dispatcher.plan ⟨c, some s, runner⟩).result = .ok q → 
      (q.mode = .remote ↔ ∀ p : ProjectRef, inv.flags.project = some p.name → s.RunsRemotely p) ∧ 
      (inv.flags.project.all Text.isBlank ∨ inv.flags.project = c.target.project?.map (·.name) → 
        q.mode = .remote) := by
  have ⟨t, ht, able⟩ := runsRemotely_of_init hr hs h he
  refine ⟨⟨t, ht, able⟩, fun runner q hq => ?_⟩
  have decided : q.mode = .remote ↔ 
      ∀ p : ProjectRef, inv.flags.project = some p.name → s.RunsRemotely p := by
    simp only [← flagProject_eq_some_iff h]
    cases hf : c.flagProject
    case none   => 
      have hm := Dispatcher.mode_of_noFlagProject (d := ⟨c, some s, runner⟩) hf hq
      simp [hm, Dispatcher.ownMode, he]
    case some p =>
      have hm := Dispatcher.mode_of_flagProject (d := ⟨c, some s, runner⟩) hf rfl hq
      simp [hm]
  refine ⟨decided, fun hp => decided.mpr fun p hn => ?_⟩
  rw [hn] at hp
  cases hp
  case inl hb => simp [p.nonblank] at hb
  case inr ht' =>
    rw [ht, Option.map_some, Option.some.injEq] at ht'
    exact ProjectRef.ext ht' ▸ able

-- The flag repeats what the argument says.
theorem validated_runs_remotely_shop :
    let inv : Invocation := 
      { flags := { project := some "shop", app := some "web" }, args := ["shop", "now"] }
    let server : Server := { 
      project  := fun p => .ok ⟨p.name, ["web"], true, some (.git "https://git/shop" "" ""), none⟩
      profiles := .ok [⟨true⟩]
    }
    let env : Collaborators := ⟨⟨[], []⟩, .ok none, ⟨.ok none, fun _ => .ok {}⟩, some server⟩
    let shop : ProjectRef := ⟨"shop", by decide⟩
    let c := assemble inv .default ⟨.project shop, true, ["now"], none⟩ .empty
    (init inv ⟨.appOptional, .skip, true⟩ env).result = .ok c ∧ c.explicit ∧ server.RunsRemotely shop ∧ 
    ∃ q, (Dispatcher.plan ⟨c, some server, none⟩).result = .ok q ∧ q.mode = .remote := by
  intro inv server env shop c
  have hc : (init inv ⟨.appOptional, .skip, true⟩ env).result = .ok c := by
    refine init_eq_ok_iff.mpr <| .intro ?_ ?_ ?_ ?_ ?_ ?_
    all_goals decide +kernel
  have hq : (Dispatcher.plan ⟨c, some server, none⟩).result = 
      .ok ⟨.remote, [⟨⟨"shop", "web", by decide, by decide⟩, .default⟩], none⟩ := by 
    decide +kernel
  have ⟨⟨_, ht, able⟩, remote⟩ := validated_runs_remotely (by decide) rfl hc rfl
  cases ht
  exact ⟨hc, rfl, able, _, hq, (remote _ _ hq).right (.inr rfl)⟩

-- The target has been found able to run remotely, and then the flag leads to a project that is not.
theorem flagged_runs_here :
    let inv : Invocation := { flags := { project := some "billing" }, args := ["shop"] }
    let server : Server := { 
      project  := fun p => 
        if p.name = "shop" then .ok ⟨"shop", ["web"], true, some (.git "https://git/shop" "" ""), none⟩
        else .ok ⟨p.name, ["ledger"], false, none, none⟩
      profiles := .ok [⟨true⟩]
    }
    let env : Collaborators := ⟨⟨[], []⟩, .ok none, ⟨.ok none, fun _ => .ok {}⟩, some server⟩
    let c := assemble inv .default ⟨.project ⟨"shop", by decide⟩, true, [], none⟩ .empty
    (init inv ⟨.appOptional, .skip, true⟩ env).result = .ok c ∧ c.explicit ∧ 
    ∃ q, (Dispatcher.plan ⟨c, some server, none⟩).result = .ok q ∧ q.mode ≠ .remote := by
  intro inv server env c
  have hc : (init inv ⟨.appOptional, .skip, true⟩ env).result = .ok c := by
    refine init_eq_ok_iff.mpr <| .intro ?_ ?_ ?_ ?_ ?_ ?_
    all_goals decide +kernel
  have hq : (Dispatcher.plan ⟨c, some server, none⟩).result = 
      .ok ⟨.here, [⟨⟨"billing", "ledger", by decide, by decide⟩, .default⟩], none⟩ := by 
    decide +kernel
  exact ⟨hc, rfl, _, hq, by decide⟩

end CommandContext
end Rollout
