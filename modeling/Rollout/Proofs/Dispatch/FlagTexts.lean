import Rollout.Proofs.CommandContext.Prepared
import Rollout.Proofs.Dispatch.Candidates
import Rollout.Proofs.Routing
import Rollout.Proofs.Target.Precedence
import Rollout.Proofs.Text.Blank
namespace Rollout

namespace Dispatcher

variable {d : Dispatcher} {p : ProjectRef} {a : AppRef} {s : Server} {q : Plan} {name : String}

-- Nothing is asked about another project.
def OnlyAsks (p : ProjectRef) (ev : Event) : Prop :=
  ∀ name, ev = .askedProject name → name = p.name

theorem onlyAsks_report {α : Type} {x : Traced Failure α} (h : ∀ ev ∈ x.events, OnlyAsks p ev) : 
    ∀ ev ∈ (report x).events, OnlyAsks p ev :=
  forall_events_report h fun _ => nofun

theorem onlyAsks_decide (s : Server) (project : Project) : 
    ∀ ev ∈ (Routing.decide s project).events, OnlyAsks p ev := by
  intro ev h
  rw [Routing.eq_askedProfiles _ _ _ h]
  exact nofun

theorem onlyAsks_survey (server : Option Server) : ∀ ev ∈ (survey server p).events, OnlyAsks p ev := by
  unfold survey
  split
  case h_1   => simp [reject, OnlyAsks]
  case h_2 s => 
    have ha : ∀ ev ∈ (Traced.asked (.askedProject p.name) (s.project p)).events, OnlyAsks p ev := by
      simp [OnlyAsks]
    refine Traced.forall_events_bind (onlyAsks_report ha) fun project _ => ?_
    refine Traced.forall_events_bind (onlyAsks_report (onlyAsks_decide s project)) fun _ _ => ?_
    refine Traced.forall_events_bind (by simp [Traced.emit, OnlyAsks]) fun _ _ => ?_
    exact Traced.forall_events_bind (onlyAsks_report (by simp)) fun _ _ => by simp

theorem onlyAsks_choose (listed : List AppRef) : ∀ ev ∈ (d.choose listed).events, OnlyAsks p ev := by
  intro ev h
  obtain ⟨_, rfl⟩ := eq_error_of_mem_choose ev h
  exact nofun

theorem onlyAsks_plan (hf : d.context.flagProject = some p) : ∀ ev ∈ d.plan.events, OnlyAsks p ev := by
  unfold plan
  rw [listed_of_flagProject hf]
  refine Traced.forall_events_bind (onlyAsks_survey _) fun _ _ => ?_
  exact Traced.forall_events_bind (onlyAsks_choose _) fun _ _ => by simp

-- A plan for a project that a flag names asks the server about that project and no other one.
theorem askedProject_mem_plan (hf : d.context.flagProject = some p) (hs : d.server = some s) : 
    .askedProject name ∈ d.plan.events ↔ name = p.name := by
  constructor
  case mp  => exact fun h => onlyAsks_plan hf _ h name rfl
  case mpr =>
    rintro rfl
    unfold plan
    rw [listed_of_flagProject hf, hs]
    refine Traced.mem_events_bind (Traced.mem_events_bind ?_)
    unfold report
    split
    case h_1 => exact List.mem_singleton_self _
    case h_2 => exact List.mem_append_left _ (List.mem_singleton_self _)

-- If a flag and the target agree on the project, all tasks are inside of it.
theorem project_of_mem_tasks (hf : d.context.flagProject = some p) 
    (ht : d.context.target.project? = some p) (h : d.plan.result = .ok q) : 
    ∀ t ∈ q.tasks, t.app.project = p.name := by
  have ⟨mode, apps, chosen, hl, hc, hq⟩ := plan_eq_ok_iff.mp h
  rw [listed_of_flagProject hf, survey_eq_ok_iff] at hl
  have ⟨_, _, _, _, _, _, _, listed⟩ := hl
  have hp : ∀ p', d.project? = some p' → p' = p := by simp [project?_of_flagProject hf, eq_comm]
  suffices inside : ∀ a ∈ chosen, a.project = p.name by
    rw [hq]
    exact List.forall_mem_map.mpr inside
  cases chosen_of_choose hc
  case target a ha                => 
    rw [Target.project?_of_app? ha, Option.some.injEq] at ht
    exact List.forall_mem_singleton.mpr (ht ▸ rfl)
  case flag hp' ha                => 
    cases hp _ hp'
    exact List.forall_mem_singleton.mpr (ProjectRef.app_eq_ok_iff.mp ha).left
  case listed                     => exact listed.inside
  case configured hp' declared    => 
    cases hp _ hp'
    exact declared.inside
  case nothing                    => nofun

section

variable (ht : d.context.target.app? = none) (hf : d.context.flagApp = some name) 
variable (hp : d.project? = some p) (ha : p.app name = .ok a)

include ht hf hp ha

theorem tasks_of_flagApp (h : d.plan.result = .ok q) : q.tasks = [⟨a, d.context.workspace⟩] := by
  have ⟨_, apps, _, _, hc, hq⟩ := plan_eq_ok_iff.mp h
  have flag : Chosen d apps [a] := .flag ht hf hp ha
  cases flag.result_choose ▸ hc
  rw [hq, List.map_singleton]

-- A server that knows every project, but no app of any, is enough to plan for an app that is named.
theorem exists_plan_of_flagApp : 
    let s : Server := ⟨fun p => .ok ⟨p.name, [], false, none, none⟩, .ok []⟩
    ∃ q, (Dispatcher.plan ⟨d.context, some s, d.runner⟩).result = .ok q := by
  intro s
  let d' : Dispatcher := ⟨d.context, some s, d.runner⟩
  have chosen : (d'.choose []).result = .ok [a] := Chosen.result_choose (.flag ht hf hp ha)
  cases hg : d.context.flagProject
  case none   => 
    have listed : d'.listed.result = .ok (ownMode d.context, []) := by
      rw [listed_of_noFlagProject (d := d') hg, Traced.result_pure]
    exact ⟨_, plan_eq_ok_iff.mpr ⟨_, _, _, listed, chosen, rfl⟩⟩
  case some g =>
    have surveyed : (survey (some s) g).result = .ok (.here, []) := 
      survey_eq_ok_iff.mpr ⟨s, _, .disabled, rfl, rfl, rfl, rfl, rfl, nofun⟩
    have listed : d'.listed.result = .ok (.here, []) := by
      rw [listed_of_flagProject (d := d') hg, surveyed]
    exact ⟨_, plan_eq_ok_iff.mpr ⟨_, _, _, listed, chosen, rfl⟩⟩

end

end Dispatcher

namespace CommandContext

-- Whatever is planned, the server is asked about this project and no other one, and all tasks are
-- inside of it.
structure PlansFor (p : ProjectRef) (c : CommandContext) : Prop where
  asked : ∀ server runner name, 
    .askedProject name ∈ (Dispatcher.plan ⟨c, some server, runner⟩).events ↔ name = p.name
  tasks : ∀ server runner q, (Dispatcher.plan ⟨c, server, runner⟩).result = .ok q → 
    ∀ t ∈ q.tasks, t.app.project = p.name

variable {inv : Invocation} {demands : Demands} {env : Collaborators} {c : CommandContext}
variable {loaded : LoadedConfig} {p g : ProjectRef} {s x : String}

theorem plansFor_iff (hf : c.flagProject = some g) (ht : c.target.project? = some p) : 
    PlansFor p c ↔ g = p := by
  constructor
  case mp  =>
    intro h
    let server := Server.unusable ""
    have asked : .askedProject g.name ∈ (Dispatcher.plan ⟨c, some server, none⟩).events := 
      (Dispatcher.askedProject_mem_plan hf rfl).mpr rfl
    exact ProjectRef.ext ((h.asked server none g.name).mp asked)
  case mpr =>
    rintro rfl
    exact ⟨fun _ _ _ => Dispatcher.askedProject_mem_plan hf rfl, 
      fun _ _ _ => Dispatcher.project_of_mem_tasks hf ht⟩

-- A plan for an app that a flag names is about that app alone, in the project that is named or targeted.
theorem tasks_eq_iff {a b : AppRef} (ht : c.target.app? = none) (hf : c.flagApp = some x) 
    (hg : c.flagProject.or c.target.project? = some g) (hb : g.app x = .ok b) : 
    (∀ server runner q, (Dispatcher.plan ⟨c, server, runner⟩).result = .ok q → 
      q.tasks = [⟨a, c.workspace⟩]) ↔ b = a := by
  have planned := fun server runner q => 
    Dispatcher.tasks_of_flagApp (d := ⟨c, server, runner⟩) (q := q) ht hf hg hb
  constructor
  case mp  => 
    intro h
    have ⟨q, hq⟩ := Dispatcher.exists_plan_of_flagApp (d := ⟨c, none, none⟩) ht hf hg hb
    have same := (planned _ _ q hq).symm.trans (h _ _ q hq)
    simpa using same
  case mpr => 
    rintro rfl
    exact planned

theorem implied_of_init (hn : ∀ t, ¬Target.Named demands.target inv.args t) 
    (h : (init inv demands env).result = .ok c) (hc : c.config = some loaded) : 
    env.config = .ok (some loaded) ∧ 
      ∃ p, Target.configured ⟨inv.flags.project, inv.flags.app⟩ loaded.config = .ok p ∧ 
        c.target.project? = some p := by
  cases init_eq_ok_iff.mp h
  case intro hr _ _ _ => exact Target.implied_of_resolve hn hr hc

-- The app that the flags stand for where an app is required.
def Requires (inv : Invocation) (env : Collaborators) (a : AppRef) : Prop :=
  ∀ policy args, (∀ t, ¬Target.Named .appRequired args t) → 
    ∃ r, (Target.resolve .appRequired policy ⟨inv.flags.project, inv.flags.app⟩ env.config args).result = 
      .ok r ∧ r.target = .app a

theorem requires_of_app {a : AppRef} (hs : env.config = .ok (some loaded)) 
    (hp : Target.configured ⟨inv.flags.project, inv.flags.app⟩ loaded.config = .ok p) 
    (hx : Text.given? inv.flags.app = some x) (ha : p.app x = .ok a) : Requires inv env a := by
  intro policy args hn
  have hi : Target.implied .appRequired ⟨inv.flags.project, inv.flags.app⟩ loaded.config p = 
      .ok (.app a) := by
    simp [Target.implied, hx, ha]
  exact ⟨_, Target.resolve_of_implied hn (by simp [Target.needsConfig]) hs hp hi, rfl⟩

-- The project that apps without one are planned for is the one of the target if the flag is trimmed.
theorem exists_project (h : (init inv demands env).result = .ok c) 
    (hp : Target.configured ⟨inv.flags.project, inv.flags.app⟩ loaded.config = .ok p) 
    (ht : c.target.project? = some p) : 
    ∃ g, c.flagProject.or c.target.project? = some g ∧ (g = p ↔ Text.Trimmed inv.flags.project) := by
  have flag := fun g => flagProject_eq_some_iff (p := g) h
  cases hf : c.flagProject
  case none   =>
    refine ⟨p, ht, iff_of_true rfl fun s hs hb => ?_⟩
    rw [(flag ⟨s, hb⟩).mpr hs] at hf
    contradiction
  case some g =>
    have hg := (flag g).mp hf
    have hn : p.name = Text.trim g.name := by 
      simp [Target.project_of_configured hp, hg, g.nonblank]
    exact ⟨g, rfl, by rw [hg, Text.trimmed_some_iff g.nonblank, ProjectRef.ext_iff, hn, eq_comm]⟩

-- Finding the target and planning for it read a flag differently, unless it is trimmed.
theorem flags_agree_iff_trimmed (hn : ∀ t, ¬Target.Named demands.target inv.args t) 
    (h : (init inv demands env).result = .ok c) (hc : c.config = some loaded) : 
    (∀ s, inv.flags.project = some s → Text.isBlank s = false → 
      ∃ p, c.target.project? = some p ∧ (PlansFor p c ↔ Text.Trimmed inv.flags.project)) ∧ 
    ∀ x, inv.flags.app = some x → Text.isBlank x = false → c.target.app? = none → 
      ∃ a, Requires inv env a ∧ 
        ((∀ server runner q, (Dispatcher.plan ⟨c, server, runner⟩).result = .ok q → 
          q.tasks = [⟨a, c.workspace⟩]) ↔ 
            Text.Trimmed inv.flags.app ∧ Text.Trimmed inv.flags.project) := by
  have ⟨hs, p, hp, ht⟩ := implied_of_init hn h hc
  have ⟨g, hg, same⟩ := exists_project h hp ht
  constructor
  case left  =>
    intro s hf hb
    have flagged : c.flagProject = some ⟨s, hb⟩ := (flagProject_eq_some_iff h).mpr hf
    obtain rfl : ⟨s, hb⟩ = g := by simpa [flagged] using hg
    exact ⟨p, ht, (plansFor_iff flagged ht).trans same⟩
  case right =>
    intro x hx hb htarget
    have flagged : c.flagApp = some x := by
      rw [flagApp_eq h, Text.verbatim?_eq_some_iff]
      exact ⟨hx, hb⟩
    let a : AppRef := ⟨p.name, Text.trim x, p.nonblank, by rw [Text.isBlank_trim, hb]⟩
    let b : AppRef := ⟨g.name, x, g.nonblank, hb⟩
    have given : Text.given? inv.flags.app = some a.app := 
      Text.given?_eq_some_iff.mpr ⟨x, hx, hb, rfl⟩
    refine ⟨a, requires_of_app hs hp given (ProjectRef.app_eq_ok_iff.mpr ⟨rfl, rfl⟩), ?_⟩
    rw [tasks_eq_iff htarget flagged hg (b := b) (ProjectRef.app_eq_ok_iff.mpr ⟨rfl, rfl⟩), ← same, hx, 
      Text.trimmed_some_iff hb, AppRef.ext_iff, ProjectRef.ext_iff, and_comm, eq_comm (a := x)]

theorem flags_agree_iff_trimmed_web :
    let inv : Invocation := { flags := { project := some "billing", app := some "web" } }
    let file : LoadedConfig := ⟨⟨"/shop/deployctl.toml"⟩, ⟨"shop", none, ["api", "worker"]⟩⟩
    let env : Collaborators := ⟨⟨[], []⟩, .ok (some file), ⟨.ok none, fun _ => .ok {}⟩, none⟩ 
    let billing : ProjectRef := ⟨"billing", by decide⟩
    let c := assemble inv .default ⟨.project billing, false, [], some file⟩ .empty
    (init inv {} env).result = .ok c ∧ c.target.app? = none ∧ PlansFor billing c ∧ 
    ∃ a, Requires inv env a ∧ 
      ∀ server runner q, (Dispatcher.plan ⟨c, server, runner⟩).result = .ok q → 
        q.tasks = [⟨a, .default⟩] := by
  intro inv file env billing c
  have hc : (init inv {} env).result = .ok c := by
    refine init_eq_ok_iff.mpr <| .intro ?_ ?_ ?_ ?_ ?_ ?_
    all_goals decide +kernel
  have ⟨projects, apps⟩ := 
    flags_agree_iff_trimmed (Target.positional?_eq_none_iff.mp rfl) hc rfl
  have ⟨p, hp, agree⟩ := projects "billing" rfl (by decide)
  have ⟨a, required, planned⟩ := apps "web" rfl (by decide) rfl
  cases hp
  have trimmed : Text.Trimmed inv.flags.project := (Text.trimmed_some_iff (by decide)).mpr (by decide)
  have trimmed' : Text.Trimmed inv.flags.app := (Text.trimmed_some_iff (by decide)).mpr (by decide)
  exact ⟨hc, rfl, agree.mpr trimmed, a, required, planned.mpr ⟨trimmed', trimmed⟩⟩

-- The context is about one project here, and the plan about another one.
theorem blanks_lead_elsewhere :
    let inv : Invocation := { flags := { project := some " shop " } }
    let file : LoadedConfig := ⟨⟨"/shop/deployctl.toml"⟩, ⟨"shop", none, ["web"]⟩⟩
    let server : Server := { 
      project  := fun p => .ok ⟨p.name, ["web"], false, none, none⟩
      profiles := .ok [] 
    }
    let env : Collaborators := ⟨⟨[], []⟩, .ok (some file), ⟨.ok none, fun _ => .ok {}⟩, some server⟩ 
    let shop : ProjectRef := ⟨"shop", by decide⟩
    let c := assemble inv .default ⟨.project shop, false, [], some file⟩ .empty
    let plan := Dispatcher.plan ⟨c, some server, none⟩
    (init inv {} env).result = .ok c ∧ c.target.project? = some shop ∧ 
    .askedProject " shop " ∈ plan.events ∧ .askedProject "shop" ∉ plan.events ∧ 
    plan.result = .ok ⟨.here, [⟨⟨" shop ", "web", by decide, by decide⟩, .default⟩], none⟩ ∧ 
    ¬PlansFor shop c := by
  intro inv file server env shop c plan
  have hc : (init inv {} env).result = .ok c := by
    refine init_eq_ok_iff.mpr <| .intro ?_ ?_ ?_ ?_ ?_ ?_
    all_goals decide +kernel
  have asked : .askedProject " shop " ∈ plan.events := by decide +kernel
  refine ⟨hc, rfl, asked, by decide +kernel, by decide +kernel, fun h => ?_⟩
  have same := (h.asked server none " shop ").mp asked
  exact absurd same (by decide)

end CommandContext
end Rollout
