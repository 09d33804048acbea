import Rollout.Proofs.Dispatch.Account
import Rollout.Proofs.Dispatch.Unasked
import Rollout.Proofs.ProjectConfig
import Rollout.Proofs.Target.Precedence
namespace Rollout

open Event (errors)

namespace Event

def askedProject? : Event → Option String
  | .askedProject name => some name
  | _                  => none

def output? : Event → Option String
  | .output message => some message
  | _               => none

end Event

namespace Dispatcher

-- The ways in which a survey goes, with everything that happens in each of them.
inductive Surveyed (s : Server) (p : ProjectRef) : 
    Traced OperationError (RunnerMode × List AppRef) → Prop
  | unknown {f} (unknown : s.project p = .error f) : 
    Surveyed s p ⟨[.askedProject p.name, .error f.full], .error .alreadyReported⟩ 
  | undecided {project f} (known : s.project p = .ok project) (undecided : project.Undecided) 
    (profiles : s.profiles = .error f) : 
    Surveyed s p ⟨[.askedProject p.name, .askedProfiles, .error f.full], .error .alreadyReported⟩ 
  | unnamed {project asked routing f} (known : s.project p = .ok project) 
    (decided : Routing.decide s project = ⟨asked, .ok routing⟩) (unnamed : appsOf p project.apps = .error f) :
    Surveyed s p ⟨[.askedProject p.name] ++ asked ++ [.output (announcement routing.mode), .error f.full], 
      .error .alreadyReported⟩ 
  | done {project asked routing apps} (known : s.project p = .ok project) 
    (decided : Routing.decide s project = ⟨asked, .ok routing⟩) (named : AppsOf p project.apps apps) :
    Surveyed s p ⟨[.askedProject p.name] ++ asked ++ [.output (announcement routing.mode)], 
      .ok (routing.mode, apps)⟩ 

variable {d : Dispatcher} {s : Server} {p : ProjectRef} {q : Plan} {names : List String} {e : OperationError}
variable {apps listed : List AppRef}

theorem surveyed (s : Server) (p : ProjectRef) : Surveyed s p (survey (some s) p) := by
  cases hp : s.project p
  case error f    => 
    rw [show survey (some s) p = ⟨[.askedProject p.name, .error f.full], .error .alreadyReported⟩ by
      simp [survey, report, hp, Traced.bind_eq, Traced.bind]]
    exact .unknown hp
  case ok project =>
    obtain ⟨asked, decided⟩ : ∃ asked, (Routing.decide s project).events = asked := ⟨_, rfl⟩ 
    cases hr : (Routing.decide s project).result
    case error f    =>
      obtain ⟨hu, hs⟩ := Routing.decide_eq_error_iff.mp hr
      rw [show survey (some s) p = 
          ⟨[.askedProject p.name, .askedProfiles, .error f.full], .error .alreadyReported⟩ by
        simp [survey, report, hp, Routing.decide_of_undecided hu, hs, Traced.bind_eq, Traced.bind]]
      exact .undecided hp hu hs
    case ok routing =>
      have hd : Routing.decide s project = ⟨asked, .ok routing⟩ := Traced.ext decided hr
      cases ha : appsOf p project.apps
      case error f => 
        rw [show survey (some s) p = ⟨[.askedProject p.name] ++ asked ++ 
            [.output (announcement routing.mode), .error f.full], .error .alreadyReported⟩ by
          simp [survey, report, hp, hd, ha, Traced.bind_eq, Traced.bind, Traced.emit]]
        exact .unnamed hp hd ha
      case ok apps => 
        rw [show survey (some s) p = ⟨[.askedProject p.name] ++ asked ++ 
            [.output (announcement routing.mode)], .ok (routing.mode, apps)⟩ by
          simp [survey, report, hp, hd, ha, Traced.bind_eq, Traced.bind, Traced.emit]]
        exact .done hp hd (appsOf_eq_ok_iff.mp ha)

theorem eq_alreadyReported_of_report {α : Type} {x : Traced Failure α} :
    ∀ e, (report x).result = .error e → e = .alreadyReported := by
  unfold report
  split
  case h_1 => exact nofun
  case h_2 => 
    rintro _ ⟨⟩ 
    rfl

theorem eq_alreadyReported_of_listed : ∀ e, d.listed.result = .error e → e = .alreadyReported := by
  cases hf : d.context.flagProject
  case none   => simp [listed_of_noFlagProject hf]
  case some p =>
    rw [listed_of_flagProject hf]
    cases d.server
    case none   => 
      rintro _ ⟨⟩
      rfl
    case some s => 
      intro e h
      cases hx : survey (some s) p
      cases hx ▸ surveyed s p <;> simp_all

theorem eq_alreadyReported_of_choose : 
    ∀ e, (d.choose listed).result = .error e → e = .alreadyReported := by
  unfold choose
  split
  case h_1 => simp
  case h_2 => 
    split
    case h_1 => 
      rintro _ ⟨⟩
      rfl
    case h_2 => exact eq_alreadyReported_of_report
  case h_3 => 
    split
    case h_1 => exact eq_alreadyReported_of_report
    case h_2 => simp

-- A plan that fails has told the user why, so that nothing is left to be said.
theorem eq_alreadyReported_of_plan : ∀ e, d.plan.result = .error e → e = .alreadyReported :=
  Traced.forall_error_bind eq_alreadyReported_of_listed fun _ _ =>
    Traced.forall_error_bind eq_alreadyReported_of_choose fun _ _ => by simp

-- What it means that planning has failed.
structure Refused (d : Dispatcher) (e : OperationError) : Prop where
  error    : e = .alreadyReported
  shown    : errors d.plan.events = 1
  dispatch : ∀ (σ : Type) (op : Operation σ) canceled s, 
    d.dispatch op canceled s = ⟨.alreadyReported, canceled, s⟩ 
  calls    : ∀ (σ : Type) (op : Operation σ) canceled s, d.calls op canceled s = []

theorem refused_of_error (h : d.plan.result = .error e) : Refused d e := by
  cases eq_alreadyReported_of_plan e h
  exact ⟨rfl, accounted_plan.error _ h, fun _ _ _ _ => dispatch_of_error h, fun _ _ _ _ => calls_of_error h⟩ 

-- Choosing never fails but for the lack of a project, as long as the names to choose from can be names.
theorem exists_chosen_or (hx : ∀ x, d.context.flagApp = some x → Text.isBlank x = false)
    (hc : ∀ loaded, d.context.config = some loaded → ∀ name ∈ loaded.config.apps, Text.isBlank name = false) 
    (listed : List AppRef) : 
    (∃ chosen, Chosen d listed chosen) ∨ 
      d.context.target.app? = none ∧ (∃ x, d.context.flagApp = some x) ∧ d.project? = none := by
  cases ht : d.context.target.app?
  case some a => exact .inl ⟨_, .target ht⟩ 
  case none   =>
    cases hf : d.context.flagApp
    case some x =>
      cases hp : d.project?
      case none   => exact .inr ⟨rfl, ⟨x, rfl⟩, rfl⟩ 
      case some p => exact .inl ⟨_, .flag ht hf hp (p.app_of_nonblank (hx x hf))⟩ 
    case none   =>
      left
      by_cases hl : listed = []
      case neg => exact ⟨_, .listed ht hf hl⟩ 
      case pos =>
        cases hl' : d.context.config
        case none        => exact ⟨_, .nothing ht hf hl (.inl hl')⟩ 
        case some loaded =>
          cases hp : d.project?
          case none   => exact ⟨_, .nothing ht hf hl (.inr hp)⟩ 
          case some p => 
            have ⟨apps, ha⟩ := AppsOf.exists_of_nonblank p (hc loaded hl')
            exact ⟨apps, .configured ht hf hl hl' hp ha⟩ 

theorem exists_blank_of_appsOf {f : Failure} (h : appsOf p names = .error f) : 
    ∃ name ∈ names, Text.isBlank name := by
  by_contra hn
  have hn : ∀ name ∈ names, Text.isBlank name = false := by simpa using hn
  have ⟨apps, ha⟩ := AppsOf.exists_of_nonblank p hn
  cases h.symm.trans (appsOf_eq_ok_iff.mpr ha)

theorem plan_of_listed {mode : RunnerMode} (hl : d.listed.result = .ok (mode, listed)) (hc : Chosen d listed chosen) : 
    d.plan = ⟨d.listed.events, .ok ⟨mode, chosen.map (⟨·, d.context.workspace⟩), 
      if mode = .here then d.runner else none⟩⟩ := by
  rw [plan, Traced.bind_eq, Traced.bind_of_ok _ hl]
  simp [hc.choose_eq]

theorem exists_events_plan (d : Dispatcher) : 
    ∃ shown, d.plan.events = d.listed.events ++ shown ∧ ∀ ev ∈ shown, ∃ message, ev = .error message := by
  cases hl : d.listed.result
  case error e => exact ⟨[], by rw [plan, Traced.events_bind_of_error hl, List.append_nil], nofun⟩ 
  case ok x    => 
    refine ⟨_, by rw [plan, Traced.events_bind_of_ok hl], ?_⟩ 
    exact Traced.forall_events_bind eq_error_of_mem_choose fun _ _ => by simp

section

variable {x : Traced OperationError (RunnerMode × List AppRef)} (h : Surveyed s p x)

include h

theorem Surveyed.askedProject : x.events.filterMap Event.askedProject? = [p.name] := by
  cases h
  case unnamed project _ _ _ _ hd _ | done project _ _ _ _ hd _ => 
    obtain rfl | rfl := hd ▸ Routing.events_decide s project <;> rfl
  all_goals rfl

theorem Surveyed.askedProfiles : x.events.count .askedProfiles ≤ 1 := by
  cases h
  case unnamed project _ _ _ _ hd _ | done project _ _ _ _ hd _ => 
    obtain rfl | rfl := hd ▸ Routing.events_decide s project <;> simp
  all_goals simp

theorem Surveyed.output_of_routed {project : Project} {routing : Routing} (hp : s.project p = .ok project) 
    (hr : (Routing.decide s project).result = .ok routing) : 
    x.events.filterMap Event.output? = [announcement routing.mode] := by
  cases h
  case unknown hu         => cases hu ▸ hp
  case undecided hk hu hs => 
    cases hk ▸ hp
    cases (Routing.decide_eq_error_iff.mpr ⟨hu, hs⟩).symm.trans hr
  case unnamed hk hd _ | done hk hd _ => 
    cases hk ▸ hp
    have he := hd ▸ Routing.events_decide s project
    cases hd ▸ hr
    obtain rfl | rfl := he <;> rfl

theorem Surveyed.output_of_unrouted 
    (hn : ∀ project routing, s.project p = .ok project → (Routing.decide s project).result ≠ .ok routing) :
    x.events.filterMap Event.output? = [] := by
  cases h
  case unnamed hk hd _ | done hk hd _ => exact absurd (by rw [hd]) (hn _ _ hk)
  all_goals rfl

end

-- What the server is asked and what is output if a flag names a project.
structure Surveys (d : Dispatcher) (s : Server) (p : ProjectRef) : Prop where
  project  : d.plan.events.filterMap Event.askedProject? = [p.name]
  profiles : d.plan.events.count .askedProfiles ≤ 1
  routed   : ∀ project routing, s.project p = .ok project → (Routing.decide s project).result = .ok routing → 
    d.plan.events.filterMap Event.output? = [announcement routing.mode]
  unrouted : (∀ project routing, s.project p = .ok project → (Routing.decide s project).result ≠ .ok routing) → 
    d.plan.events.filterMap Event.output? = []
  mode     : ∀ q, d.plan.result = .ok q → 
    ∃ project routing, s.project p = .ok project ∧ (Routing.decide s project).result = .ok routing ∧ 
      q.mode = routing.mode

theorem surveys_plan (hf : d.context.flagProject = some p) (hs : d.server = some s) : Surveys d s p := by
  have ⟨shown, he, hm⟩ := exists_events_plan d
  rw [listed_of_flagProject hf, hs] at he
  have silent (ev) (h : ev ∈ shown) : ev.askedProject? = none ∧ ev ≠ .askedProfiles ∧ ev.output? = none := by
    obtain ⟨_, rfl⟩ := hm ev h
    exact ⟨rfl, nofun, rfl⟩ 
  have noProject : shown.filterMap Event.askedProject? = [] := 
    List.filterMap_eq_nil_iff.mpr fun ev h => (silent ev h).left
  have noProfiles : shown.count .askedProfiles = 0 := 
    List.count_eq_zero.mpr fun h => (silent _ h).right.left rfl
  have noOutput : shown.filterMap Event.output? = [] := 
    List.filterMap_eq_nil_iff.mpr fun ev h => (silent ev h).right.right
  constructor
  case project  => rw [he, List.filterMap_append, noProject, (surveyed s p).askedProject, List.append_nil]
  case profiles => rw [he, List.count_append, noProfiles]; exact (surveyed s p).askedProfiles
  case routed   => 
    intro project routing hp hr
    rw [he, List.filterMap_append, noOutput, (surveyed s p).output_of_routed hp hr, List.append_nil]
  case unrouted => 
    intro hn
    rw [he, List.filterMap_append, noOutput, (surveyed s p).output_of_unrouted hn, List.append_nil]
  case mode     =>
    intro q hq
    have ⟨_, _, _, hl, _, hq⟩ := plan_eq_ok_iff.mp hq
    rw [listed_of_flagProject hf, survey_eq_ok_iff] at hl
    obtain ⟨s', project, routing, hs', hp, hr, hm, _⟩ := hl
    cases hs ▸ hs'
    exact ⟨project, routing, hp, hr, by rw [hq, hm]⟩ 

end Dispatcher

namespace CommandContext

-- All that can keep a command from being planned for.
inductive Impeded (inv : Invocation) (c : CommandContext) (server : Option Server) : Prop
  | noServer {p : ProjectRef} (flag : inv.flags.project = some p.name) (server : server = none)
  | unknown {p : ProjectRef} {s f} (flag : inv.flags.project = some p.name) (server : server = some s) 
    (unknown : s.project p = .error f)
  | undecided {p : ProjectRef} {s project f} (flag : inv.flags.project = some p.name) 
    (server : server = some s) (known : s.project p = .ok project) (undecided : project.Undecided) 
    (profiles : s.profiles = .error f)
  | unnamed {p : ProjectRef} {s project name} (flag : inv.flags.project = some p.name) 
    (server : server = some s) (known : s.project p = .ok project) (listed : name ∈ project.apps) 
    (blank : Text.isBlank name)
  | noProject {x} (noFlag : inv.flags.project.all Text.isBlank) (noApp : c.target.app? = none) 
    (flag : inv.flags.app = some x) (nonblank : Text.isBlank x = false) 
    (noProject : c.target.project? = none)

variable {inv : Invocation} {demands : Demands} {env : Collaborators} {c : CommandContext}
variable {server : Option Server} {runner : Option String} {q : Plan} {e : OperationError}

theorem search_of_config {loaded : LoadedConfig} (h : (init inv demands env).result = .ok c) 
    (hc : c.config = some loaded) : env.config = .ok (some loaded) := by
  obtain ⟨_, _, _, hr, rfl⟩ := exists_resolution_of_init h
  exact (Target.precedence_of_resolve hr).loaded _ hc

theorem not_ok_of_impeded (h : (init inv demands env).result = .ok c) (hi : Impeded inv c server) : 
    (Dispatcher.plan ⟨c, server, runner⟩).result ≠ .ok q := by
  intro hq
  obtain ⟨_, apps, chosen, hl, hc, -⟩ := Dispatcher.plan_eq_ok_iff.mp hq
  have surveyed {p : ProjectRef} (flag : inv.flags.project = some p.name) : 
      ∃ s project routing, server = some s ∧ s.project p = .ok project ∧ 
        (Routing.decide s project).result = .ok routing ∧ Dispatcher.AppsOf p project.apps apps := by
    have hf : c.flagProject = some p := (flagProject_eq_some_iff h).mpr flag
    rw [Dispatcher.listed_of_flagProject hf, Dispatcher.survey_eq_ok_iff] at hl
    exact hl.imp fun _ ⟨_, _, hs, hp, hr, _, ha⟩ => ⟨_, _, hs, hp, hr, ha⟩ 
  cases hi
  case noServer flag hs           =>
    obtain ⟨_, _, _, hs', _⟩ := surveyed flag
    cases hs ▸ hs'
  case unknown flag hs hu         =>
    obtain ⟨_, _, _, hs', hp, _⟩ := surveyed flag
    cases hs ▸ hs'
    cases hu ▸ hp
  case undecided flag hs hk hu hf =>
    obtain ⟨_, _, _, hs', hp, hr, _⟩ := surveyed flag
    cases hs ▸ hs'
    cases hk ▸ hp
    cases (Routing.decide_eq_error_iff.mpr ⟨hu, hf⟩).symm.trans hr
  case unnamed flag hs hk hm hb   =>
    obtain ⟨_, _, _, hs', hp, _, ha⟩ := surveyed flag
    cases hs ▸ hs'
    cases hk ▸ hp
    obtain ⟨a, _, rfl⟩ := List.mem_map.mp (ha.named ▸ hm)
    simp [a.nonblankApp] at hb
  case noProject x hn ht hx hb hp =>
    have ha : c.flagApp = some x := by
      rw [flagApp_eq h, Text.verbatim?_eq_some_iff]
      exact ⟨hx, hb⟩ 
    have hp' : Dispatcher.project? ⟨c, server, runner⟩ = none := by
      rw [Dispatcher.project?_of_noFlagProject (flagProject_eq_none h hn), hp]
    cases Dispatcher.chosen_of_choose hc
    case flag hq' _ => cases hp' ▸ hq'
    all_goals simp_all

theorem impeded_of_error (h : (init inv demands env).result = .ok c) 
    (hv : ∀ loaded, env.config = .ok (some loaded) → loaded.config.Valid) 
    (he : (Dispatcher.plan ⟨c, server, runner⟩).result = .error e) : Impeded inv c server := by
  have hx (x) (hx : c.flagApp = some x) : inv.flags.app = some x ∧ Text.isBlank x = false :=
    Text.verbatim?_eq_some_iff.mp (flagApp_eq h ▸ hx)
  have hc (loaded) (hc : c.config = some loaded) : ∀ name ∈ loaded.config.apps, Text.isBlank name = false :=
    fun name hm => Segment.not_isBlank_of_valid ((hv loaded (search_of_config h hc)).apps name hm)
  have choosable := Dispatcher.exists_chosen_or (d := ⟨c, server, runner⟩) (fun x h => (hx x h).right) hc
  cases hf : c.flagProject
  case none   =>
    obtain ⟨chosen, hch⟩ | ⟨ht, ⟨x, ha⟩, hp⟩ := choosable []
    case inl => cases Dispatcher.plan_of_chosen hf hch ▸ he
    case inr => 
      rw [Dispatcher.project?_of_noFlagProject hf] at hp
      exact .noProject ((flagProject_eq_none_iff h).mp hf) ht (hx x ha).left (hx x ha).right hp
  case some p =>
    have flag := (flagProject_eq_some_iff h).mp hf
    cases server
    case none   => exact .noServer flag rfl
    case some s =>
      let d : Dispatcher := ⟨c, some s, runner⟩ 
      have hl : d.listed = Dispatcher.survey (some s) p := Dispatcher.listed_of_flagProject hf
      have hp : d.project? = some p := Dispatcher.project?_of_flagProject hf
      cases hd : Dispatcher.survey (some s) p
      cases hd ▸ Dispatcher.surveyed s p
      case unknown hu         => exact .unknown flag rfl hu
      case undecided hk hu hs => exact .undecided flag rfl hk hu hs
      case unnamed hk _ ha    => 
        have ⟨name, hm, hb⟩ := Dispatcher.exists_blank_of_appsOf ha
        exact .unnamed flag rfl hk hm hb
      case done               =>
        obtain ⟨chosen, hch⟩ | ⟨_, _, hn⟩ := choosable _
        case inl => cases Dispatcher.plan_of_listed (by rw [hl, hd]) hch ▸ he
        case inr => cases hp ▸ hn

-- Planning fails in exactly these cases, which the user is told once. A server that is asked about a project is
-- asked no more than needed, and followed.
theorem planning_accounted (h : (init inv demands env).result = .ok c) 
    (hv : ∀ loaded, env.config = .ok (some loaded) → loaded.config.Valid) : 
    let d : Dispatcher := ⟨c, server, runner⟩ 
    ((∃ e, d.plan.result = .error e) ↔ Impeded inv c server) ∧ 
    (∀ e, d.plan.result = .error e → d.Refused e) ∧ 
    (∀ q, d.plan.result = .ok q → errors d.plan.events = 0) ∧ 
    ∀ p s, inv.flags.project = some p.name → server = some s → d.Surveys s p := by
  intro d
  refine ⟨⟨fun ⟨e, he⟩ => impeded_of_error h hv he, fun hi => ?_⟩, fun e => Dispatcher.refused_of_error, 
    Dispatcher.accounted_plan.ok, fun p s flag hs => ?_⟩ 
  case refine_1 => 
    cases hp : d.plan.result
    case error e => exact ⟨e, rfl⟩ 
    case ok q    => exact absurd hp (not_ok_of_impeded h hi)
  case refine_2 => exact Dispatcher.surveys_plan ((flagProject_eq_some_iff h).mpr flag) hs

-- The server knows the project and where it runs, and still lists an app that has no name.
theorem planning_accounted_unnamed :
    let inv : Invocation := { flags := { project := some " shop" } }
    let server : Server := { 
      project  := fun p => .ok ⟨p.name, ["web", "\t"], true, some (.git "https://git/shop" "" ""), none⟩
      profiles := .ok [⟨true⟩]
    }
    let env : Collaborators := ⟨⟨[], []⟩, .ok none, ⟨.ok none, fun _ => .ok {}⟩, some server⟩
    let c := assemble inv .default ⟨.nothing, false, [], none⟩ .empty
    let d : Dispatcher := ⟨c, some server, none⟩
    (init inv ⟨.free, .loadOptional, false⟩ env).result = .ok c ∧ Impeded inv c (some server) ∧ 
    d.Refused .alreadyReported ∧ d.Surveys server ⟨" shop", by decide⟩ ∧ 
    d.plan.events.filterMap Event.output? = ["Using remote runner"] := by
  intro inv server env c d
  have hc : (init inv ⟨.free, .loadOptional, false⟩ env).result = .ok c := by
    refine init_eq_ok_iff.mpr <| .intro ?_ ?_ ?_ ?_ ?_ ?_
    all_goals decide +kernel
  have he : d.plan.result = .error .alreadyReported := by decide +kernel
  have valid : ∀ loaded, env.config = .ok (some loaded) → loaded.config.Valid := nofun
  have impeded : Impeded inv c (some server) := (planning_accounted hc valid).left.mp ⟨_, he⟩
  have refused : d.Refused .alreadyReported := (planning_accounted hc valid).right.left _ he
  have surveys : d.Surveys server ⟨" shop", by decide⟩ := 
    (planning_accounted hc valid).right.right.right _ server rfl rfl
  exact ⟨hc, impeded, refused, surveys, surveys.routed _ .defaultProfile rfl rfl⟩

end CommandContext
end Rollout
