import Rollout.Proofs.Dispatch
import Rollout.Proofs.Except
import Rollout.Proofs.Ref
namespace Rollout.Dispatcher

-- The apps of these names in a project.
structure AppsOf (p : ProjectRef) (names : List String) (apps : List AppRef) : Prop where
  named  : apps.map (·.app) = names
  inside : ∀ a ∈ apps, a.project = p.name

-- The apps that are operated on, and where each choice of them comes from.
inductive Chosen (d : Dispatcher) (listed : List AppRef) : List AppRef → Prop
  | target {a} (target : d.context.target.app? = some a) : Chosen d listed [a]
  | flag {name p a} (noTarget : d.context.target.app? = none) (flag : d.context.flagApp = some name) 
    (project : d.project? = some p) (app : p.app name = .ok a) : Chosen d listed [a]
  | listed (noTarget : d.context.target.app? = none) (noFlag : d.context.flagApp = none) 
    (nonempty : listed ≠ []) : Chosen d listed listed
  | configured {loaded p apps} (noTarget : d.context.target.app? = none) 
    (noFlag : d.context.flagApp = none) (empty : listed = []) (config : d.context.config = some loaded) 
    (project : d.project? = some p) (declared : AppsOf p loaded.config.apps apps) : Chosen d listed apps
  | nothing (noTarget : d.context.target.app? = none) (noFlag : d.context.flagApp = none) 
    (empty : listed = []) (undeclared : d.context.config = none ∨ d.project? = none) : Chosen d listed []

variable {d : Dispatcher} {p : ProjectRef} {a : AppRef} {mode : RunnerMode} {names : List String}
variable {server : Option Server} {apps listed chosen : List AppRef} {q : Plan}

-- Showing a failure does not turn it into anything else than a failure.
theorem report_eq_ok_iff {α : Type} {x : Traced Failure α} {a : α} : 
    (report x).result = .ok a ↔ x.result = .ok a := by
  unfold report
  cases h : x.result <;> simp

theorem forall_events_report {α : Type} {x : Traced Failure α} {P : Event → Prop} 
    (hx : ∀ ev ∈ x.events, P ev) (he : ∀ message, P (.error message)) : 
    ∀ ev ∈ (report x).events, P ev := by
  unfold report
  split
  case h_1 => exact hx
  case h_2 => exact List.forall_mem_append.mpr ⟨hx, List.forall_mem_singleton.mpr (he _)⟩

theorem appsOf_eq_ok_iff : appsOf p names = .ok apps ↔ AppsOf p names apps := by
  induction names generalizing apps
  case nil => 
    constructor
    case mp  =>
      rintro ⟨⟩
      exact ⟨rfl, nofun⟩
    case mpr =>
      intro h
      rw [List.map_eq_nil_iff.mp h.named, appsOf]
  case cons name names hi =>
    simp only [appsOf, Except.bind_eq_ok_iff, Failure.because, Traced.mapError_eq_ok_iff, hi, 
      ProjectRef.app_eq_ok_iff, Except.pure_eq, Except.ok.injEq]
    constructor
    case mp  =>
      rintro ⟨a, ⟨hp, rfl⟩, rest, ⟨rfl, hr⟩, rfl⟩
      exact ⟨rfl, List.forall_mem_cons.mpr ⟨hp, hr⟩⟩
    case mpr =>
      intro ⟨hm, hr⟩
      obtain ⟨a, rest, rfl, rfl, rfl⟩ := List.map_eq_cons_iff.mp hm
      have ⟨hp, hr⟩ := List.forall_mem_cons.mp hr
      exact ⟨a, ⟨hp, rfl⟩, rest, ⟨rfl, hr⟩, rfl⟩

theorem AppsOf.exists_of_nonblank (p : ProjectRef) (h : ∀ name ∈ names, Text.isBlank name = false) : 
    ∃ apps, AppsOf p names apps := by
  refine ⟨names.pmap (fun name hn => ⟨p.name, name, p.nonblank, hn⟩) h, ?_, fun a ha => ?_⟩
  case refine_1 => simp [List.map_pmap]
  case refine_2 => 
    obtain ⟨_, _, rfl⟩ := List.mem_pmap.mp ha
    rfl

-- A survey succeeds if there is a server that knows the project and can tell where it runs.
theorem survey_eq_ok_iff : (survey server p).result = .ok (mode, apps) ↔ 
    ∃ s project routing, server = some s ∧ s.project p = .ok project ∧ 
      (Routing.decide s project).result = .ok routing ∧ routing.mode = mode ∧ 
      AppsOf p project.apps apps := by
  cases server
  case none        => simp [survey, reject]
  case some server =>
    simp only [survey, Traced.result_bind_eq_ok_iff, report_eq_ok_iff, Traced.result_asked, 
      Traced.result_of, Traced.result_pure, Except.ok.injEq, appsOf_eq_ok_iff]
    constructor
    case mp  =>
      rintro ⟨project, hp, routing, hr, _, _, _, ha, ⟨⟩⟩
      exact ⟨server, project, routing, rfl, hp, hr, rfl, ha⟩
    case mpr =>
      rintro ⟨_, project, routing, ⟨⟩, hp, hr, rfl, ha⟩
      exact ⟨project, hp, routing, hr, (), rfl, apps, ha, rfl⟩

theorem listed_of_flagProject (h : d.context.flagProject = some p) : d.listed = survey d.server p := by
  simp [Dispatcher.listed, h]

theorem listed_of_noFlagProject (h : d.context.flagProject = none) : 
    d.listed = pure (ownMode d.context, []) := by
  simp [Dispatcher.listed, h]

theorem project?_of_flagProject (h : d.context.flagProject = some p) : d.project? = some p := by
  simp [project?, h]

theorem project?_of_noFlagProject (h : d.context.flagProject = none) : 
    d.project? = d.context.target.project? := by
  simp [project?, h]

theorem appsOf_singleton_iff {name : String} : 
    AppsOf p [name] apps ↔ ∃ a, p.app name = .ok a ∧ apps = [a] := by
  constructor
  case mp  =>
    intro h
    have ⟨a, ha, hn⟩ := List.map_eq_singleton_iff.mp h.named
    subst ha
    exact ⟨a, ProjectRef.app_eq_ok_iff.mpr ⟨h.inside a List.mem_cons_self, hn⟩, rfl⟩
  case mpr =>
    rintro ⟨a, ha, rfl⟩
    have ⟨hp, hn⟩ := ProjectRef.app_eq_ok_iff.mp ha
    exact ⟨congrArg ([·]) hn, List.forall_mem_singleton.mpr hp⟩

theorem chosen_of_choose (h : (d.choose listed).result = .ok chosen) : Chosen d listed chosen := by
  unfold choose at h
  split at h
  case h_1 ht    =>
    cases h
    exact .target ht
  case h_2 ht hf =>
    split at h
    case h_1     => contradiction
    case h_2 hp  =>
      rw [report_eq_ok_iff, Traced.result_of, appsOf_eq_ok_iff, appsOf_singleton_iff] at h
      obtain ⟨a, ha, rfl⟩ := h
      exact .flag ht hf hp ha
  case h_3 ht hf =>
    split at h
    case h_1 hc hp =>
      rw [report_eq_ok_iff, Traced.result_of, appsOf_eq_ok_iff] at h
      exact .configured ht hf rfl hc hp h
    case h_2 hn    =>
      cases h
      by_cases hl : chosen = []
      case pos =>
        subst hl
        refine .nothing ht hf rfl ?_
        cases hc : d.context.config
        case none   => exact .inl rfl
        case some c => exact .inr (Option.eq_none_iff_forall_not_mem.mpr fun p hp => hn c p rfl hc hp)
      case neg => exact .listed ht hf hl

-- A choice that cannot be made is all that is ever shown, and nothing is asked for one.
theorem eq_error_of_mem_choose : ∀ ev ∈ (d.choose listed).events, ∃ message, ev = .error message := by
  have hr (names : List String) (p : ProjectRef) : 
      ∀ ev ∈ (report (Traced.of (appsOf p names))).events, ∃ message, ev = .error message :=
    forall_events_report (by simp) fun message => ⟨message, rfl⟩ 
  unfold choose
  split
  case h_1 => simp
  case h_2 => 
    split
    case h_1 => simp [reject]
    case h_2 => exact hr _ _
  case h_3 => 
    split
    case h_1 => exact hr _ _
    case h_2 => simp

-- Nothing is asked or shown by such a choice.
theorem Chosen.choose_eq (h : Chosen d listed chosen) : d.choose listed = pure chosen := by
  cases h
  case target ht                    => rw [choose_of_app? ht]
  case flag ht hf hp ha             => 
    simp only [choose, ht, hf, hp, appsOf_eq_ok_iff.mpr (appsOf_singleton_iff.mpr ⟨_, ha, rfl⟩)]
    rfl
  case listed ht hf hn              =>
    simp only [choose, ht, hf]
    split
    case h_1 => contradiction
    case h_2 => rfl
  case configured ht hf he hc hp hd =>
    subst he
    simp only [choose, ht, hf, hc, hp, appsOf_eq_ok_iff.mpr hd]
    rfl
  case nothing ht hf he hu          =>
    subst he
    simp only [choose, ht, hf]
    split
    case h_1 hc hp => simp [hc, hp] at hu
    case h_2       => rfl

theorem Chosen.result_choose (h : Chosen d listed chosen) : (d.choose listed).result = .ok chosen := by
  rw [h.choose_eq, Traced.result_pure]

-- In a project that is not asked about, a flag names the app, or else the configuration names all of them.
theorem exists_chosen_of_project {loaded : LoadedConfig} (hf : d.context.flagProject = none) 
    (ht : d.context.target = .project p) (hc : d.context.config = some loaded) 
    (nonblank : ∀ name ∈ d.context.flagApp.elim loaded.config.apps ([·]), Text.isBlank name = false) : 
    ∃ apps, AppsOf p (d.context.flagApp.elim loaded.config.apps ([·])) apps ∧ Chosen d [] apps := by
  have noTarget : d.context.target.app? = none := by simp [ht, Target.app?]
  have project : d.project? = some p := by rw [project?_of_noFlagProject hf, ht, Target.project?]
  have ⟨apps, h⟩ := AppsOf.exists_of_nonblank p nonblank
  cases ha : d.context.flagApp <;> rw [ha] at h
  case none      => exact ⟨apps, h, .configured noTarget ha rfl hc project h⟩
  case some name =>
    obtain ⟨a, app, rfl⟩ := appsOf_singleton_iff.mp h
    exact ⟨[a], h, .flag noTarget ha project app⟩

-- Without a flag that names a project, nothing has to be asked for a plan.
theorem plan_of_chosen (hf : d.context.flagProject = none) (h : Chosen d [] chosen) : 
    d.plan = pure {
      mode   := ownMode d.context
      tasks  := chosen.map (⟨·, d.context.workspace⟩)
      runner := if ownMode d.context = .here then d.runner else none
    } := by
  simp only [plan, listed_of_noFlagProject hf, pure_bind, h.choose_eq]

end Rollout.Dispatcher
