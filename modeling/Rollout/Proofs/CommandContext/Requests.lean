import Rollout.Proofs.CommandContext.Footprint
import Rollout.Proofs.Dispatch.FlagTexts
import Rollout.Proofs.Dispatch.Unasked
import Rollout.Proofs.Server
namespace Rollout.CommandContext

-- A server is asked for the project of that name, while a command is prepared or when it is planned.
inductive Asked (inv : Invocation) (demands : Demands) (env : Collaborators) (name : String) : Prop
  | prepared (asked : .askedProject name ∈ (init inv demands env).events)
  | planned {c server runner} (prepared : (init inv demands env).result = .ok c) 
    (asked : .askedProject name ∈ (Dispatcher.plan ⟨c, server, runner⟩).events)

-- Where the name of a project can come from that a server is asked for. The configuration is not
-- among the sources.
inductive Handed (inv : Invocation) (mode : TargetMode) : String → Prop
  | app {a : AppRef} {rest} (takes : mode ≠ .free) (args : inv.args = a.text :: rest) 
    (project : Segment.Word a.project) (app : Segment.Word a.app) : Handed inv mode a.project
  | argument {name rest} (takes : mode = .appOptional) (args : inv.args = name :: rest) : 
    Handed inv mode name
  | flag {name} (project : inv.flags.project = some name) : Handed inv mode name

variable {inv : Invocation} {demands : Demands} {env : Collaborators}
variable {name : String} {p : ProjectRef} {r : Resolution} {mode : TargetMode} {args : List String}

theorem onlyAsks_checkRunner (server : Option Server) (p : ProjectRef) : 
    ∀ ev ∈ (checkRunner server p).events, Dispatcher.OnlyAsks p ev := by
  cases server
  case none        => simp [checkRunner]
  case some server =>
    have ha : Dispatcher.OnlyAsks p (.askedProject p.name) := by simp [Dispatcher.OnlyAsks]
    refine Traced.forall_events_bind (by simpa using ha) fun project _ => ?_
    refine Traced.forall_events_bind (Dispatcher.onlyAsks_decide server project) fun routing _ => ?_
    split <;> simp

theorem exists_of_asked_checkExplicit {server : Option Server} 
    (h : .askedProject name ∈ (checkExplicit demands server r).events) : 
    r.explicit ∧ ∃ p, r.target.project? = some p ∧ p.name = name := by
  unfold checkExplicit at h
  split at h
  case h_2      => cases h
  case h_1 p hp =>
    split at h
    case isFalse   => cases h
    case isTrue he => 
      have hn := onlyAsks_checkRunner server p _ h name rfl
      exact ⟨(Bool.and_eq_true_iff.mp he).left, p, hp, hn.symm⟩ 

-- Of all stages of a preparation only the last one asks for a project.
theorem exists_of_asked_init (h : .askedProject name ∈ (init inv demands env).events) : 
    ∃ r, (resolution inv demands env).result = .ok r ∧ 
      .askedProject name ∈ (checkExplicit demands env.server r).events := by
  obtain ⟨l, _, he⟩ := exists_events_init inv demands env
  obtain ⟨s, _, hm⟩ := List.mem_flatMap.mp (he ▸ h)
  have hs : some Stage.runner = some s := events_work s _ hm
  obtain rfl := Option.some.inj hs
  rw [work, onceResolved] at hm
  split at hm
  case h_1 r hr => exact ⟨r, hr, hm⟩ 
  case h_2      => cases hm

theorem Handed.of_named {t : Target} (h : Target.Named mode args t) (ha : inv.args = args) 
    (hp : t.project? = some p) : Handed inv mode p.name := by
  cases h
  case app hm hp' hn hr => 
    cases hp
    obtain ⟨rfl, rfl⟩ := hr
    exact .app hm ha (Segment.valid_iff_word.mp hp') (Segment.valid_iff_word.mp hn)
  case project hm _ _ hr =>
    cases hp
    cases hr
    exact .argument hm ha

theorem Asked.handed (h : Asked inv demands env name) : 
    Handed inv demands.target name ∧ ∃ p : ProjectRef, p.name = name := by
  cases h
  case prepared h                   =>
    obtain ⟨r, hr, h⟩ := exists_of_asked_init h
    obtain ⟨he, p, hp, rfl⟩ := exists_of_asked_checkExplicit h
    refine ⟨?_, p, rfl⟩ 
    cases Target.found_of_resolve hr
    case named ht _ => exact .of_named (Target.named_of_positional? ht) rfl hp
    case nothing    => cases he
    case implied    => cases he
  case planned c server runner hc h =>
    cases hf : c.flagProject
    case none   => 
      obtain ⟨_, he⟩ := Dispatcher.eq_error_of_mem_plan hf _ h
      cases he
    case some p =>
      have hn := Dispatcher.onlyAsks_plan hf _ h name rfl
      exact ⟨.flag (hn ▸ (flagProject_eq_some_iff hc).mp hf), p, hn.symm⟩ 

-- A request for a project leads to that project and nowhere else if and only if its name is plain. The 
-- names in front of an app always are; those that are alone in an argument, or in a flag, need not be.
theorem addressed_iff_plain (base : String) (h : Asked inv demands env name) : 
    Handed inv demands.target name ∧ (Segment.Word name → Url.Plain name) ∧ 
      ∃ p : ProjectRef, p.name = name ∧ 
        (Server.Addresses base (Server.projectUrl base p) name ↔ Url.Plain name) ∧ 
        ∀ other, Server.Addresses base (Server.projectUrl base p) other → Url.Plain name → other = name := by
  obtain ⟨handed, p, rfl⟩ := h.handed
  refine ⟨handed, Url.plain_of_word, p, rfl, Server.addresses_projectUrl_iff, fun other ho hp => ?_⟩ 
  exact ho.unique (Server.addresses_projectUrl_iff.mpr hp)

-- The project of an app is addressed as it should be.
theorem addressed_iff_plain_shop : 
    let inv : Invocation := { args := ["shop/web"] }
    let shop : ProjectRef := ⟨"shop", by decide⟩ 
    let server := Server.unusable "http://h:99999"
    let env : Collaborators := ⟨⟨[], []⟩, .ok none, ⟨.ok none, fun _ => .ok {}⟩, some server⟩ 
    Asked inv ⟨.appRequired, .skip, true⟩ env "shop" ∧ 
      Server.Addresses "http://h:99999" (Server.projectUrl "http://h:99999" shop) "shop" := by
  intro inv shop server env
  have h : Asked inv ⟨.appRequired, .skip, true⟩ env "shop" := .prepared (by decide +kernel)
  have ⟨_, hw, p, hp, ha, _⟩ := addressed_iff_plain "http://h:99999" h
  obtain rfl : p = shop := ProjectRef.ext hp
  exact ⟨h, ha.mpr (hw (Segment.valid_iff_word.mp (by decide)))⟩ 

-- An argument with more slashes is taken for the name of a project as it is. The request for that 
-- project leads to something else, although there is a URL that leads to it.
theorem addressed_elsewhere : 
    let inv : Invocation := { args := ["shop/web/extra"] }
    let p : ProjectRef := ⟨"shop/web/extra", by decide⟩ 
    let server : Server := ⟨fun p => .ok ⟨p.name, [], true, some (.git "u" "" ""), some "r1"⟩, .ok []⟩
    let env : Collaborators := ⟨⟨[], []⟩, .ok none, ⟨.ok none, fun _ => .ok {}⟩, some server⟩ 
    let c := assemble inv .default ⟨.project p, true, [], none⟩ .empty
    (init inv ⟨.appOptional, .loadOptional, true⟩ env).result = .ok c ∧ 
      Asked inv ⟨.appOptional, .loadOptional, true⟩ env p.name ∧ 
      Server.projectUrl "https://h:1" p = "https://h:1/v1/projects/shop/web/extra" ∧ 
      ¬Server.Addresses "https://h:1" (Server.projectUrl "https://h:1" p) p.name ∧ 
      Server.Addresses "https://h:1" "https://h:1/v1/projects/shop%2Fweb%2Fextra" p.name := by
  intro inv p server env c
  have hc : (init inv ⟨.appOptional, .loadOptional, true⟩ env).result = .ok c := by
    refine init_eq_ok_iff.mpr <| .intro ?_ ?_ ?_ ?_ ?_ ?_
    all_goals decide +kernel
  refine ⟨hc, .prepared (by decide +kernel), by decide, ?_, ?_⟩ 
  case refine_1 =>
    rw [Server.addresses_projectUrl_iff]
    intro h
    exact absurd (h.single '/' (by decide)).left (by decide)
  case refine_2 => 
    have single : "shop%2Fweb%2Fextra".toList.all (!Url.isSeparator ·) := by decide
    exact ⟨"shop%2Fweb%2Fextra", by decide, by simpa using single, by decide, by decide, by decide, by decide⟩ 

end Rollout.CommandContext
