import Mathlib.Data.List.Nodup
import Rollout.Proofs.Dispatch.Declared
import Rollout.Proofs.Target.Unresolved
namespace Rollout

-- No two apps of a plan are confused, and the text of each of them is enough to reach it alone.
structure Plan.Addressable (q : Plan) (search : Except Failure (Option LoadedConfig)) : Prop where
  apps    : (q.tasks.map (·.app)).Nodup
  texts   : (q.tasks.map (·.app.text)).Nodup
  reached : ∀ t ∈ q.tasks, ∀ mode policy flags rest, mode ≠ .free → 
    ∃ r, (Target.resolve mode policy flags search (t.app.text :: rest)).result = .ok r ∧ 
      r.target = .app t.app ∧ r.explicit ∧ r.args = rest

-- Two apps that are made up of words can be told apart by their texts.
theorem AppRef.text_injective {a b : AppRef} (hp : Segment.valid a.project) (ha : Segment.valid a.app) 
    (hp' : Segment.valid b.project) (ha' : Segment.valid b.app) (h : a.text = b.text) : a = b := by
  have read {a : AppRef} (hp : Segment.valid a.project) (ha : Segment.valid a.app) : 
      TargetText.read a.text = .app a.project a.app := 
    TargetText.read_eq_app_iff.mpr ⟨rfl, hp, ha⟩ 
  have hr := read hp ha
  rw [h, read hp' ha', TargetText.app.injEq] at hr
  exact AppRef.ext hr.left.symm hr.right.symm

variable {search : Except Failure (Option LoadedConfig)} {loaded : LoadedConfig}

-- Whatever the flags and the configuration say, the text of an app leads back to it.
theorem Target.exists_of_text {a : AppRef} {mode : TargetMode} (found : search = .ok (some loaded)) 
    (sound : loaded.config.Valid) (hm : mode ≠ .free) (hp : Segment.valid a.project) 
    (ha : Segment.valid a.app) (policy : ConfigPolicy) (flags : TargetFlags) (rest : List String) : 
    ∃ r, (resolve mode policy flags search (a.text :: rest)).result = .ok r ∧ 
      r.target = .app a ∧ r.explicit ∧ r.args = rest := by
  have names : Names mode (a.text :: rest) := .app hm hp ha
  have named : Named mode (a.text :: rest) (.app a) := .of_text hm hp ha
  cases h : (resolve mode policy flags search (a.text :: rest)).result
  case ok r    => exact ⟨r, rfl, resolve_of_named named h⟩ 
  case error e =>
    have valid : ∀ other, search = .ok (some other) → other.config.Valid := by
      intro other ho
      cases found ▸ ho
      exact sound
    cases unresolved_of_error valid h
    case config hb             => cases found ▸ hb
    case noConfig hn _         => cases found ▸ hn
    case noApps hl _ _ _       => exact absurd names hl.unnamed
    case ambiguousApp hl _ _ _ => exact absurd names hl.unnamed

namespace Plan

variable {q : Plan} {w : WorkspaceRef} {p : ProjectRef}

theorem addressable_of_nil (h : q.tasks = []) : q.Addressable search := by
  constructor <;> simp [h]

theorem Covers.words (h : q.Covers w p loaded.config.apps) (hp : p.name = loaded.config.project) 
    (sound : loaded.config.Valid) : 
    ∀ t ∈ q.tasks, Segment.valid t.app.project ∧ Segment.valid t.app.app := by
  intro t ht
  have hn : t.app.app ∈ loaded.config.apps := h.names ▸ List.mem_map_of_mem ht
  exact ⟨(h.inside t ht).left ▸ hp ▸ sound.project, sound.apps _ hn⟩ 

-- An app is planned once because its name is declared once.
theorem Covers.addressable (h : q.Covers w p loaded.config.apps) (hp : p.name = loaded.config.project) 
    (found : search = .ok (some loaded)) (sound : loaded.config.Valid) : q.Addressable search := by
  have words := h.words hp sound
  have names : (q.tasks.map (·.app.app)).Nodup := h.names ▸ sound.distinct
  have same {t u : AppHandle} (ht : t ∈ q.tasks) (hu : u ∈ q.tasks) (he : t.app = u.app) : t = u := 
    List.inj_on_of_nodup_map names ht hu (congrArg (·.app) he)
  refine ⟨?apps, ?texts, ?reached⟩ 
  case apps    => exact names.of_map.map_on fun t ht u hu he => same ht hu he
  case texts   =>
    refine names.of_map.map_on fun t ht u hu he => same ht hu ?_
    have ⟨hp, ha⟩ := words t ht
    have ⟨hp', ha'⟩ := words u hu
    exact AppRef.text_injective hp ha hp' ha' he
  case reached =>
    intro t ht mode policy flags rest hm
    have ⟨hp, ha⟩ := words t ht
    exact Target.exists_of_text found sound hm hp ha policy flags rest

end Plan

namespace CommandContext

section

variable {inv : Invocation} {demands : Demands} {env : Collaborators} {c : CommandContext}

-- A valid configuration is all there is to go by: no argument and no flag says what to work on.
variable (found : env.config = .ok (some loaded)) (sound : loaded.config.Valid)
variable (unnamed : ∀ t, ¬Target.Named demands.target inv.args t)
variable (noProject : inv.flags.project.all Text.isBlank) (noApp : inv.flags.app.all Text.isBlank)
variable (h : (init inv demands env).result = .ok c) 
include found sound unnamed noProject noApp h

-- Such a command operates on all that is declared, or on nothing if it does not look for that.
theorem exists_chosen_declared (server : Option Server) (runner : Option String) : 
    ∃ chosen, Dispatcher.Chosen ⟨c, server, runner⟩ [] chosen ∧ 
      (c.config = none ∧ chosen = [] ∨ ∃ p : ProjectRef, p.name = loaded.config.project ∧ 
        Dispatcher.AppsOf p loaded.config.apps chosen) := by
  have hf : c.flagProject = none := flagProject_eq_none h noProject
  have ha : c.flagApp = none := by rw [flagApp_eq h, Text.verbatim?_eq_none_iff, noApp]
  obtain ⟨w, r, v, hr, rfl⟩ := exists_resolution_of_init h
  cases Target.found_of_resolve hr
  case named hp _               => exact absurd (Target.named_of_positional? hp) (unnamed _)
  case nothing                  => exact ⟨[], .nothing rfl ha rfl (.inl rfl), .inl ⟨rfl, rfl⟩⟩ 
  case implied p _ _ hs hp hi =>
    cases found ▸ hs
    rw [Target.configured_eq_ok_iff, Text.given?_eq_none_iff.mpr noProject, Option.getD_none] at hp
    by_cases hm : demands.target = .appRequired
    case pos =>
      obtain ⟨a, rfl, inside, flag | ⟨_, only⟩⟩ := Target.implied_appRequired_eq_ok (hm ▸ hi)
      case inl => cases Text.given?_eq_none_iff.mpr noApp ▸ flag
      case inr => exact ⟨[a], .target rfl, .inr ⟨p, hp, only.symm, List.forall_mem_singleton.mpr inside⟩⟩ 
    case neg =>
      cases Target.implied_of_not_appRequired hm ▸ hi
      have nonblank : ∀ name ∈ loaded.config.apps, Text.isBlank name = false := 
        fun name hn => Segment.not_isBlank_of_valid (sound.apps name hn)
      have ⟨apps, declared⟩ := Dispatcher.AppsOf.exists_of_nonblank p nonblank
      have project := Dispatcher.project?_of_noFlagProject (d := ⟨_, server, runner⟩) hf
      exact ⟨apps, .configured rfl ha rfl rfl project declared, .inr ⟨p, hp, declared⟩⟩ 

theorem exists_addressable (server : Option Server) (runner : Option String) : 
    ∃ q, (Dispatcher.plan ⟨c, server, runner⟩).result = .ok q ∧ q.Addressable env.config ∧ 
      (c.config = none ∨ ∃ p : ProjectRef, p.name = loaded.config.project ∧ 
        q.Covers c.workspace p loaded.config.apps) := by
  have ⟨chosen, hc, declared⟩ := 
    exists_chosen_declared found sound unnamed noProject noApp h server runner
  refine ⟨_, by rw [Dispatcher.plan_of_chosen (flagProject_eq_none h noProject) hc, Traced.result_pure], ?_⟩ 
  obtain ⟨hn, rfl⟩ | ⟨p, hp, declared⟩ := declared
  case inl => exact ⟨Plan.addressable_of_nil rfl, .inl hn⟩ 
  case inr => exact ⟨(declared.covers _ _ _).addressable hp found sound, .inr ⟨p, hp, declared.covers _ _ _⟩⟩ 

end

-- The texts of targets mean what they say in one way only, and all that is planned without a word about the 
-- target, which is all that is declared, can be asked for again app by app.
theorem planned_addressable : 
    (∀ s t, TargetText.read s = t ↔ TargetText.Written s t) ∧ 
    (∀ s p a p' a', TargetText.Written s (.app p a) → TargetText.Written s (.app p' a') → p = p' ∧ a = a') ∧ 
    ∀ inv demands env c loaded, loaded.config.validate = .ok () → env.config = .ok (some loaded) → 
      (∀ t, ¬Target.Named demands.target inv.args t) → 
      inv.flags.project.all Text.isBlank → inv.flags.app.all Text.isBlank → 
      (init inv demands env).result = .ok c → 
      ∀ server runner, ∃ q, (Dispatcher.plan ⟨c, server, runner⟩).result = .ok q ∧ q.Addressable env.config ∧ 
        (c.config = none ∨ ∃ p : ProjectRef, p.name = loaded.config.project ∧ 
          q.Covers c.workspace p loaded.config.apps) := by
  refine ⟨fun _ _ => TargetText.read_eq_iff, fun _ _ _ _ _ => TargetText.Written.app_unique, ?_⟩ 
  intro inv demands env c loaded sound found unnamed noProject noApp h server runner
  exact exists_addressable found (ProjectConfig.validate_eq_ok_iff.mp sound) unnamed noProject noApp h _ _

-- The first argument is blank and names nothing, and so do the flags. One of the texts that the plan leads to
-- is then given to a command whose flags would lead elsewhere on their own. With a line break behind it a text 
-- is none of them.
theorem planned_addressable_shop :
    let inv : Invocation := { flags := { project := some " ", app := some "\t" }, args := [" ", "now"] }
    let file : LoadedConfig := ⟨⟨"/shop/deployctl.toml"⟩, ⟨"shop", none, ["web-1_a", "worker"]⟩⟩ 
    let env : Collaborators := ⟨⟨[], []⟩, .ok (some file), ⟨.ok none, fun _ => .ok {}⟩, none⟩ 
    let c := assemble inv .default ⟨.project ⟨"shop", by decide⟩, false, [" ", "now"], some file⟩ .empty
    let worker : AppRef := ⟨"shop", "worker", by decide, by decide⟩ 
    TargetText.Written "shop/web-1_a\n" .other ∧ 
    (init inv ⟨.appOptional, .load, false⟩ env).result = .ok c ∧ 
    ∃ q, (Dispatcher.plan ⟨c, none, some "r1"⟩).result = .ok q ∧ q.Addressable env.config ∧ 
      q.tasks.map (·.app.text) = ["shop/web-1_a", "shop/worker"] ∧ 
      ∃ r, (Target.resolve .appRequired .load ⟨some "billing", some "web-1_a"⟩ env.config 
        ["shop/worker", "now"]).result = .ok r ∧ r.target = .app worker ∧ r.explicit ∧ r.args = ["now"] := by
  intro inv file env c worker
  have hc : (init inv ⟨.appOptional, .load, false⟩ env).result = .ok c := by
    refine init_eq_ok_iff.mpr <| .intro ?_ ?_ ?_ ?_ ?_ ?_
    all_goals decide +kernel
  have unnamed : ∀ t, ¬Target.Named .appOptional [" ", "now"] t := 
    Target.positional?_eq_none_iff.mp (by decide +kernel)
  have ⟨q, hq, addressable, _⟩ := planned_addressable.right.right inv ⟨.appOptional, .load, false⟩ env c file 
    (by decide) rfl unnamed (by decide) (by decide) hc none (some "r1")
  let tasks : List AppHandle := 
    [⟨⟨"shop", "web-1_a", by decide, by decide⟩, .default⟩, ⟨worker, .default⟩] 
  have hq' : (Dispatcher.plan ⟨c, none, some "r1"⟩).result = .ok ⟨.here, tasks, some "r1"⟩ := by 
    decide +kernel
  cases hq.symm.trans hq'
  have ht : (⟨worker, .default⟩ : AppHandle) ∈ tasks := by decide
  have broken : TargetText.Written "shop/web-1_a\n" .other := (planned_addressable.left _ _).mp (by decide +kernel)
  exact ⟨broken, hc, _, hq, addressable, by decide, addressable.reached _ ht _ _ _ _ (by decide)⟩ 

end CommandContext
end Rollout
