import Rollout.Proofs.CommandContext.Remote
import Rollout.Proofs.Dispatch.Candidates
import Rollout.Proofs.Program.Preparation
import Rollout.Proofs.Program.Report
import Rollout.Proofs.ProjectConfig
import Rollout.Proofs.Text.Blank
namespace Rollout

-- Where operations run makes no difference to the apps that they are applied to.
namespace Dispatcher

variable {c : CommandContext} {server : Option Server} {runner : Option String}

theorem forget_plan_withRemote (b : Bool) : 
    (plan ⟨c.withRemote b, server, runner⟩).forget = (plan ⟨c, server, runner⟩).forget := by
  simp only [plan, Traced.forget_bind, Traced.forget_pure]
  cases hf : c.flagProject
  case none   => rw [listed_of_noFlagProject hf, listed_of_noFlagProject (by exact hf)]; rfl
  case some p => rw [listed_of_flagProject hf, listed_of_flagProject (by exact hf)]; rfl

end Dispatcher

namespace CommandContext

open Dispatcher (AppsOf Chosen)

variable {inv : Invocation} {demands : Demands} {env : Collaborators} {c : CommandContext}
variable {loaded : LoadedConfig}

-- The app that a flag names. Where an app is needed, the blanks around its name are dropped.
def flagged? (mode : TargetMode) (app : Option String) : Option String :=
  if mode = .appRequired then Text.given? app else Text.verbatim? app

-- The apps of the project nearby that are operated on: the one that a flag names, or all of them.
def selected (mode : TargetMode) (app : Option String) (c : ProjectConfig) : List String :=
  (flagged? mode app).elim c.apps ([·])

-- If neither an argument nor a flag names a project, the one nearby is operated on.
theorem exists_chosen (h : (init inv demands env).result = .ok c) 
    (hn : ∀ t, ¬Target.Named demands.target inv.args t) (hp : inv.flags.project.all Text.isBlank) 
    (hd : demands.config ≠ .skip) (hs : env.config = .ok (some loaded)) (hv : loaded.config.Valid) 
    (server : Option Server) (runner : Option String) : 
    c.flagProject = none ∧ ∃ p apps, p.name = loaded.config.project ∧ 
      AppsOf p (selected demands.target inv.flags.app loaded.config) apps ∧ 
      Chosen ⟨c, server, runner⟩ [] apps := by
  have noFlag := flagProject_eq_none h hp
  refine ⟨noFlag, ?_⟩
  obtain ⟨w, r, v, hr, rfl⟩ := exists_resolution_of_init h
  cases Target.found_of_resolve hr
  case named hp _             => exact absurd (Target.named_of_positional? hp) (hn _)
  case nothing _ _ ha         => cases (ha (by simp [Target.needsConfig, hd])).symm.trans hs
  case implied p t _ ha hc hi =>
    cases ha.symm.trans hs
    refine ⟨p, ?_⟩
    rw [Target.configured_eq_ok_iff, Text.given?_eq_none_iff.mpr hp, Option.getD_none] at hc
    by_cases hm : demands.target = .appRequired
    case pos =>
      obtain ⟨a, rfl, ha, hf⟩ := Target.implied_appRequired_eq_ok (hm ▸ hi)
      refine ⟨[a], hc, ⟨?_, List.forall_mem_singleton.mpr ha⟩, .target rfl⟩
      obtain hf | ⟨hf, hd⟩ := hf <;> simp_all [selected, flagged?]
    case neg =>
      cases (Target.implied_of_not_appRequired hm).symm.trans hi
      have nonblank : ∀ name ∈ (Text.verbatim? inv.flags.app).elim loaded.config.apps ([·]), 
          Text.isBlank name = false := by
        cases hf : Text.verbatim? inv.flags.app
        case none      => exact fun name hm => Segment.not_isBlank_of_valid (hv.apps name hm)
        case some name => simpa using (Text.verbatim?_eq_some_iff.mp hf).right
      let c := assemble inv w ⟨.project p, false, inv.args, some loaded⟩ v
      obtain ⟨apps, names, chosen⟩ := Dispatcher.exists_chosen_of_project 
        (d := ⟨c, server, runner⟩) noFlag rfl rfl nonblank
      refine ⟨apps, hc, ?_, chosen⟩
      rwa [selected, flagged?, if_neg hm]

end CommandContext

namespace Command

variable {d d' : Dispatcher}

theorem result_runInspect_congr (h : d.plan.forget = d'.plan.forget) : 
    (runInspect d).result = (runInspect d').result := by
  have result (d : Dispatcher) : 
      (runInspect d).result = d.plan.forget.result.mapError .ofOperation := by
    simp only [runInspect, Traced.bind_eq, Traced.bind, Traced.result_mapError, Traced.result_forget]
    cases d.plan.result <;> rfl
  rw [result, result, h]

theorem result_printContext_congr {isText : Path → Bool} {c c' : CommandContext} (json : Bool) 
    (h : paths c = paths c') : (printContext isText c json).result = (printContext isText c' json).result := by
  simp only [printContext, h]
  split
  case isTrue  => split <;> rfl
  case isFalse => rfl

theorem result_runTargets_congr (h : d.plan.forget = d'.plan.forget) : 
    (runTargets d).result = (runTargets d').result := by
  have same := congrArg Traced.result h
  cases hd : d.plan.result <;> cases hd' : d'.plan.result <;> simp only [Traced.result_forget, hd, hd'] at same
  case error.error => 
    cases same
    simp only [runTargets, Dispatcher.dispatch_of_error hd, Dispatcher.dispatch_of_error hd']
  case ok.ok       => rw [runTargets_of_ok hd, runTargets_of_ok hd']
  all_goals contradiction

end Command

namespace CommandLine

variable {line : CommandLine} {w : World} {s : Setting} {c : CommandContext} 
variable {loaded : LoadedConfig} {e : InitError}

-- The same command line, with or without a demand for remote operations.
def withRemote (line : CommandLine) (b : Bool) : CommandLine :=
  { line with flags := { line.flags with remote := b } }

theorem target_demands (c : Command) : 
    c.demands.target = .appOptional ∨ c.demands.target = .appRequired := by
  cases c <;> decide

theorem config_demands (c : Command) : c.demands.config ≠ .skip := by
  cases c <;> decide

theorem result_perform_withRemote (b : Bool) : 
    ((line.withRemote b).perform w s (c.withRemote b)).result = (line.perform w s c).result := by
  obtain ⟨command, flags, args⟩ := line
  cases command
  case context => exact Command.result_printContext_congr _ rfl
  case inspect => exact Command.result_runInspect_congr (Dispatcher.forget_plan_withRemote b)
  case targets => exact Command.result_runTargets_congr (Dispatcher.forget_plan_withRemote b)

-- No run fails, or succeeds, for a demand for remote operations.
theorem result_run_withRemote (line : CommandLine) (w : World) (b : Bool) : 
    ((line.withRemote b).run w).result = (line.run w).result := by
  cases h : FlagOrder.check line.args (recognized line.command)
  case error m => rw [run_of_misplaced h, run_of_misplaced (by exact h)]
  case ok      =>
    rw [run_eq h, run_eq (by exact h)]
    refine Traced.result_bind_congr fun s _ => ?_
    have prepared : (line.withRemote b).preparation w s = (·.withRemote b) <$> line.preparation w s :=
      CommandContext.init_withRemote (line.invocation w s) (target_demands line.command) b
    rw [prepared, Traced.mapError_map, bind_map_left]
    exact Traced.result_bind_congr fun c _ => result_perform_withRemote b

theorem run_ne_remoteUnsupported (line : CommandLine) (w : World) : 
    (line.run w).result ≠ .error (.init .remoteUnsupported) := by
  intro h
  obtain ⟨_, _, h⟩ | ⟨_, s, _, h⟩ := run_eq_init_iff.mp h
  case inl => cases h
  case inr =>
    have ⟨_, r, hr, hu⟩ := CommandContext.init_eq_remoteUnsupported_iff.mp h
    have ht := hu.target hr
    obtain hd | hd := target_demands line.command <;> simp [hd] at ht

-- What a command shows for an app that runs remotely.
def remoteLine (line : CommandLine) (ws : WorkspaceRef) (a : AppRef) : String :=
  match line.command with
  | .inspect => a.text ++ " (remote runner)"
  | _        => a.text ++ " (workspace: " ++ ws.name ++ ", remote runner)"

theorem perform_of_chosen (hc : line.command ≠ .context) (hr : c.remote) (hf : c.flagProject = none) 
    (h : Dispatcher.Chosen (dispatcher w s c) [] apps) : 
    line.perform w s c = ⟨apps.map fun a => .output (line.remoteLine c.workspace a), .ok ()⟩ := by
  have mode : Dispatcher.ownMode (dispatcher w s c).context = .remote := by 
    simp [Dispatcher.ownMode, dispatcher, hr]
  have plan := Dispatcher.plan_of_chosen hf h
  rw [mode] at plan
  have result := congrArg Traced.result plan
  obtain ⟨command, flags, args⟩ := line
  cases command
  case context => contradiction
  case inspect =>
    simp only [perform, Command.runInspect_of_ok result, plan, Traced.events_pure]
    simp [remoteLine, Command.inspectLine, RunnerMode.text, String.append_assoc]
  case targets => 
    simp only [perform, Command.runTargets_of_ok result, plan, Traced.events_pure]
    simp [dispatcher, remoteLine, Command.targetLine, RunnerMode.text, String.append_assoc]

-- How a run ends that is told to work remotely on the project nearby: it shows apps of the project, unless
-- it stops before any app is considered, since nothing can be made of the command line.
inductive WorksRemotely (line : CommandLine) (w : World) (loaded : LoadedConfig) : Prop
  | shows {asked : List Event} {p : ProjectRef} {apps : List AppRef} {ws : WorkspaceRef} 
    (quiet : ∀ ev ∈ asked, ∃ s, CommandContext.Stage.ofEvent? ev = some s) 
    (project : p.name = loaded.config.project) 
    (chosen : Dispatcher.AppsOf p 
      (CommandContext.selected line.command.demands.target line.flags.app loaded.config) apps) 
    (shown : report (line.run w) = (asked ++ apps.map fun a => .output (line.remoteLine ws a), 0))
  | stops {e : RunError} (unprepared : Unprepared line w)
    (quiet : ∀ ev ∈ (line.run w).events, ∃ s, CommandContext.Stage.ofEvent? ev = some s) 
    (result : (line.run w).result = .error e) (other : e ≠ .init .remoteUnsupported)

-- A command that is about the project nearby works remotely whenever it is told to. Its configuration 
-- may or may not enable remote operations; nothing of what is shown depends on that.
theorem works_remotely (hc : line.command ≠ .context) (hr : line.flags.remote) 
    (hp : line.flags.project.all Text.isBlank) 
    (hn : ∀ t, ¬Target.Named line.command.demands.target line.args t) 
    (hd : w.workingDir = .ok dir) (hs : LoadedConfig.search w.files dir = .ok (some loaded)) : 
    WorksRemotely line w loaded ∧ (line.run w).result = ((line.withRemote false).run w).result := by
  refine ⟨?_, (result_run_withRemote line w false).symm⟩ 
  cases course line w
  case stopped unprepared quiet run =>
    refine .stops unprepared ?_ (congrArg Traced.result run) fun he => ?_
    · rwa [run]
    · exact run_ne_remoteUnsupported line w (he ▸ congrArg Traced.result run)
  case performed s c quiet settled hi run =>
    have valid := LoadedConfig.valid_of_search hs
    have nearby : (surroundings w s).config = .ok (some loaded) := by
      cases hd.symm.trans (settle_eq_ok_iff.mp settled).located
      exact hs
    have ⟨noFlag, p, apps, project, names, chosen⟩ := CommandContext.exists_chosen hi hn hp 
      (config_demands line.command) nearby valid (s.url.map w.serverLater) none
    have remote : c.remote := CommandContext.remote_eq hi ▸ hr
    rw [perform_of_chosen hc remote noFlag chosen] at run
    exact .shows quiet project names (by rw [report, run])

-- A project that remote operations are not enabled for.
def disabledShop : World where
  files       := { nodes := [(["deployctl.toml"], .file <| .text 
    "project = \"shop\"\n\n[runner]\nenabled = false\n\n[[app]]\nname = \"web\"\n")] }
  environment := ⟨[]⟩ 
  workingDir  := .ok ⟨"/"⟩ 
  serverAt    := Server.unusable

theorem works_remotely_shop : 
    let line : CommandLine := ⟨.targets, { remote := true }, []⟩ 
    WorksRemotely line disabledShop ⟨⟨"/deployctl.toml"⟩, "shop", some false, ["web"]⟩ ∧ 
      (line.run disabledShop).result = ((line.withRemote false).run disabledShop).result := 
  works_remotely (by decide) rfl rfl (Target.positional?_eq_none_iff.mp rfl) rfl (by decide +kernel)

theorem shown_though_disabled : 
    let loaded : LoadedConfig := ⟨⟨"/deployctl.toml"⟩, "shop", some false, ["web"]⟩ 
    read ["inspect", "--remote"] = .ok ⟨.inspect, { remote := true }, []⟩ ∧ 
      LoadedConfig.search disabledShop.files ⟨"/"⟩ = .ok (some loaded) ∧ 
      loaded.config.runnerEnabled = false ∧ 
      Program.run ["inspect", "--remote"] disabledShop = ⟨0, "==> shop/web (remote runner)\n", ""⟩ := by
  decide +kernel

end CommandLine
end Rollout
