import Rollout.Proofs.CommandContext.Prepared
import Rollout.Proofs.Dispatch
import Rollout.Proofs.Target
namespace Rollout.CommandContext

-- A command that is all about one app. No list of apps and no flag leads it to another one.
structure Pinned (a : AppRef) (rest : List String) (c : CommandContext) : Prop where
  project  : c.target.project? = some a.projectRef
  app      : c.target.app? = some a
  explicit : c.explicit
  args     : c.args = rest
  tasks    : ∀ server runner p, (Dispatcher.plan ⟨c, server, runner⟩).result = .ok p → 
    p.tasks = [⟨a, c.workspace⟩]
  -- The operation is called at most once.
  calls    : ∀ server runner (σ : Type) (op : Operation σ) canceled s,
    Dispatcher.calls ⟨c, server, runner⟩ op canceled s <+: [⟨a, c.workspace⟩]

-- Two commands that plan for the same apps, and apply their operations to the same apps unless they 
-- are canceled, whatever servers and runners they use.
def SameApps (c c' : CommandContext) : Prop :=
  ∀ server server' runner runner' p p', 
    (Dispatcher.plan ⟨c, server, runner⟩).result = .ok p → 
    (Dispatcher.plan ⟨c', server', runner'⟩).result = .ok p' → 
    p.tasks.map (·.app) = p'.tasks.map (·.app) ∧ 
    ∀ (σ σ' : Type) (op : Operation σ) (op' : Operation σ') s s',
      (Dispatcher.calls ⟨c, server, runner⟩ op false s).map (·.app) = 
        (Dispatcher.calls ⟨c', server', runner'⟩ op' false s').map (·.app)

variable {inv inv' : Invocation} {demands demands' : Demands} {env env' : Collaborators}
variable {c c' : CommandContext} {a : AppRef} {rest rest' : List String}

theorem Pinned.of_target (ht : c.target = .app a) (he : c.explicit) (hr : c.args = rest) : 
    Pinned a rest c where
  project       := by rw [ht, Target.project?]
  app           := by rw [ht, Target.app?]
  explicit      := he
  args          := hr
  tasks _ _ _ h := Dispatcher.tasks_of_app? (by rw [ht, Target.app?]) h
  calls server runner _ op canceled s := by
    let d : Dispatcher := ⟨c, server, runner⟩
    cases h : d.plan.result
    case error => rw [Dispatcher.calls_of_error h]; exact List.nil_prefix
    case ok p  =>
      rw [← Dispatcher.tasks_of_app? (d := d) (by rw [ht, Target.app?]) h]
      exact Dispatcher.calls_prefix_tasks h

theorem Pinned.sameApps (p : Pinned a rest c) (p' : Pinned a rest' c') : SameApps c c' := by
  intro server server' runner runner' q q' hq hq'
  have ht  := p.tasks server runner q hq
  have ht' := p'.tasks server' runner' q' hq'
  refine ⟨by rw [ht, ht']; rfl, fun _ _ _ _ _ _ => ?_⟩
  rw [Dispatcher.calls_of_tasks_eq_singleton hq ht, Dispatcher.calls_of_tasks_eq_singleton hq' ht']
  rfl

theorem pinned_of_init (hp : Segment.valid a.project) (hn : Segment.valid a.app) 
    (hm : demands.target ≠ .free) (ha : inv.args = a.text :: rest)
    (h : (init inv demands env).result = .ok c) : Pinned a rest c := by
  cases init_eq_ok_iff.mp h
  case intro hr _ _ _ =>
    have named : Target.Named demands.target (a.text :: rest) (.app a) := .of_text hm hp hn
    have ⟨ht, he, hr⟩ := Target.resolve_of_named (ha ▸ named) hr
    exact .of_target ht he (by rw [assemble, hr, ha, List.tail_cons])

-- An app that the first argument names is the only one that anything is done to. Whatever else two 
-- runs differ in, if they name the same app, they are about the same apps.
theorem explicit_app_alone {p n : String} (hp : Segment.valid p) (hn : Segment.valid n) 
    (hm : demands.target ≠ .free) (ha : inv.args = (p ++ "/" ++ n) :: rest)
    (h : (init inv demands env).result = .ok c) :
    ∃ a : AppRef, (a.project = p ∧ a.app = n) ∧ Pinned a rest c ∧ 
      ∀ inv' demands' env' c', demands'.target ≠ .free → inv'.args.head? = inv.args.head? → 
        (init inv' demands' env').result = .ok c' → SameApps c c' := by
  have ⟨a, hap, han⟩ := AppRef.exists_of_valid hp hn
  subst hap han
  have pinned := pinned_of_init hp hn hm ha h
  refine ⟨a, ⟨rfl, rfl⟩, pinned, fun inv' _ _ _ hm' ha' h' => ?_⟩
  rw [ha, List.head?_cons, List.head?_eq_some_iff] at ha'
  have ⟨_, ha'⟩ := ha'
  exact pinned.sameApps <| pinned_of_init hp hn hm' ha' h'

-- The flags, the configuration and the server all speak for other apps here.
theorem explicit_app_alone_flags :
    let inv : Invocation := 
      { flags := { project := some "billing", app := some "ledger" }, args := ["shop/web", "now"] }
    let file : LoadedConfig := ⟨⟨"/billing/deployctl.toml"⟩, ⟨"billing", none, ["ledger", "api"]⟩⟩
    let server : Server := 
      { project := fun p => .ok ⟨p.name, ["ledger", "invoices"], true, none, none⟩, profiles := .ok [] }
    let env : Collaborators := 
      ⟨⟨[], []⟩, .ok (some file), ⟨.ok none, fun _ => .ok {}⟩, some server⟩ 
    let app : AppRef := ⟨"shop", "web", by decide, by decide⟩ 
    let c := assemble inv .default ⟨.app app, true, ["now"], some file⟩ .empty
    (init inv ⟨.appOptional, .load, false⟩ env).result = .ok c ∧ 
    (Dispatcher.plan ⟨c, some server, none⟩).result = .ok ⟨.here, [⟨app, .default⟩], none⟩ ∧ 
    ∃ a : AppRef, (a.project = "shop" ∧ a.app = "web") ∧ Pinned a ["now"] c := by
  intro inv file server env app c
  have hc : (init inv ⟨.appOptional, .load, false⟩ env).result = .ok c := by
    refine init_eq_ok_iff.mpr <| .intro ?_ ?_ ?_ ?_ ?_ ?_
    all_goals decide +kernel
  have ⟨a, ha, pinned, _⟩ := 
    explicit_app_alone (p := "shop") (n := "web") (by decide) (by decide) (by decide) rfl hc
  exact ⟨hc, by decide +kernel, a, ha, pinned⟩

end Rollout.CommandContext
