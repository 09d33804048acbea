import Rollout.Dispatch
import Rollout.Proofs.Trace
namespace Rollout

variable {σ : Type} {op : Operation σ} {s : σ}

-- An operation that keeps a record of the apps it is applied to, besides what it does anyway.
def Operation.logged (op : Operation σ) : Operation (List AppHandle × σ) := fun o h (log, s) =>
  let (reply, s) := op o h s
  (reply, log ++ [h], s)

-- A run next to which a record has been kept.
def Run.withLog (log : List AppHandle) (r : Run σ) : Run (List AppHandle × σ) where
  outcome  := r.outcome
  canceled := r.canceled
  state    := (log, r.state)

namespace Plan

variable {p : Plan} {w : WorkspaceRef}

-- The record changes nothing about a run. It grows by the apps at the front, each of them once.
theorem executeFrom_logged (tasks : List AppHandle) (a : Aggregate) (canceled : Bool) 
    (log : List AppHandle) (s : σ) : 
    ∃ done, done <+: tasks ∧ 
      p.executeFrom w op.logged tasks a canceled (log, s) = 
        (p.executeFrom w op tasks a canceled s).withLog (log ++ done) := by
  induction tasks generalizing a canceled log s
  case nil => exact ⟨[], List.prefix_rfl, by simp [executeFrom, Run.withLog]⟩
  case cons h rest hi =>
    cases canceled
    case true  => exact ⟨[], List.nil_prefix, by simp [executeFrom, Run.withLog]⟩
    case false =>
      let called := op ⟨false, p.mode, w, p.runner⟩ h s
      have ⟨done, hd, hr⟩ := hi (a.record (.ofResult called.1.result)) called.1.cancels 
        (log ++ [h]) called.2
      refine ⟨h :: done, (List.prefix_cons_inj h).mpr hd, ?_⟩
      simpa [executeFrom, Operation.logged, called] using hr

theorem execute_logged (p : Plan) (w : WorkspaceRef) (op : Operation σ) (canceled : Bool) (s : σ) : 
    ∃ done, done <+: p.tasks ∧ 
      p.execute w op.logged canceled ([], s) = (p.execute w op canceled s).withLog done :=
  executeFrom_logged p.tasks {} canceled [] s

end Plan

namespace Dispatcher

variable {d : Dispatcher} {p : Plan} {a : AppRef} {canceled : Bool}

-- The apps that an operation is applied to, in order.
def calls (d : Dispatcher) (op : Operation σ) (canceled : Bool) (s : σ) : List AppHandle :=
  (d.dispatch op.logged canceled ([], s)).state.1

theorem dispatch_of_ok (h : d.plan.result = .ok p) : 
    d.dispatch op canceled s = p.execute d.context.workspace op canceled s := by
  simp [dispatch, h]

theorem dispatch_of_error (h : d.plan.result = .error e) : 
    d.dispatch op canceled s = ⟨.reduce [.ofResult (.error e)], canceled, s⟩ := by
  simp [dispatch, h]

theorem calls_of_error (h : d.plan.result = .error e) : d.calls op canceled s = [] := by
  simp [calls, dispatch_of_error h]

theorem calls_prefix_tasks (h : d.plan.result = .ok p) : d.calls op canceled s <+: p.tasks := by
  have ⟨done, hd, he⟩ := p.execute_logged d.context.workspace op canceled s
  rwa [calls, dispatch_of_ok h, he]

-- A run that has not been canceled reaches its first app.
theorem calls_of_tasks_eq_singleton (h : d.plan.result = .ok p) (ht : p.tasks = [t]) : 
    d.calls op false s = [t] := by
  simp [calls, dispatch_of_ok h, Plan.execute, ht, Plan.executeFrom, Operation.logged]

theorem plan_eq_ok_iff : 
    d.plan.result = .ok p ↔ ∃ mode apps chosen, 
      d.listed.result = .ok (mode, apps) ∧ (d.choose apps).result = .ok chosen ∧ 
        p = ⟨mode, chosen.map (⟨·, d.context.workspace⟩), if mode = .here then d.runner else none⟩ := by
  unfold plan
  simp only [Traced.result_bind_eq_ok_iff, Prod.exists, Traced.result_pure, Except.ok.injEq]
  constructor
  case mp  =>
    rintro ⟨mode, apps, hl, chosen, hc, rfl⟩
    exact ⟨mode, apps, chosen, hl, hc, rfl⟩
  case mpr =>
    rintro ⟨mode, apps, chosen, hl, hc, rfl⟩
    exact ⟨mode, apps, hl, chosen, hc, rfl⟩

theorem choose_of_app? (h : d.context.target.app? = some a) (listed : List AppRef) : 
    d.choose listed = pure [a] := by
  simp [choose, h]

-- An app that a command targets is all that is planned for, whatever the lists say.
theorem tasks_of_app? (ha : d.context.target.app? = some a) (h : d.plan.result = .ok p) : 
    p.tasks = [⟨a, d.context.workspace⟩] := by
  have ⟨_, apps, chosen, _, hc, hp⟩ := plan_eq_ok_iff.mp h
  rw [choose_of_app? ha, Traced.result_pure, Except.ok.injEq] at hc
  rw [hp, ← hc, List.map_singleton]

end Dispatcher
end Rollout
