import Rollout.Proofs.Dispatch.Cancellation
namespace Rollout

-- A list of outcomes that is recorded in chunks, and the order in which the chunks are merged.
inductive Merging
  | chunk (outcomes : List AppOutcome)
  | merge (left right : Merging)
  deriving Repr

namespace Merging

-- The chunks in order of the outcomes.
def chunks : Merging → List (List AppOutcome)
  | chunk outcomes   => [outcomes]
  | merge left right => left.chunks ++ right.chunks

-- Each chunk is recorded on its own.
def aggregate : Merging → Aggregate
  | chunk outcomes   => .ofList outcomes
  | merge left right => left.aggregate.merge right.aggregate

theorem aggregate_eq (m : Merging) : m.aggregate = .ofList m.chunks.flatten := by
  induction m
  case chunk           => simp [aggregate, chunks]
  case merge l r hl hr => rw [aggregate, hl, hr, ← Aggregate.ofList_append, chunks, List.flatten_append]

theorem finish_aggregate (m : Merging) : m.aggregate.finish = .reduce m.chunks.flatten := by
  rw [aggregate_eq, DispatchOutcome.reduce]

end Merging

namespace Plan

variable {σ : Type} {p : Plan} {w : WorkspaceRef} {op : Operation σ} {s : σ} {tasks : List AppHandle}
variable {f : AppHandle → Except OperationError Unit}

-- An operation whose results depend on nothing but the app, and which leaves the signal alone.
def Steady (op : Operation σ) (f : AppHandle → Except OperationError Unit) : Prop :=
  ∀ o h s, (op o h s).1 = ⟨f h, false⟩

theorem replies_of_steady (hf : Steady op f) : p.replies w op tasks s = tasks.map (⟨f ·, false⟩) := by
  induction tasks generalizing s
  case nil         => rfl
  case cons _ _ hi => simp [replies, call, hf _ _ _, hi]

theorem outcomes_of_steady (hf : Steady op f) : 
    p.outcomes w op tasks s = tasks.map fun h => .ofResult (f h) := by
  simp [outcomes, replies_of_steady hf]

theorem isSetAfter_of_steady (hf : Steady op f) : p.isSetAfter w op canceled tasks s = canceled := by
  simp [isSetAfter, replies_of_steady hf]

theorem cut_of_steady (hf : Steady op f) (hc : canceled = false ∨ p.tasks = []) : 
    p.cut w op canceled s = p.tasks.length := by
  refine Nat.le_antisymm cut_le (Nat.not_lt.mp fun h => ?_)
  have hs := set_of_cut_lt h
  rw [isSetAfter_of_steady hf] at hs
  cases hc
  case inl hc => simp [hc] at hs
  case inr hc => simp [hc] at h

theorem outcome_of_steady (hf : Steady op f) (hc : canceled = false ∨ p.tasks = []) : 
    (p.execute w op canceled s).outcome = .reduce (p.tasks.map fun h => .ofResult (f h)) := by
  simp [execute_eq, cut_of_steady hf hc, outcomes_of_steady hf]

end Plan

namespace Merging

-- Outcomes may be recorded in chunks of any size, and the chunks merged in any order that leaves 
-- them where they are. What comes of it is what comes of recording one outcome after the other, and 
-- so also what a run comes to if it is not canceled and the results depend on nothing but the apps.
theorem aggregate_of_flatten_chunks {outcomes : List AppOutcome} (m : Merging) 
    (hm : m.chunks.flatten = outcomes) : 
    m.aggregate = .ofList outcomes ∧ 
    m.aggregate.finish = (Aggregate.ofList outcomes).finish ∧ 
    m.aggregate.finish = .reduce outcomes ∧ 
    ∀ {σ : Type} (p : Plan) (w : WorkspaceRef) (op : Operation σ) (canceled : Bool) (s : σ) 
      (f : AppHandle → Except OperationError Unit), Plan.Steady op f → 
        (canceled = false ∨ p.tasks = []) → (p.tasks.map fun h => .ofResult (f h)) = outcomes → 
          (p.execute w op canceled s).outcome = m.aggregate.finish := by
  have ha : m.aggregate = .ofList outcomes := hm ▸ m.aggregate_eq
  have hr : m.aggregate.finish = .reduce outcomes := hm ▸ m.finish_aggregate
  refine ⟨ha, congrArg _ ha, hr, ?_⟩
  intro σ p w op canceled s f hf hc ho
  rw [Plan.outcome_of_steady hf hc, hr, ho]

-- An operation that counts its calls. The first app fails, the second had been reported, and the 
-- last two chunks are merged first; one of them is empty.
theorem aggregate_of_flatten_chunks_three :
    let app (name : String) (h : Text.isBlank name = false) : AppHandle := 
      ⟨⟨"shop", name, by decide, h⟩, .default⟩
    let p : Plan := ⟨.here, [app "web" rfl, app "api" rfl, app "worker" rfl], none⟩
    let f : AppHandle → Except OperationError Unit := fun h =>
      if h.app.app = "web" then .error (.failed (.of (.other "A")))
      else if h.app.app = "api" then .error .alreadyReported
      else .ok ()
    let m := merge (chunk [.failed (.of (.other "A"))]) 
      (merge (chunk []) (chunk [.alreadyReported, .succeeded]))
    m.aggregate = ⟨[.of (.other "A")], true, 3⟩ ∧ 
    (p.execute .default (fun _ h calls => (⟨f h, false⟩, calls + 1)) false 0).outcome = 
      m.aggregate.finish := by
  intro app p f m
  have ⟨ha, _, _, he⟩ := aggregate_of_flatten_chunks m rfl
  exact ⟨ha, he p .default _ false 0 f (fun _ _ _ => rfl) (.inl rfl) (by decide)⟩

end Merging
end Rollout
