import Rollout.Proofs.CommandContext.Footprint
import Rollout.Proofs.Dispatch
import Rollout.Proofs.Trace.Account
namespace Rollout

open Event (errors)
open Traced (Accounted)

-- How many errors an operation leaves to be shown.
def OperationError.owed : OperationError → Nat
  | failed _        => 1
  | alreadyReported => 0

-- Nothing is shown by consulting somebody.
theorem CommandContext.Stage.errors_eq_zero {es : List Event} 
    (h : ∀ ev ∈ es, ∃ s, ofEvent? ev = some s) : errors es = 0 := by
  refine List.countP_eq_zero.mpr fun ev hm => ?_
  have ⟨s, hs⟩ := h ev hm
  cases ev <;> simp_all [ofEvent?, Event.isError]

theorem Routing.errors_decide (s : Server) (p : Project) : errors (decide s p).events = 0 :=
  CommandContext.Stage.errors_eq_zero fun ev hm => ⟨_, CommandContext.events_decide s p ev hm⟩

namespace Dispatcher

variable {d : Dispatcher} {α : Type}

theorem accounted_reject (message : String) : 
    Accounted OperationError.owed (reject message : Traced OperationError α) where
  ok _ h    := nomatch h
  error _ h := by cases h; rfl

theorem accounted_report {x : Traced Failure α} (h : errors x.events = 0) : 
    Accounted OperationError.owed (report x) := by
  unfold report
  split
  case h_1 => exact ⟨fun _ _ => h, nofun⟩
  case h_2 =>
    refine ⟨nofun, ?_⟩
    rintro _ ⟨⟩
    simp [h, Event.isError, OperationError.owed]

theorem accounted_survey (server : Option Server) (p : ProjectRef) : 
    Accounted OperationError.owed (survey server p) := by
  cases server
  case none   => exact accounted_reject _
  case some s =>
    refine .bind (accounted_report rfl) fun project _ => ?_
    refine .bind (accounted_report (Routing.errors_decide s project)) fun routing _ => ?_
    refine .bind ⟨fun _ _ => rfl, nofun⟩ fun _ _ => ?_
    exact .bind (accounted_report rfl) fun _ _ => .pure _

theorem accounted_listed : Accounted OperationError.owed d.listed := by
  unfold listed
  split
  case h_1 => exact .pure _
  case h_2 => exact accounted_survey _ _

theorem accounted_choose (listed : List AppRef) : 
    Accounted OperationError.owed (d.choose listed) := by
  unfold choose
  split
  case h_1 => exact .pure _
  case h_2 =>
    split
    case h_1 => exact accounted_reject _
    case h_2 => exact accounted_report rfl
  case h_3 =>
    split
    case h_1 => exact accounted_report rfl
    case h_2 => exact .pure _

theorem accounted_plan : Accounted OperationError.owed d.plan :=
  .bind accounted_listed fun _ _ => .bind (accounted_choose _) fun _ _ => .pure _

end Dispatcher
end Rollout
