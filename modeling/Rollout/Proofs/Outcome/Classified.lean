import Mathlib.Data.List.Perm.Basic
import Rollout.Proofs.Outcome
namespace Rollout

namespace AppOutcome

-- Whether an outcome is a failure that the user has not seen yet.
def isFailed : AppOutcome → Bool
  | failed _ => true
  | _        => false

theorem isFailed_iff {o : AppOutcome} : o.isFailed ↔ ∃ f, o = .failed f := by
  cases o <;> simp [isFailed]

variable {outcomes : List AppOutcome} {failures : List Failure}

theorem filter_isFailed (outcomes : List AppOutcome) : 
    outcomes.filter isFailed = (outcomes.filterMap failure?).map .failed := by
  induction outcomes
  case nil         => rfl
  case cons o _ hi => cases o <;> simp [isFailed, failure?, List.filter_cons, List.filterMap_cons, hi]

theorem map_failed_injective : Function.Injective (List.map failed) :=
  List.map_injective_iff.mpr fun _ _ => failed.inj

theorem filterMap_failure?_eq_iff : 
    outcomes.filterMap failure? = failures ↔ outcomes.filter isFailed = failures.map .failed := by
  rw [filter_isFailed, map_failed_injective.eq_iff]

theorem filterMap_failure?_eq_nil_iff : 
    outcomes.filterMap failure? = [] ↔ ∀ f, .failed f ∉ outcomes := by
  rw [filterMap_failure?_eq_iff, List.map_nil, List.filter_eq_nil_iff]
  simp only [isFailed_iff]
  exact ⟨fun h f hf => h _ hf ⟨f, rfl⟩, fun h o ho ⟨f, hf⟩ => h f (hf ▸ ho)⟩

-- What does not fail adds no failures, and so can as well be left out.
theorem filterMap_failure?_filter {kept : AppOutcome → Bool} (h : ∀ f, kept (.failed f)) : 
    (outcomes.filter kept).filterMap failure? = outcomes.filterMap failure? := by
  rw [filterMap_failure?_eq_iff, ← filter_isFailed, List.filter_filter]
  refine List.filter_congr fun o _ => ?_
  cases o <;> simp [isFailed, h]

end AppOutcome

namespace DispatchOutcome

-- How the outcomes of a run add up: failures come before what has been reported, and that comes 
-- before success.
inductive Classified (outcomes : List AppOutcome) : DispatchOutcome → Prop
  | failed {failures} (nonempty : failures ≠ []) 
    (exact : outcomes.filter (·.isFailed) = failures.map .failed) : 
    Classified outcomes (.failed failures)
  | alreadyReported (unfailed : ∀ f, .failed f ∉ outcomes) (reported : .alreadyReported ∈ outcomes) :
    Classified outcomes .alreadyReported
  | succeeded (all : ∀ o ∈ outcomes, o = .succeeded) : Classified outcomes .succeeded

-- Two ways for a run to end that only differ in the order of the failures.
inductive Reordered : DispatchOutcome → DispatchOutcome → Prop
  | failed {failures failures'} (perm : failures.Perm failures') : 
    Reordered (.failed failures) (.failed failures')
  | alreadyReported : Reordered .alreadyReported .alreadyReported
  | succeeded : Reordered .succeeded .succeeded

variable {outcomes outcomes' : List AppOutcome} {o : DispatchOutcome}

theorem reduce_eq (outcomes : List AppOutcome) : 
    reduce outcomes = 
      if outcomes.filterMap AppOutcome.failure? ≠ [] then .failed (outcomes.filterMap AppOutcome.failure?)
      else if .alreadyReported ∈ outcomes then .alreadyReported
      else .succeeded := by
  simp [reduce, Aggregate.ofList_eq, Aggregate.finish]

theorem classified_reduce (outcomes : List AppOutcome) : Classified outcomes (reduce outcomes) := by
  rw [reduce_eq]
  split
  case isTrue hf  => exact .failed hf (AppOutcome.filter_isFailed _)
  case isFalse hf =>
    have unfailed := AppOutcome.filterMap_failure?_eq_nil_iff.mp (not_not.mp hf)
    split
    case isTrue hr  => exact .alreadyReported unfailed hr
    case isFalse hr => 
      refine .succeeded fun o ho => ?_
      cases o
      case succeeded       => rfl
      case failed f        => exact absurd ho (unfailed f)
      case alreadyReported => exact absurd ho hr

namespace Classified

theorem reduce_eq (h : Classified outcomes o) : reduce outcomes = o := by
  rw [DispatchOutcome.reduce_eq]
  cases h
  case failed hn he          => 
    rw [AppOutcome.filterMap_failure?_eq_iff.mpr he, if_pos hn]
  case alreadyReported hu hr =>
    rw [if_neg (not_not.mpr (AppOutcome.filterMap_failure?_eq_nil_iff.mpr hu)), if_pos hr]
  case succeeded ha          =>
    have hu : ∀ f, .failed f ∉ outcomes := fun f hf => nomatch ha _ hf
    have hr : .alreadyReported ∉ outcomes := fun hr => nomatch ha _ hr
    rw [if_neg (not_not.mpr (AppOutcome.filterMap_failure?_eq_nil_iff.mpr hu)), if_neg hr]

end Classified

theorem reduce_eq_iff : reduce outcomes = o ↔ Classified outcomes o :=
  ⟨fun h => h ▸ classified_reduce outcomes, Classified.reduce_eq⟩

theorem reduce_of_failed (h : ∃ f, .failed f ∈ outcomes) : 
    reduce outcomes = .failed (outcomes.filterMap AppOutcome.failure?) := by
  rw [reduce_eq, if_pos]
  exact fun hn => h.elim (AppOutcome.filterMap_failure?_eq_nil_iff.mp hn)

theorem reordered_reduce (h : outcomes.Perm outcomes') : 
    Reordered (reduce outcomes) (reduce outcomes') := by
  have hf := h.filterMap AppOutcome.failure?
  rw [reduce_eq, reduce_eq]
  simp only [h.mem_iff, ne_eq, ← List.isEmpty_iff, hf.isEmpty_eq]
  split
  case isTrue  => exact .failed hf
  case isFalse => split <;> constructor

-- A run ends as the outcomes per app are classified, whatever they are and whatever their order. Once an app 
-- has failed, the apps that have not failed do not matter any more.
theorem outcomes_classified (outcomes : List AppOutcome) : 
    (∀ o, reduce outcomes = o ↔ Classified outcomes o) ∧ 
    (∀ kept : AppOutcome → Bool, (∀ f, kept (.failed f)) → (∃ f, .failed f ∈ outcomes) → 
      reduce (outcomes.filter kept) = reduce outcomes) ∧ 
    ∀ outcomes', outcomes.Perm outcomes' → Reordered (reduce outcomes) (reduce outcomes') := by
  refine ⟨fun _ => reduce_eq_iff, fun kept hk hf => ?_, fun _ => reordered_reduce⟩
  have hf' : ∃ f, .failed f ∈ outcomes.filter kept := 
    hf.imp fun f hm => List.mem_filter.mpr ⟨hm, hk f⟩
  rw [reduce_of_failed hf, reduce_of_failed hf', AppOutcome.filterMap_failure?_filter hk]

-- Two apps fail, and between them one whose failure has been reported.
theorem outcomes_classified_mixed :
    let web : Failure := .of (.other "A")
    let api : Failure := .of (.other "B")
    let outcomes : List AppOutcome := [.succeeded, .failed web, .alreadyReported, .failed api]
    reduce outcomes = .failed [web, api] ∧ Classified outcomes (.failed [web, api]) ∧ 
    reduce (outcomes.filter (·.isFailed)) = reduce outcomes ∧ 
    Reordered (reduce outcomes) (reduce outcomes.reverse) := by
  intro web api outcomes
  have ⟨classified, filtered, reordered⟩ := outcomes_classified outcomes
  have failing : ∃ f, .failed f ∈ outcomes := ⟨web, by decide⟩
  exact ⟨rfl, (classified _).mp rfl, filtered _ (fun _ => rfl) failing, reordered _ outcomes.reverse_perm.symm⟩

end DispatchOutcome
end Rollout
