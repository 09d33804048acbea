import Rollout.Outcome
namespace Rollout.Aggregate

-- What has been recorded can be read off the outcomes: their failures in order, whether any of them
-- had been reported before, and their number.
theorem foldl_record (a : Aggregate) (l : List AppOutcome) : 
    l.foldl record a = {
      failures        := a.failures ++ l.filterMap AppOutcome.failure?
      alreadyReported := a.alreadyReported || l.any (· = .alreadyReported)
      completed       := a.completed + l.length
    } := by
  induction l generalizing a
  case nil          => simp
  case cons o l hi =>
    rw [List.foldl_cons, hi]
    cases o <;> simp [record, AppOutcome.failure?, List.filterMap_cons] <;> omega

theorem ofList_eq (l : List AppOutcome) : 
    ofList l = ⟨l.filterMap AppOutcome.failure?, l.any (· = .alreadyReported), l.length⟩ := by
  simp [ofList, foldl_record]

-- The empty aggregate and merging make up a monoid.
@[simp]
theorem empty_merge (a : Aggregate) : merge {} a = a := by
  simp [merge]

@[simp]
theorem merge_empty (a : Aggregate) : a.merge {} = a := by
  simp [merge]

theorem merge_assoc (a b c : Aggregate) : (a.merge b).merge c = a.merge (b.merge c) := by
  simp [merge, Bool.or_assoc, Nat.add_assoc]

-- Recording takes lists to aggregates, and lists that follow each other to aggregates that are 
-- merged.
theorem ofList_append (l m : List AppOutcome) : ofList (l ++ m) = (ofList l).merge (ofList m) := by
  simp [ofList_eq, merge]

theorem ofList_concat (l : List AppOutcome) (o : AppOutcome) : 
    ofList (l ++ [o]) = (ofList l).record o := by
  simp [ofList]

end Rollout.Aggregate
