import Rollout.Proofs.Dispatch
import Rollout.Proofs.Outcome
namespace Rollout

variable {σ : Type}

-- The variables of a run when it looks at the signal.
@[ext]
structure Check (σ : Type) where
  rest     : List AppHandle
  soFar    : Aggregate
  canceled : Bool
  state    : σ

namespace Reply

-- The failure that a reply tells of.
def failure? (r : Reply) : Option Failure :=
  match r.result with
  | .error (.failed f) => some f
  | _                  => none

def isReported (r : Reply) : Bool :=
  match r.result with
  | .error .alreadyReported => true
  | _                       => false

theorem failure?_ofResult (r : Reply) : (AppOutcome.ofResult r.result).failure? = r.failure? := by
  obtain ⟨(_ | _) | _, _⟩ := r <;> rfl

theorem ofResult_eq_alreadyReported_iff {r : Reply} : 
    AppOutcome.ofResult r.result = .alreadyReported ↔ r.isReported := by
  obtain ⟨(_ | _) | _, _⟩ := r <;> simp [AppOutcome.ofResult, isReported]

end Reply

namespace Plan

-- The rest of a run from a check on.
def resume (p : Plan) (w : WorkspaceRef) (op : Operation σ) (c : Check σ) : Run σ :=
  p.executeFrom w op c.rest c.soFar c.canceled c.state

-- A call of an operation for one app.
def call (p : Plan) (w : WorkspaceRef) (op : Operation σ) (h : AppHandle) (s : σ) : Reply × σ :=
  op ⟨false, p.mode, w, p.runner⟩ h s

-- What follows a check that does not see the signal set: the operation is called for the next app,
-- and what comes of it is recorded.
inductive Round (p : Plan) (w : WorkspaceRef) (op : Operation σ) : Check σ → Check σ → Prop
  | call : Round p w op ⟨h :: rest, a, false, s⟩ {
      rest     := rest
      soFar    := a.record (.ofResult (p.call w op h s).1.result)
      canceled := (p.call w op h s).1.cancels
      state    := (p.call w op h s).2
    }

-- A run comes to a check after that many rounds.
inductive Reaches (p : Plan) (w : WorkspaceRef) (op : Operation σ) (canceled : Bool) (s : σ) : 
    Nat → Check σ → Prop
  | start : Reaches p w op canceled s 0 ⟨p.tasks, {}, canceled, s⟩
  | round : Reaches p w op canceled s i c → Round p w op c c' → Reaches p w op canceled s (i + 1) c'

variable {p : Plan} {w : WorkspaceRef} {op : Operation σ} {canceled : Bool} {s : σ} 
variable {c c' c₁ c₂ : Check σ} {h : AppHandle} {done rest tasks : List AppHandle}

theorem Round.resume_eq : Round p w op c c' → p.resume w op c = p.resume w op c'
  | call => rfl

theorem Round.unset : Round p w op c c' → c.canceled = false ∧ c.rest ≠ []
  | call => ⟨rfl, List.cons_ne_nil _ _⟩

theorem Round.deterministic (h₁ : Round p w op c c₁) (h₂ : Round p w op c c₂) : c₁ = c₂ := by
  cases h₁
  cases h₂
  rfl

namespace Reaches

theorem execute_eq (h : Reaches p w op canceled s i c) : 
    p.execute w op canceled s = p.resume w op c := by
  induction h
  case start         => rfl
  case round _ hr hi => exact hi.trans hr.resume_eq

theorem deterministic (h₁ : Reaches p w op canceled s i c₁) (h₂ : Reaches p w op canceled s i c₂) : 
    c₁ = c₂ := by
  induction h₁ generalizing c₂
  case start =>
    cases h₂
    rfl
  case round _ hr hi =>
    cases h₂
    case round h₂ hr₂ =>
      cases hi h₂
      exact hr.deterministic hr₂

-- Each round takes one app from those that are left and records one outcome.
theorem completed_eq (h : Reaches p w op canceled s i c) : c.soFar.completed = i := by
  induction h
  case start         => rfl
  case round _ hr hi =>
    cases hr
    simp [Aggregate.record, ← hi]

theorem rest_eq (h : Reaches p w op canceled s i c) : c.rest = p.tasks.drop i := by
  induction h
  case start         => rfl
  case round _ hr hi =>
    cases hr
    simp [← List.drop_drop, ← hi]

theorem completed_add_rest (h : Reaches p w op canceled s i c) : 
    c.soFar.completed + c.rest.length = p.tasks.length := by
  induction h
  case start         => simp
  case round _ hr hi =>
    cases hr
    simp only [Aggregate.record, List.length_cons] at hi ⊢
    omega

end Reaches

-- What an operation replies if it is called for one app after the other, whatever becomes of the
-- signal.
def replies (p : Plan) (w : WorkspaceRef) (op : Operation σ) : List AppHandle → σ → List Reply
  | [],        _ => []
  | h :: rest, s => (p.call w op h s).1 :: p.replies w op rest (p.call w op h s).2

def stateAfter (p : Plan) (w : WorkspaceRef) (op : Operation σ) (tasks : List AppHandle) (s : σ) : σ :=
  tasks.foldl (fun s h => (p.call w op h s).2) s

def outcomes (p : Plan) (w : WorkspaceRef) (op : Operation σ) (tasks : List AppHandle) (s : σ) : 
    List AppOutcome :=
  (p.replies w op tasks s).map fun r => .ofResult r.result

-- What the replies to the calls for these apps tell: their failures in order, and whether one of them
-- has been reported already.
def told (p : Plan) (w : WorkspaceRef) (op : Operation σ) (tasks : List AppHandle) (s : σ) : 
    Aggregate where
  failures        := (p.replies w op tasks s).filterMap Reply.failure?
  alreadyReported := (p.replies w op tasks s).any (·.isReported)
  completed       := tasks.length

-- Whether the signal is set after these apps: it was set before, or a call for one of them set it.
def isSetAfter (p : Plan) (w : WorkspaceRef) (op : Operation σ) (canceled : Bool) 
    (tasks : List AppHandle) (s : σ) : Bool :=
  canceled || (p.replies w op tasks s).any (·.cancels)

-- How many tasks there are before the first one that finds the signal set. If none does, that is 
-- the number of all tasks.
def cut (p : Plan) (w : WorkspaceRef) (op : Operation σ) (canceled : Bool) (s : σ) : Nat :=
  (List.range p.tasks.length).findIdx fun i => p.isSetAfter w op canceled (p.tasks.take i) s

theorem replies_concat : 
    p.replies w op (tasks ++ [h]) s = 
      p.replies w op tasks s ++ [(p.call w op h (p.stateAfter w op tasks s)).1] := by
  induction tasks generalizing s
  case nil          => rfl
  case cons _ _ hi  => simp [replies, stateAfter, hi]

@[simp]
theorem length_replies : (p.replies w op tasks s).length = tasks.length := by
  induction tasks generalizing s
  case nil         => rfl
  case cons _ _ hi => simp [replies, hi]

theorem ofList_outcomes (tasks : List AppHandle) : 
    Aggregate.ofList (p.outcomes w op tasks s) = p.told w op tasks s := by
  simp [Aggregate.ofList_eq, outcomes, told, List.filterMap_map, List.any_map, Function.comp_def, 
    Reply.failure?_ofResult, Reply.ofResult_eq_alreadyReported_iff]

-- The check that a run comes to if the operation has been called for `done`, and `rest` is left.
def checkAfter (p : Plan) (w : WorkspaceRef) (op : Operation σ) (canceled : Bool) (s : σ) 
    (done rest : List AppHandle) : Check σ where
  rest     := rest
  soFar    := .ofList (p.outcomes w op done s)
  canceled := p.isSetAfter w op canceled done s
  state    := p.stateAfter w op done s

theorem round_of_unset (hu : p.isSetAfter w op canceled done s = false) : 
    Round p w op (p.checkAfter w op canceled s done (h :: rest)) 
      (p.checkAfter w op canceled s (done ++ [h]) rest) := by
  have hr : p.checkAfter w op canceled s (done ++ [h]) rest = {
      rest     := rest
      soFar    := (Aggregate.ofList (p.outcomes w op done s)).record 
        (.ofResult (p.call w op h (p.stateAfter w op done s)).1.result)
      canceled := (p.call w op h (p.stateAfter w op done s)).1.cancels
      state    := (p.call w op h (p.stateAfter w op done s)).2 
    } := by
    simp only [isSetAfter, Bool.or_eq_false_iff] at hu
    simp [checkAfter, outcomes, isSetAfter, replies_concat, Aggregate.ofList_concat, stateAfter, hu]
  rw [hr, checkAfter, hu]
  exact .call

-- As long as no check has seen the signal set, the run goes on.
theorem reaches_of_unset {i : Nat} (hi : i ≤ p.tasks.length) 
    (hu : ∀ j < i, p.isSetAfter w op canceled (p.tasks.take j) s = false) :
    Reaches p w op canceled s i
      (p.checkAfter w op canceled s (p.tasks.take i) (p.tasks.drop i)) := by
  induction i
  case zero      => simpa [checkAfter, outcomes, isSetAfter, replies, stateAfter] using .start
  case succ i ih =>
    have hr := ih (Nat.le_of_succ_le hi) fun j hj => hu j (Nat.lt_succ_of_lt hj)
    rw [List.drop_eq_getElem_cons hi] at hr
    rw [List.take_succ_eq_append_getElem hi]
    exact hr.round (round_of_unset (hu i (Nat.lt_succ_self i)))

theorem cut_le : p.cut w op canceled s ≤ p.tasks.length := by
  simpa [cut] using (List.range p.tasks.length).findIdx_le_length

theorem unset_of_lt_cut {i : Nat} (hi : i < p.cut w op canceled s) : 
    p.isSetAfter w op canceled (p.tasks.take i) s = false := by
  simpa using List.not_of_lt_findIdx hi

theorem set_of_cut_lt (hc : p.cut w op canceled s < p.tasks.length) : 
    p.isSetAfter w op canceled (p.tasks.take (p.cut w op canceled s)) s = true := by
  replace hc : p.cut w op canceled s < (List.range p.tasks.length).length := by simpa using hc
  unfold cut at hc ⊢
  have h := List.findIdx_getElem (w := hc)
  rwa [List.getElem_range] at h

theorem reaches_of_le_cut {i : Nat} (hi : i ≤ p.cut w op canceled s) :
    Reaches p w op canceled s i 
      (p.checkAfter w op canceled s (p.tasks.take i) (p.tasks.drop i)) :=
  reaches_of_unset (Nat.le_trans hi cut_le) fun _ hj => unset_of_lt_cut (Nat.lt_of_lt_of_le hj hi)

-- A run comes to a check exactly if no check before it has seen the signal set.
theorem exists_reaches_iff {i : Nat} : 
    (∃ c, Reaches p w op canceled s i c) ↔ i ≤ p.cut w op canceled s := by
  constructor
  case mpr => exact fun hi => ⟨_, reaches_of_le_cut hi⟩
  case mp  =>
    rintro ⟨c, h⟩
    induction h
    case start => exact Nat.zero_le _
    case round h hr hi =>
      refine Nat.lt_of_le_of_ne hi fun he => ?_
      subst he
      cases (reaches_of_le_cut hi).deterministic h
      -- No round follows the last check: no app is left, or the signal is set.
      have ⟨hu, hn⟩ := hr.unset
      have hl := List.length_pos_iff.mpr hn
      simp only [checkAfter, List.length_drop] at hu hl
      simp [set_of_cut_lt (Nat.lt_of_sub_pos hl)] at hu

theorem executeFrom_of_set {a : Aggregate} (ht : tasks ≠ []) : 
    p.executeFrom w op tasks a true s = ⟨.canceled a, true, s⟩ := by
  cases tasks
  case nil  => contradiction
  case cons => rfl

-- A run ends as soon as a check sees the signal set, or when no app is left.
theorem execute_eq : 
    p.execute w op canceled s = {
      outcome := 
        if p.cut w op canceled s < p.tasks.length then 
          .canceled (.ofList (p.outcomes w op (p.tasks.take (p.cut w op canceled s)) s))
        else .reduce (p.outcomes w op p.tasks s)
      canceled := p.isSetAfter w op canceled (p.tasks.take (p.cut w op canceled s)) s
      state    := p.stateAfter w op (p.tasks.take (p.cut w op canceled s)) s
    } := by
  rw [(reaches_of_le_cut (Nat.le_refl _)).execute_eq, resume]
  split
  case isTrue hc =>
    have hd : p.tasks.drop (p.cut w op canceled s) ≠ [] := by simpa using hc
    simp [checkAfter, set_of_cut_lt hc, executeFrom_of_set hd]
  case isFalse hc =>
    have hc := Nat.le_antisymm cut_le (Nat.not_lt.mp hc)
    simp [checkAfter, hc, executeFrom, DispatchOutcome.reduce]

-- Keeping a record changes neither the replies nor the state, and the record grows by each app.
theorem call_logged (log : List AppHandle) : 
    p.call w op.logged h (log, s) = ((p.call w op h s).1, log ++ [h], (p.call w op h s).2) :=
  rfl

theorem replies_logged (log : List AppHandle) : 
    p.replies w op.logged tasks (log, s) = p.replies w op tasks s := by
  induction tasks generalizing log s
  case nil         => rfl
  case cons _ _ hi => simp [replies, call_logged, hi]

theorem stateAfter_logged (log : List AppHandle) : 
    p.stateAfter w op.logged tasks (log, s) = (log ++ tasks, p.stateAfter w op tasks s) := by
  induction tasks generalizing log s
  case nil         => simp [stateAfter]
  case cons h _ hi => 
    have := hi (s := (p.call w op h s).2) (log ++ [h])
    simpa [stateAfter, call_logged] using this

theorem cut_logged (log : List AppHandle) : 
    p.cut w op.logged canceled (log, s) = p.cut w op canceled s := by
  simp only [cut, isSetAfter, replies_logged]

theorem execute_logged_eq : 
    p.execute w op.logged canceled ([], s) = 
      (p.execute w op canceled s).withLog (p.tasks.take (p.cut w op canceled s)) := by
  simp [execute_eq, cut_logged, outcomes, isSetAfter, replies_logged, stateAfter_logged, Run.withLog]

-- How a run takes notice of the signal.
structure CutShort (p : Plan) (w : WorkspaceRef) (op : Operation σ) (canceled : Bool) (s : σ) : 
    Prop where
  -- Up to the cut no check sees the signal set, and the one at the cut does.
  unset   : ∀ i < p.cut w op canceled s, p.isSetAfter w op canceled (p.tasks.take i) s = false
  set     : p.cut w op canceled s < p.tasks.length → 
    p.isSetAfter w op canceled (p.tasks.take (p.cut w op canceled s)) s = true
  -- The operation is called for the apps up to the cut, for each of them once and in order.
  calls   : p.execute w op.logged canceled ([], s) = 
    (p.execute w op canceled s).withLog (p.tasks.take (p.cut w op canceled s))
  -- What has been recorded of them is kept.
  partly  : p.cut w op canceled s < p.tasks.length → 
    (p.execute w op canceled s).outcome = .canceled {
      failures        := (p.replies w op (p.tasks.take (p.cut w op canceled s)) s).filterMap (·.failure?)
      alreadyReported := (p.replies w op (p.tasks.take (p.cut w op canceled s)) s).any (·.isReported)
      completed       := p.cut w op canceled s
    }
  fully   : p.cut w op canceled s = p.tasks.length →
    (p.execute w op canceled s).outcome = .reduce (p.outcomes w op p.tasks s) ∧ 
      .reduce (p.outcomes w op p.tasks s) = (p.told w op p.tasks s).finish
  -- Each check up to the cut is come to, with as many outcomes recorded as there have been apps. 
  checked : ∀ i, (∃ c, Reaches p w op canceled s i c) ↔ i ≤ p.cut w op canceled s
  resumed : ∀ i c, Reaches p w op canceled s i c → p.execute w op canceled s = p.resume w op c
  counted : ∀ i c, Reaches p w op canceled s i c → 
    c.soFar.completed = i ∧ c.rest = p.tasks.drop i ∧ 
      c.soFar.completed + c.rest.length = p.tasks.length

theorem cutShort_execute (p : Plan) (w : WorkspaceRef) (op : Operation σ) (canceled : Bool) (s : σ) : 
    p.CutShort w op canceled s where
  unset _     := unset_of_lt_cut
  set         := set_of_cut_lt
  calls       := execute_logged_eq
  partly hc   := by simp [execute_eq, hc, ofList_outcomes, told, Nat.le_of_lt hc]
  fully hc    := by simp [execute_eq, hc, DispatchOutcome.reduce, ofList_outcomes]
  checked _   := exists_reaches_iff
  resumed _ _ := Reaches.execute_eq
  counted _ _ := fun h => ⟨h.completed_eq, h.rest_eq, h.completed_add_rest⟩

-- An operation that counts its calls. The first of them fails, and the second one sets the signal. Only 
-- if there are more than two apps does that matter.
theorem cutShort_execute_second : 
    let app (name : String) (h : Text.isBlank name = false) : AppHandle := 
      ⟨⟨"shop", name, by decide, h⟩, .default⟩
    let p : Plan := ⟨.here, [app "web" rfl, app "api" rfl, app "worker" rfl], none⟩
    let q : Plan := ⟨.here, [app "web" rfl, app "api" rfl], none⟩
    let f : Failure := .of (.other "A")
    let op : Operation Nat := fun _ _ calls => 
      (if calls = 0 then ⟨.error (.failed f), false⟩ else ⟨.error .alreadyReported, true⟩, calls + 1)
    (p.execute .default op false 0).outcome = .canceled ⟨[f], true, 2⟩ ∧ 
      p.execute .default op.logged false ([], 0) = (p.execute .default op false 0).withLog q.tasks ∧ 
      (q.execute .default op false 0).outcome = .failed [f] := by
  intro app p q f op
  have short := cutShort_execute p .default op false 0
  have whole := cutShort_execute q .default op false 0
  have cut : p.cut .default op false 0 = 2 := by decide
  have uncut : q.cut .default op false 0 = q.tasks.length := by decide
  have partly := short.partly (by decide)
  have calls := short.calls
  rw [cut] at partly calls
  have ⟨ends, tells⟩ := whole.fully uncut
  refine ⟨partly, calls, ?_⟩
  rw [ends, tells]
  decide

end Plan
end Rollout
