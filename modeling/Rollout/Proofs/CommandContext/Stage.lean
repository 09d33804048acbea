import Rollout.CommandContext
import Rollout.Proofs.Trace
namespace Rollout.CommandContext

-- The stages of a preparation.
inductive Stage
  | placement
  | workspace
  | target
  | values
  | remote
  | runner
  deriving DecidableEq, Repr

namespace Stage

-- In the order in which they follow one another.
def all : List Stage :=
  [placement, workspace, target, values, remote, runner]

def position : Stage → Nat
  | placement => 0
  | workspace => 1
  | target    => 2
  | values    => 3
  | remote    => 4
  | runner    => 5

instance : LE Stage where
  le s t := s.position ≤ t.position

instance : LT Stage where
  lt s t := s.position < t.position

instance (s t : Stage) : Decidable (s ≤ t) :=
  inferInstanceAs (Decidable (s.position ≤ t.position))

instance (s t : Stage) : Decidable (s < t) :=
  inferInstanceAs (Decidable (s.position < t.position))

theorem mem_all (s : Stage) : s ∈ all := by
  cases s <;> decide

theorem all_pairwise : all.Pairwise (· < ·) := by
  decide

def before (s : Stage) : List Stage :=
  all.filter (· < s)

def after (s : Stage) : List Stage :=
  all.filter (s < ·)

theorem all_eq (s : Stage) : all = s.before ++ s :: s.after := by
  cases s <;> decide

theorem lt_of_mem_before {s t : Stage} (h : t ∈ s.before) : t < s := by
  simpa using (List.mem_filter.mp h).right

theorem mem_of_lt {s t : Stage} (h : all = l ++ s :: l') (hl : t < s) : t ∈ l := by
  have hp := h ▸ all_pairwise
  rw [List.pairwise_append, List.pairwise_cons] at hp
  cases List.mem_append.mp (h ▸ mem_all t)
  case inl hm => exact hm
  case inr hm =>
    cases hm
    case head    => exact absurd hl (Nat.lt_irrefl _)
    case tail hm => exact absurd hl (Nat.lt_asymm (hp.right.left.left t hm))

-- The errors that a stage can end with.
def Raises : Stage → InitError → Prop
  | placement, e => ∃ m, e = .misplacedFlags m
  | workspace, e => ∃ f, e = .collaborator f
  | target,    e => ∃ f, e = .target f
  | values,    e => (∃ f, e = .variableFile f) ∨ ∃ f, e = .unnamed f
  | remote,    e => e = .remoteUnsupported
  | runner,    e => (∃ f, e = .collaborator f) ∨ ∃ p r, e = .runnerUnavailable p r

end Stage

section

variable (inv : Invocation) (demands : Demands) (env : Collaborators)

-- The search for the target, which all later stages build upon.
def resolution : Traced TargetError Resolution :=
  Target.resolve demands.target demands.config ⟨inv.flags.project, inv.flags.app⟩ env.config inv.args

def onceResolved (f : Resolution → Traced InitError Unit) : Traced InitError Unit :=
  match (resolution inv demands env).result with
  | .ok r    => f r
  | .error _ => pure ()

-- What a stage does if all stages before it have succeeded.
def work : Stage → Traced InitError Unit
  | .placement => (Traced.of (FlagOrder.check inv.args inv.recognized)).mapError .misplacedFlags
  | .workspace => 
    ((WorkspaceRef.resolve inv.flags.workspace inv.workspace env.contexts).mapError 
      .collaborator).forget
  | .target    => ((resolution inv demands env).mapError .target).forget
  | .values    => onceResolved inv demands env fun r => (loadVariables env.files r.config inv).forget
  | .remote    => onceResolved inv demands env fun r => Traced.of (checkRemote demands inv.flags r)
  | .runner    => onceResolved inv demands env fun r => checkExplicit demands env.server r

-- A stage fails, and it is the first one that does.
structure FailsAt (s : Stage) (e : InitError) : Prop where
  fails  : (work inv demands env s).result = .error e
  passed : ∀ t < s, (work inv demands env t).result = .ok ()

-- A preparation is its stages, one after the other.
theorem forget_init : (init inv demands env).forget = Stage.all.forM (work inv demands env) := by
  simp only [init, Stage.all, List.forM_cons, List.forM_nil, List.forM_eq_forM, work, 
    Traced.forget_bind, Traced.bind_forget, Traced.forget_pure]
  refine Traced.bind_congr_of_ok fun _ _ => Traced.bind_congr_of_ok fun w _ => 
    Traced.bind_congr_of_ok fun r hr => ?_
  rw [Traced.result_mapError_eq_ok_iff] at hr
  simp only [onceResolved, resolution, hr, Traced.bind_forget]

end

variable {inv inv' : Invocation} {demands demands' : Demands} {env env' : Collaborators}
variable {s t : Stage} {e : InitError}

theorem FailsAt.forget_init (f : FailsAt inv demands env s e) : 
    (init inv demands env).forget = 
      ⟨s.before.flatMap (fun t => (work inv demands env t).events) ++ 
        (work inv demands env s).events, .error e⟩ := by
  rw [CommandContext.forget_init, s.all_eq]
  exact Traced.forM_of_error (fun t ht => f.passed t (Stage.lt_of_mem_before ht)) f.fails

theorem FailsAt.result_init (f : FailsAt inv demands env s e) : 
    (init inv demands env).result = .error e := by
  have h := congrArg Traced.result f.forget_init
  rw [Traced.result_forget] at h
  cases hr : (init inv demands env).result <;> simp_all [Except.map]

-- A preparation ends with the error of the first stage that fails.
theorem init_eq_error_iff : 
    (init inv demands env).result = .error e ↔ ∃ s, FailsAt inv demands env s e := by
  constructor
  case mp =>
    intro h
    have hf := congrArg Traced.result (forget_init inv demands env)
    cases Traced.forall_ok_or_exists_error (work inv demands env) Stage.all
    case inl hok => simp [Traced.forM_of_ok hok, h, Except.map] at hf
    case inr hex =>
      have ⟨before, s, after, e', hall, hok, he⟩ := hex
      have f : FailsAt inv demands env s e' := ⟨he, fun t ht => hok t <| Stage.mem_of_lt hall ht⟩
      have := f.result_init ▸ h
      exact ⟨s, by simp_all⟩
  case mpr => exact fun ⟨_, f⟩ => f.result_init

theorem raises_values {files : FileTree} {config : Option LoadedConfig} : 
    ∀ e, (loadVariables files config inv).result = .error e → Stage.values.Raises e := by
  refine Traced.forall_error_bind (fun _ h => .inl (Traced.exists_of_mapError h)) fun _ _ => ?_
  refine Traced.forall_error_bind (fun _ h => .inl (Traced.exists_of_mapError h)) fun _ _ => ?_
  exact fun _ h => .inr (Traced.exists_of_mapError h)

theorem raises_remote {r : Resolution} (h : checkRemote demands inv.flags r = .error e) : 
    Stage.remote.Raises e := by
  unfold checkRemote at h
  split at h <;> cases h
  rfl

theorem raises_checkRunner {server : Option Server} {p : ProjectRef} : 
    ∀ e, (checkRunner server p).result = .error e → Stage.runner.Raises e := by
  cases server
  case none        => intro _ h; cases h
  case some server =>
    refine Traced.forall_error_bind (fun _ h => .inl (Traced.exists_of_mapError h)) fun _ _ => ?_
    refine Traced.forall_error_bind (fun _ h => .inl (Traced.exists_of_mapError h)) fun r _ => ?_
    intro _ h
    split at h <;> cases h
    exact .inr ⟨p.name, r, rfl⟩

theorem raises_runner {server : Option Server} {r : Resolution}
    (h : (checkExplicit demands server r).result = .error e) : Stage.runner.Raises e := by
  unfold checkExplicit at h
  split at h
  case h_2 => cases h
  case h_1 =>
    split at h
    case isTrue  => exact raises_checkRunner e h
    case isFalse => cases h

theorem exists_of_onceResolved {f : Resolution → Traced InitError Unit} 
    (h : (onceResolved inv demands env f).result = .error e) : ∃ r, (f r).result = .error e := by
  unfold onceResolved at h
  split at h
  case h_1 r _ => exact ⟨r, h⟩
  case h_2     => contradiction

theorem FailsAt.raises (f : FailsAt inv demands env s e) : s.Raises e := by
  have h := f.fails
  cases s <;> simp only [work, Traced.result_forget_eq_error_iff] at h
  case placement => exact Traced.exists_of_mapError h
  case workspace => exact Traced.exists_of_mapError h
  case target    => exact Traced.exists_of_mapError h
  case values    => 
    have ⟨_, h⟩ := exists_of_onceResolved h
    exact raises_values e (Traced.result_forget_eq_error_iff.mp h)
  case remote    => exact raises_remote (exists_of_onceResolved h).choose_spec
  case runner    => exact raises_runner (exists_of_onceResolved h).choose_spec

end Rollout.CommandContext
