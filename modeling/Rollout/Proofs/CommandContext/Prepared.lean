import Rollout.Proofs.CommandContext.Stage
import Rollout.Proofs.Except
import Rollout.Proofs.Ref
import Rollout.Proofs.Text.Blank
namespace Rollout.CommandContext

-- What a command knows once all stages have found what they look for.
def assemble (inv : Invocation) (w : WorkspaceRef) (r : Resolution) (v : Variables) : 
    CommandContext where
  workspace    := w
  target       := r.target
  explicit     := r.explicit
  args         := r.args
  values       := v
  labels       := pairsOf inv.flags.labels
  remoteSource := pairsOf inv.flags.remoteSource
  remote       := inv.flags.remote
  plain        := inv.flags.plain
  flagProject  := do (ProjectRef.ofName (← Text.verbatim? inv.flags.project)).toOption
  flagApp      := Text.verbatim? inv.flags.app
  config       := r.config

-- A context that all stages have contributed to.
inductive Prepared (inv : Invocation) (demands : Demands) (env : Collaborators) : 
    CommandContext → Prop
  | intro {w r v} (placement : FlagOrder.check inv.args inv.recognized = .ok ()) 
    (workspace : 
      (WorkspaceRef.resolve inv.flags.workspace inv.workspace env.contexts).result = .ok w)
    (target : (resolution inv demands env).result = .ok r)
    (values : (loadVariables env.files r.config inv).result = .ok v)
    (remote : checkRemote demands inv.flags r = .ok ())
    (runner : (checkExplicit demands env.server r).result = .ok ()) :
    Prepared inv demands env (assemble inv w r v)

variable {inv : Invocation} {demands : Demands} {env : Collaborators} {c : CommandContext}

theorem init_eq_ok_iff : (init inv demands env).result = .ok c ↔ Prepared inv demands env c := by
  simp only [init, Traced.result_bind_eq_ok_iff, Traced.result_mapError_eq_ok_iff, 
    Traced.result_of, Traced.result_pure]
  constructor
  case mp =>
    rintro ⟨_, hp, w, hw, r, hr, v, hv, _, hm, _, hc, ⟨⟩⟩
    exact .intro hp hw hr hv hm hc
  case mpr =>
    rintro ⟨hp, hw, hr, hv, hm, hc⟩
    exact ⟨_, hp, _, hw, _, hr, _, hv, _, hm, _, hc, rfl⟩

-- A context is put together from the target that has been found, among other things.
theorem exists_resolution_of_init (h : (init inv demands env).result = .ok c) : 
    ∃ w r v, (resolution inv demands env).result = .ok r ∧ c = assemble inv w r v := by
  cases init_eq_ok_iff.mp h
  case intro ht _ _ _ => exact ⟨_, _, _, ht, rfl⟩

-- The project that a flag names is known by exactly the text of the flag.
theorem flagProject_eq_some_iff {p : ProjectRef} (h : (init inv demands env).result = .ok c) : 
    c.flagProject = some p ↔ inv.flags.project = some p.name := by
  cases init_eq_ok_iff.mp h
  simp only [assemble, Option.bind_eq_bind, Option.bind_eq_some_iff, Text.verbatim?_eq_some_iff]
  constructor
  case mp  => 
    rintro ⟨s, ⟨hs, _⟩, hp⟩
    rw [hs, ProjectRef.ofName_eq_ok_iff.mp (Except.toOption_eq_some_iff.mp hp)]
  case mpr => exact fun hs => ⟨p.name, ⟨hs, p.nonblank⟩, by rw [ProjectRef.ofName_name]; rfl⟩

theorem flagProject_eq_none_iff (h : (init inv demands env).result = .ok c) : 
    c.flagProject = none ↔ inv.flags.project.all Text.isBlank := by
  cases init_eq_ok_iff.mp h
  rw [← Text.verbatim?_eq_none_iff]
  simp only [assemble]
  cases hs : Text.verbatim? inv.flags.project
  case none   => simp
  case some s => 
    have ⟨_, hb⟩ := Text.verbatim?_eq_some_iff.mp hs
    simp [ProjectRef.ofName_of_nonblank hb, Except.toOption]

theorem flagProject_eq_none (h : (init inv demands env).result = .ok c) 
    (hb : inv.flags.project.all Text.isBlank) : c.flagProject = none :=
  (flagProject_eq_none_iff h).mpr hb

theorem flagApp_eq (h : (init inv demands env).result = .ok c) : 
    c.flagApp = Text.verbatim? inv.flags.app := by
  cases init_eq_ok_iff.mp h
  rfl

theorem remote_eq (h : (init inv demands env).result = .ok c) : c.remote = inv.flags.remote := by
  cases init_eq_ok_iff.mp h
  rfl

end Rollout.CommandContext
