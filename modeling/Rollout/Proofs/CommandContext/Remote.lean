import Rollout.Proofs.CommandContext.Prepared
import Rollout.Proofs.Target
namespace Rollout

-- The same invocation, with or without a demand for remote operations.
def Invocation.withRemote (inv : Invocation) (b : Bool) : Invocation :=
  { inv with flags := { inv.flags with remote := b } }

namespace CommandContext

def withRemote (c : CommandContext) (b : Bool) : CommandContext :=
  { c with remote := b }

-- What has to come together for remote operations to be refused.
structure Unsupported (demands : Demands) (flags : Flags) (r : Resolution) : Prop where
  demanded : flags.remote
  required : demands.target ≠ .appOptional
  noApp    : r.target.app? = none
  disabled : ∀ loaded, r.config = some loaded → loaded.config.runnerEnabled = false

variable {inv : Invocation} {demands : Demands} {env : Collaborators} {flags : Flags} {r : Resolution}
variable {e : InitError}

theorem checkRemote_eq_error_iff : 
    checkRemote demands flags r = .error e ↔ e = .remoteUnsupported ∧ Unsupported demands flags r := by
  have disabled : (!r.config.any (·.config.runnerEnabled)) = true ↔ 
      ∀ loaded, r.config = some loaded → loaded.config.runnerEnabled = false := by
    cases r.config <;> simp
  unfold checkRemote
  constructor
  case mp =>
    intro h
    split at h <;> cases h
    case isTrue hc =>
      simp only [Bool.and_eq_true, decide_eq_true_eq, Option.isNone_iff_eq_none, disabled] at hc
      have ⟨⟨⟨hm, hf⟩, ha⟩, hd⟩ := hc
      exact ⟨rfl, hf, hm, ha, hd⟩
  case mpr =>
    rintro ⟨rfl, h⟩
    rw [if_pos]
    simp only [Bool.and_eq_true, decide_eq_true_eq, Option.isNone_iff_eq_none, disabled]
    exact ⟨⟨⟨h.required, h.demanded⟩, h.noApp⟩, h.disabled⟩

-- A command that needs an app has got one by then.
theorem Unsupported.target (h : Unsupported demands flags r) 
    (hr : (resolution inv demands env).result = .ok r) : 
    demands.target = .free ∨ demands.target = .projectRequired := by
  have required := h.required
  cases hd : demands.target
  case free            => exact .inl rfl
  case projectRequired => exact .inr rfl
  case appOptional     => contradiction
  case appRequired     =>
    rw [resolution, hd] at hr
    have := Target.app?_isSome_of_resolve hr
    simp [h.noApp] at this

theorem checkRemote_of_resolved (hd : demands.target = .appOptional ∨ demands.target = .appRequired) 
    (hr : (resolution inv demands env).result = .ok r) (flags : Flags) : 
    checkRemote demands flags r = .ok () := by
  cases hc : checkRemote demands flags r
  case ok    => rfl
  case error =>
    have ht := (checkRemote_eq_error_iff.mp hc).right.target hr
    obtain hd | hd := hd <;> simp [hd] at ht

-- Remote operations are refused at their own stage only: all earlier ones have to pass.
theorem init_eq_remoteUnsupported_iff : 
    (init inv demands env).result = .error .remoteUnsupported ↔ 
      (∀ s < Stage.remote, (work inv demands env s).result = .ok ()) ∧ 
        ∃ r, (resolution inv demands env).result = .ok r ∧ Unsupported demands inv.flags r := by
  rw [init_eq_error_iff]
  constructor
  case mp  =>
    rintro ⟨s, f⟩
    have hr := f.raises
    cases s <;> simp only [Stage.Raises, reduceCtorEq, exists_false, or_self] at hr
    have hf := f.fails
    simp only [work, onceResolved] at hf
    split at hf
    case h_1 r ht => exact ⟨f.passed, r, ht, (checkRemote_eq_error_iff.mp hf).right⟩
    case h_2      => cases hf
  case mpr =>
    rintro ⟨passed, r, ht, hu⟩
    refine ⟨.remote, ?_, passed⟩
    simp only [work, onceResolved, ht, Traced.result_of]
    exact checkRemote_eq_error_iff.mpr ⟨rfl, hu⟩

-- Unless remote operations can be refused, a demand for them is noted and has no other effect.
theorem init_withRemote (inv : Invocation) 
    (hd : demands.target = .appOptional ∨ demands.target = .appRequired) (b : Bool) : 
    init (inv.withRemote b) demands env = (·.withRemote b) <$> init inv demands env := by
  simp only [init, map_bind, map_pure]
  refine Traced.bind_congr_of_ok fun _ _ => Traced.bind_congr_of_ok fun w _ => 
    Traced.bind_congr_of_ok fun r hr => Traced.bind_congr_of_ok fun v _ => ?_
  rw [Traced.result_mapError_eq_ok_iff] at hr
  rw [checkRemote_of_resolved hd hr, checkRemote_of_resolved hd hr]
  rfl

end CommandContext
end Rollout
