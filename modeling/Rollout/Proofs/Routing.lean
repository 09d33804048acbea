import Rollout.Proofs.Trace
import Rollout.Routing
namespace Rollout

-- Nothing that a project says about itself decides where its operations run. It is up to the profiles.
structure Project.Undecided (p : Project) : Prop where
  enabled : p.remoteEnabled
  data    : ∃ data, p.dataSource = some data ∧ data.isRemote
  runner  : p.runner = none

namespace Routing

variable {s : Server} {p : Project} {f : Failure}

theorem decide_of_undecided (h : p.Undecided) (s : Server) : 
    decide s p = do
      let profiles ← Traced.asked .askedProfiles s.profiles
      return if profiles.any (·.isDefault) then .defaultProfile else .noProfile := by
  have ⟨data, hd, hr⟩ := h.data
  simp [decide, h.enabled, hd, hr, h.runner]

theorem decide_of_decided (h : ¬p.Undecided) : ∃ routing, ∀ s, decide s p = pure routing := by
  cases he : p.remoteEnabled
  case false => exact ⟨.disabled, by simp [decide, he]⟩
  case true  =>
    cases hd : p.dataSource
    case none      => exact ⟨.noData, by simp [decide, he, hd]⟩
    case some data =>
      cases hr : data.isRemote
      case false => exact ⟨.localData, by simp [decide, he, hd, hr]⟩
      case true  =>
        cases hp : p.runner
        case none   => exact absurd ⟨he, ⟨data, hd, hr⟩, hp⟩ h
        case some _ => exact ⟨.assignedProfile, by simp [decide, he, hd, hr, hp]⟩

-- Only the profiles are ever asked for by the decision itself, and only once.
theorem events_decide (s : Server) (p : Project) : 
    (decide s p).events = [] ∨ (decide s p).events = [.askedProfiles] := by
  by_cases h : p.Undecided
  case neg => 
    have ⟨_, hr⟩ := decide_of_decided h
    exact .inl (by rw [hr, Traced.events_pure])
  case pos =>
    rw [decide_of_undecided h]
    cases hs : s.profiles
    case error => exact .inr rfl
    case ok    => exact .inr rfl

theorem eq_askedProfiles (s : Server) (p : Project) : ∀ ev ∈ (decide s p).events, ev = .askedProfiles := by
  obtain he | he := events_decide s p <;> simp [he]

theorem decide_eq_error_iff : (decide s p).result = .error f ↔ p.Undecided ∧ s.profiles = .error f := by
  by_cases h : p.Undecided
  case neg => 
    have ⟨_, hr⟩ := decide_of_decided h
    simp [hr, h]
  case pos => 
    rw [decide_of_undecided h, Traced.result_bind_eq_error_iff]
    simp [h]

end Routing

namespace Server

-- A server that is asked about a project finds it able to run remotely.
def RunsRemotely (s : Server) (p : ProjectRef) : Prop :=
  ∃ project routing, s.project p = .ok project ∧ (Routing.decide s project).result = .ok routing ∧ 
    routing.mode = .remote

theorem runsRemotely_iff {s : Server} {p : ProjectRef} {project : Project} {routing : Routing} 
    (hp : s.project p = .ok project) (hr : (Routing.decide s project).result = .ok routing) : 
    s.RunsRemotely p ↔ routing.mode = .remote := by
  constructor
  case mp  =>
    intro ⟨project', routing', hp', hr', hm⟩
    cases hp ▸ hp'
    cases hr ▸ hr'
    exact hm
  case mpr => exact fun hm => ⟨project, routing, hp, hr, hm⟩

end Server
end Rollout
