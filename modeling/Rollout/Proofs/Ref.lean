import Rollout.Ref
import Rollout.Proofs.Segment
namespace Rollout

variable {s t : String}

theorem ProjectRef.ofName_eq_ok_iff {p : ProjectRef} : ofName s = .ok p ↔ p.name = s := by
  unfold ofName
  split
  case isTrue h =>
    simp only [reduceCtorEq, false_iff]
    rintro rfl
    simp [p.nonblank] at h
  case isFalse => simp [ProjectRef.ext_iff, eq_comm]

@[simp]
theorem ProjectRef.ofName_name (p : ProjectRef) : ofName p.name = .ok p :=
  ofName_eq_ok_iff.mpr rfl

theorem ProjectRef.ofName_of_nonblank (h : Text.isBlank s = false) : ofName s = .ok ⟨s, h⟩ :=
  ofName_eq_ok_iff.mpr rfl

theorem WorkspaceRef.ofName_of_nonblank (h : Text.isBlank s = false) : ofName s = .ok ⟨s, h⟩ :=
  dif_neg (by simp [h])

theorem ProjectRef.app_eq_ok_iff {p : ProjectRef} {a : AppRef} :
    p.app s = .ok a ↔ a.project = p.name ∧ a.app = s := by
  unfold ProjectRef.app
  split
  case isTrue h =>
    simp only [reduceCtorEq, false_iff, not_and]
    rintro - rfl
    simp [a.nonblankApp] at h
  case isFalse => simp [AppRef.ext_iff, eq_comm]

theorem ProjectRef.app_of_nonblank (p : ProjectRef) (h : Text.isBlank s = false) : 
    p.app s = .ok ⟨p.name, s, p.nonblank, h⟩ :=
  app_eq_ok_iff.mpr ⟨rfl, rfl⟩

theorem AppRef.ofNames_eq_ok_iff {a : AppRef} : ofNames s t = .ok a ↔ a.project = s ∧ a.app = t := by
  unfold ofNames
  cases h : ProjectRef.ofName s
  case error e =>
    simp only [bind, Except.bind, reduceCtorEq, false_iff, not_and]
    rintro rfl
    have := h ▸ a.projectRef.ofName_name
    contradiction
  case ok p =>
    rw [← ProjectRef.ofName_eq_ok_iff.mp h]
    exact ProjectRef.app_eq_ok_iff

@[simp]
theorem AppRef.ofNames_names (a : AppRef) : ofNames a.project a.app = .ok a :=
  ofNames_eq_ok_iff.mpr ⟨rfl, rfl⟩

-- Two words make up an app.
theorem AppRef.exists_of_valid (hs : Segment.valid s) (ht : Segment.valid t) :
    ∃ a : AppRef, a.project = s ∧ a.app = t :=
  ⟨⟨s, t, Segment.not_isBlank_of_valid hs, Segment.not_isBlank_of_valid ht⟩, rfl, rfl⟩

end Rollout
