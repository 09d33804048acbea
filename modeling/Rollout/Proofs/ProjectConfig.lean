import Rollout.ProjectConfig
import Rollout.Proofs.Trace
import Rollout.Proofs.Except
namespace Rollout

namespace ProjectConfig

variable {c : ProjectConfig} {cause : Cause} {seen names : List String} {t t' : FileTree} {p : Path}

-- Names of apps that can be declared together.
structure Declarable (names : List String) : Prop where
  valid    : ∀ name ∈ names, Segment.valid name
  distinct : names.Nodup

-- What a configuration is refused for: the first thing in it that is wrong.
inductive Fault (c : ProjectConfig) : Cause → Prop
  | project (invalid : Segment.valid c.project = false) : Fault c (.projectName c.project)
  | app {before name after} (project : Segment.valid c.project) (apps : c.apps = before ++ name :: after)
    (sound : Declarable before) (invalid : Segment.valid name = false) : Fault c (.appName name)
  | repeated {before name after} (project : Segment.valid c.project) 
    (apps : c.apps = before ++ name :: after) (sound : Declarable before) (again : name ∈ before) : 
    Fault c (.repeatedApp name)

theorem checkApps_eq_ok_iff : 
    checkApps seen names = .ok () ↔ Declarable names ∧ ∀ name ∈ names, name ∉ seen := by
  induction names generalizing seen
  case nil => exact iff_of_true rfl ⟨⟨nofun, .nil⟩, nofun⟩
  case cons name rest hi =>
    unfold checkApps
    split
    case isTrue hv  =>
      refine iff_of_false nofun fun ⟨⟨hn, _⟩, _⟩ => ?_
      simp [hn name List.mem_cons_self] at hv
    case isFalse hv =>
      split
      case isTrue hs  => exact iff_of_false nofun fun ⟨_, hn⟩ => hn name List.mem_cons_self hs
      case isFalse hs =>
        rw [hi]
        simp only [Bool.not_eq_true', Bool.not_eq_false] at hv
        constructor
        case mp  =>
          intro ⟨⟨hr, hd⟩, hn⟩
          have hm : name ∉ rest := fun hm => hn name hm List.mem_cons_self
          refine ⟨⟨List.forall_mem_cons.mpr ⟨hv, hr⟩, List.nodup_cons.mpr ⟨hm, hd⟩⟩, ?_⟩
          exact List.forall_mem_cons.mpr ⟨hs, fun n h => mt (List.mem_cons_of_mem _) (hn n h)⟩
        case mpr =>
          intro ⟨⟨hr, hd⟩, hn⟩
          have ⟨hm, hd⟩ := List.nodup_cons.mp hd
          refine ⟨⟨(List.forall_mem_cons.mp hr).right, hd⟩, fun n h => ?_⟩
          rw [List.mem_cons, not_or]
          exact ⟨fun he => hm (he ▸ h), (List.forall_mem_cons.mp hn).right n h⟩

-- The apps in front of the first fault have been seen by the time it is found.
theorem exists_of_checkApps (h : checkApps seen names = .error cause) : 
    ∃ before name after, names = before ++ name :: after ∧ checkApps seen before = .ok () ∧ 
      (Segment.valid name = false ∧ cause = .appName name ∨ 
        (name ∈ seen ∨ name ∈ before) ∧ cause = .repeatedApp name) := by
  induction names generalizing seen
  case nil => nomatch h
  case cons name rest hi =>
    unfold checkApps at h
    split at h
    case isTrue hv  =>
      cases h
      exact ⟨[], name, rest, rfl, rfl, .inl ⟨by simpa using hv, rfl⟩⟩
    case isFalse hv =>
      split at h
      case isTrue hs  =>
        cases h
        exact ⟨[], name, rest, rfl, rfl, .inr ⟨.inl hs, rfl⟩⟩
      case isFalse hs =>
        obtain ⟨before, other, after, rfl, hb, hf⟩ := hi h
        refine ⟨name :: before, other, after, rfl, by rw [checkApps, if_neg hv, if_neg hs, hb], ?_⟩
        simpa only [List.mem_cons, or_assoc, or_comm, or_left_comm] using hf

theorem validate_eq_ok_iff : c.validate = .ok () ↔ c.Valid := by
  unfold validate
  split
  case isTrue hp  => exact iff_of_false nofun fun h => by simp [h.project] at hp
  case isFalse hp =>
    rw [checkApps_eq_ok_iff]
    constructor
    case mp  => exact fun ⟨h, _⟩ => ⟨by simpa using hp, h.valid, h.distinct⟩
    case mpr => exact fun h => ⟨⟨h.apps, h.distinct⟩, fun _ _ => List.not_mem_nil⟩

theorem fault_of_validate (h : c.validate = .error cause) : c.Fault cause := by
  unfold validate at h
  split at h
  case isTrue hp  =>
    cases h
    exact .project (by simpa using hp)
  case isFalse hp =>
    have hp : Segment.valid c.project := by simpa using hp
    obtain ⟨before, name, after, ha, hb, hf⟩ := exists_of_checkApps h
    have ⟨hb, _⟩ := checkApps_eq_ok_iff.mp hb
    obtain ⟨hv, rfl⟩ | ⟨hm, rfl⟩ := hf
    case inl => exact .app hp ha hb hv
    case inr => exact .repeated hp ha hb (by simpa using hm)

-- Apps that can be declared are passed over one by one.
theorem checkApps_append (hd : Declarable names) (hs : ∀ name ∈ names, name ∉ seen) (rest : List String) : 
    checkApps seen (names ++ rest) = checkApps (names.reverse ++ seen) rest := by
  induction names generalizing seen
  case nil => rfl
  case cons name names hi =>
    have ⟨hv, hr⟩ := List.forall_mem_cons.mp hd.valid
    have ⟨hm, hd⟩ := List.nodup_cons.mp hd.distinct
    have ⟨hn, hs⟩ := List.forall_mem_cons.mp hs
    have hs : ∀ n ∈ names, n ∉ name :: seen := by
      intro n h
      rw [List.mem_cons, not_or]
      exact ⟨fun he => hm (he ▸ h), hs n h⟩
    rw [List.cons_append, checkApps, if_neg (by simp [hv]), if_neg hn, hi ⟨hr, hd⟩ hs, List.reverse_cons, 
      List.append_assoc, List.singleton_append]

theorem validate_of_project (h : Segment.valid c.project) : c.validate = checkApps [] c.apps :=
  if_neg (by simp [h])

theorem validate_of_fault (h : c.Fault cause) : c.validate = .error cause := by
  cases h
  case project hp             => exact if_pos (by simp [hp])
  case app hp ha hd hn        => 
    rw [validate_of_project hp, ha, checkApps_append hd (fun _ _ => List.not_mem_nil), checkApps, 
      if_pos (by simp [hn])]
  case repeated hp ha hd hm   => 
    rw [validate_of_project hp, ha, checkApps_append hd (fun _ _ => List.not_mem_nil), checkApps, 
      if_neg (by simp [hd.valid _ hm]), if_pos (by simpa using hm)]

theorem Fault.not_valid (h : c.Fault cause) : ¬c.Valid := fun hv =>
  nomatch (validate_of_fault h).symm.trans (validate_eq_ok_iff.mpr hv)

theorem save_of_validate (h : c.validate = .error cause) (t : FileTree) (p : Path) : 
    save t p c = (t, .error (.of cause)) := by
  simp only [save, h]

-- A failure leaves everything as it is.
theorem save_eq_error_iff (h : c.Valid) {f : Failure} : save t p c = (t', .error f) ↔ 
    t' = t ∧ ∃ e, t.write p c.text = .error e ∧ f = ⟨[.write p], .file e⟩ := by
  simp only [save, validate_eq_ok_iff.mpr h]
  cases t.write p c.text <;> simp [eq_comm]

-- What has been written by saving a configuration.
theorem save_eq_ok_iff : save t p c = (t', .ok ()) ↔ c.Valid ∧ t.write p c.text = .ok t' := by
  rw [← validate_eq_ok_iff]
  unfold save
  cases c.validate
  case error => simp
  case ok    => cases t.write p c.text <;> simp

theorem load_eq_ok_iff : load t p = .ok c ↔ 
    ∃ text, t.read p = .ok text ∧ parse text = .ok c ∧ c.Valid := by
  simp only [load, Except.bind_eq_ok_iff, Failure.because, Failure.during, 
    Traced.mapError_eq_ok_iff, Except.pure_eq, Except.ok.injEq]
  constructor
  case mp  =>
    rintro ⟨text, hr, _, hp, _, hv, rfl⟩
    exact ⟨text, hr, hp, validate_eq_ok_iff.mp hv⟩
  case mpr =>
    rintro ⟨text, hr, hp, hv⟩
    exact ⟨text, hr, c, hp, (), validate_eq_ok_iff.mpr hv, rfl⟩

end ProjectConfig

-- Whatever is found has been checked.
theorem LoadedConfig.valid_of_search {t : FileTree} {start : Path} {loaded : LoadedConfig} 
    (h : search t start = .ok (some loaded)) : loaded.config.Valid := by
  unfold search at h
  split at h
  case h_1     => cases h
  case h_2 p _ =>
    cases hl : ProjectConfig.load t p <;> rw [hl] at h <;> cases h
    case ok =>
      have ⟨_, _, _, valid⟩ := ProjectConfig.load_eq_ok_iff.mp hl
      exact valid

end Rollout

