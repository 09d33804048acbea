import Rollout.Target
import Rollout.Proofs.Ref
import Rollout.Proofs.Trace
namespace Rollout.Target

variable {mode : TargetMode} {policy : ConfigPolicy} {flags : TargetFlags}
variable {search : Except Failure (Option LoadedConfig)} {args : List String} {r : Resolution}

theorem app?_eq_some_iff {t : Target} {a : AppRef} : t.app? = some a ↔ t = .app a := by
  cases t <;> simp [app?]

theorem project?_of_app? {t : Target} {a : AppRef} (h : t.app? = some a) : 
    t.project? = some a.projectRef := by
  rw [app?_eq_some_iff.mp h, project?]

-- The first argument of a command names a target: an app by two words and a slash or, for a command that 
-- also takes projects, a project by any text that is not blank.
inductive Names (mode : TargetMode) : List String → Prop
  | app {p n rest} (takes : mode ≠ .free) (project : Segment.valid p) (app : Segment.valid n) : 
    Names mode ((p ++ "/" ++ n) :: rest)
  | project {first rest} (takes : mode = .appOptional) (nonblank : Text.isBlank first = false) : 
    Names mode (first :: rest)

-- The target that it names. What can be taken for an app is not taken for a project.
inductive Named (mode : TargetMode) : List String → Target → Prop
  | app {p n rest a} (takes : mode ≠ .free) (project : Segment.valid p) (app : Segment.valid n) 
    (ref : a.project = p ∧ a.app = n) : Named mode ((p ++ "/" ++ n) :: rest) (.app a)
  | project {first rest p} (takes : mode = .appOptional) (nonblank : Text.isBlank first = false) 
    (noApp : ∀ q n, Segment.valid q → Segment.valid n → first ≠ q ++ "/" ++ n) (ref : p.name = first) : 
    Named mode (first :: rest) (.project p)

theorem Named.of_text {a : AppRef} (hm : mode ≠ .free) (hp : Segment.valid a.project) 
    (ha : Segment.valid a.app) : Named mode (a.text :: rest) (.app a) :=
  .app hm hp ha ⟨rfl, rfl⟩ 

theorem names_iff : Names mode args ↔ ∃ t, Named mode args t := by
  constructor
  case mp =>
    intro h
    cases h
    case app p n rest hm hp hn       => 
      have ⟨a, ha⟩ := AppRef.exists_of_valid hp hn
      exact ⟨.app a, .app hm hp hn ha⟩ 
    case project first rest hm hb =>
      by_cases ha : ∃ p n, Segment.valid p ∧ Segment.valid n ∧ first = p ++ "/" ++ n
      case pos =>
        obtain ⟨p, n, hp, hn, rfl⟩ := ha
        have ⟨a, ha⟩ := AppRef.exists_of_valid hp hn
        exact ⟨.app a, .app (by simp [hm]) hp hn ha⟩
      case neg => 
        refine ⟨.project ⟨first, hb⟩, .project hm hb (fun p n hp hn he => ?_) rfl⟩ 
        exact ha ⟨p, n, hp, hn, he⟩
  case mpr =>
    rintro ⟨_, h⟩ 
    cases h
    case app hm hp hn _         => exact .app hm hp hn
    case project hm hb _ _ => exact .project hm hb

theorem positional?_of_unnamed (h : ¬Names mode args) : positional? mode args = .ok none := by
  unfold positional?
  split
  case h_1 => rfl
  case h_2 first rest =>
    split
    case h_1 => rfl
    case h_2 p n hm hr =>
      have ⟨hf, hp, hn⟩ := TargetText.read_eq_app_iff.mp hr
      exact absurd (hf ▸ .app (hm ·) hp hn) h
    case h_3 =>
      have hb : Text.isBlank first := Bool.of_not_eq_false fun hb => h (.project rfl hb)
      rw [if_pos hb]
      rfl
    case h_4 => rfl

-- Words are not blank, and so nothing that an argument names is refused.
theorem Named.positional?_eq (h : Named mode args t) : positional? mode args = .ok (some t) := by
  cases h
  case app p n rest a hm hp hn ha => 
    have read : TargetText.read (p ++ "/" ++ n) = .app p n := 
      TargetText.read_eq_app_iff.mpr ⟨rfl, hp, hn⟩ 
    have ofNames : AppRef.ofNames p n = .ok a := AppRef.ofNames_eq_ok_iff.mpr ha
    cases mode
    case free => contradiction
    all_goals simp only [positional?, read, ofNames]; rfl
  case project first rest p hm hb hn hp =>
    have ofName : ProjectRef.ofName first = .ok p := ProjectRef.ofName_eq_ok_iff.mpr hp
    simp only [positional?, hm]
    split
    case h_1     => contradiction
    case h_2 hr _ =>
      have ⟨ht, hp, hn'⟩ := TargetText.read_eq_app_iff.mp hr
      exact absurd ht (hn _ _ hp hn')
    case h_3 => simp only [hb, ofName]; rfl
    case h_4 => contradiction

theorem exists_positional? (mode : TargetMode) (args : List String) : 
    ∃ t?, positional? mode args = .ok t? := by
  by_cases h : Names mode args
  case pos =>
    have ⟨t, h⟩ := names_iff.mp h
    exact ⟨some t, h.positional?_eq⟩
  case neg => exact ⟨none, positional?_of_unnamed h⟩

theorem named_of_positional? (h : positional? mode args = .ok (some t)) : Named mode args t := by
  by_cases hn : Names mode args
  case pos =>
    have ⟨t', n⟩ := names_iff.mp hn
    cases n.positional?_eq.symm.trans h
    exact n
  case neg => cases (positional?_of_unnamed hn).symm.trans h

theorem positional?_eq_some_iff : positional? mode args = .ok (some t) ↔ Named mode args t :=
  ⟨named_of_positional?, Named.positional?_eq⟩

theorem positional?_eq_none_iff : positional? mode args = .ok none ↔ ∀ t, ¬Named mode args t := by
  have ⟨t?, h⟩ := exists_positional? mode args
  simp only [← positional?_eq_some_iff, h]
  cases t? <;> simp

namespace Named

variable {t t₁ t₂ : Target}

theorem unique (h₁ : Named mode args t₁) (h₂ : Named mode args t₂) : t₁ = t₂ :=
  Option.some.inj <| Except.ok.inj <| h₁.positional?_eq ▸ h₂.positional?_eq

theorem project?_isSome (h : Named mode args t) : t.project?.isSome := by
  cases h <;> rfl

theorem app?_isSome (h : Named .appRequired args t) : t.app?.isSome := by
  cases h
  case app     => rfl
  case project => contradiction

end Named

theorem configured_eq_ok_iff {c : ProjectConfig} {p : ProjectRef} : 
    configured flags c = .ok p ↔ p.name = (Text.given? flags.project).getD c.project := by
  rw [configured, Traced.mapError_eq_ok_iff, ProjectRef.ofName_eq_ok_iff]

theorem implied_of_not_appRequired {c : ProjectConfig} {p : ProjectRef} (h : mode ≠ .appRequired) : 
    implied mode flags c p = .ok (.project p) := by
  simp [implied, h]

theorem implied_appRequired_eq_ok {c : ProjectConfig} {p : ProjectRef} 
    (h : implied .appRequired flags c p = .ok t) : 
    ∃ a : AppRef, t = .app a ∧ a.project = p.name ∧ 
      (Text.given? flags.app = some a.app ∨ Text.given? flags.app = none ∧ c.apps = [a.app]) := by
  simp only [implied, ne_eq, not_true_eq_false, if_false] at h
  split at h
  case h_1 name hn =>
    cases ha : p.app name <;> rw [ha] at h <;> cases h
    case ok a =>
      have ⟨hp, ha⟩ := ProjectRef.app_eq_ok_iff.mp ha
      exact ⟨a, rfl, hp, .inl (ha ▸ hn)⟩
  case h_2 only hn hc =>
    cases ha : p.app only <;> rw [ha] at h <;> cases h
    case ok a =>
      have ⟨hp, ha⟩ := ProjectRef.app_eq_ok_iff.mp ha
      exact ⟨a, rfl, hp, .inr ⟨hn, ha ▸ hc⟩⟩
  all_goals contradiction

section

variable {c : ProjectConfig} {p : ProjectRef}

theorem name_of_implied (h : implied mode flags c p = .ok t) : t.project?.map (·.name) = some p.name := by
  by_cases hm : mode = .appRequired
  case pos =>
    have ⟨a, ht, hp, _⟩ := implied_appRequired_eq_ok (hm ▸ h)
    simp [ht, project?, AppRef.projectRef, hp]
  case neg =>
    cases implied_of_not_appRequired hm ▸ h
    rfl

theorem app_of_implied (h : implied mode flags c p = .ok (.app a)) : 
    mode = .appRequired ∧ 
      (Text.given? flags.app = some a.app ∨ Text.given? flags.app = none ∧ c.apps = [a.app]) := by
  by_cases hm : mode = .appRequired
  case pos =>
    have ⟨a, ht, _, ha⟩ := implied_appRequired_eq_ok (hm ▸ h)
    cases ht
    exact ⟨hm, ha⟩
  case neg => cases implied_of_not_appRequired hm ▸ h

theorem app?_isSome_of_implied (h : implied .appRequired flags c p = .ok t) : t.app?.isSome := by
  have ⟨_, ht, _⟩ := implied_appRequired_eq_ok h
  simp [ht, app?]

end

-- The ways in which a target is found, and what has to be known for each of them.
inductive Found (mode : TargetMode) (policy : ConfigPolicy) (flags : TargetFlags) 
    (search : Except Failure (Option LoadedConfig)) (args : List String) : Resolution → Prop
  | named {t config} (positional : positional? mode args = .ok (some t)) 
    (asked : if needsConfig mode policy (some t) then search = .ok config else config = none) : 
    Found mode policy flags search args ⟨t, true, args.tail, config⟩
  | nothing (positional : positional? mode args = .ok none) (mode_ne : mode ≠ .appRequired)
    (asked : needsConfig mode policy none → search = .ok none) : 
    Found mode policy flags search args ⟨.nothing, false, args, none⟩
  | implied {c p t} (positional : positional? mode args = .ok none) (asked : search = .ok (some c)) 
    (configured : configured flags c.config = .ok p) (implied : implied mode flags c.config p = .ok t) :
    Found mode policy flags search args ⟨t, false, args, some c⟩

theorem resolve_eq {t? : Option Target} (h : positional? mode args = .ok t?) : 
    resolve mode policy flags search args = resolveFrom mode policy flags search args t? := by
  rw [resolve, h]
  rfl

theorem found_of_resolve (h : (resolve mode policy flags search args).result = .ok r) :
    Found mode policy flags search args r := by
  have ⟨t?, hp⟩ := exists_positional? mode args
  rw [resolve_eq hp] at h
  unfold resolveFrom at h
  cases t? <;> split at h
  case none.isTrue hn =>
    cases h
    refine .nothing hp ?_ ?_ <;> simp_all [needsConfig]
  case some.isTrue hn =>
    cases h
    exact .named hp (by simp_all)
  all_goals
    have ⟨config, hs, h⟩ := Traced.result_bind_eq_ok_iff.mp h
    rw [Traced.result_mapError_eq_ok_iff, Traced.result_asked] at hs
  case none.isFalse hn => 
    split at h
    case h_1 c =>
      have ⟨p, hc, h⟩ := Traced.result_bind_eq_ok_iff.mp h
      have ⟨t, ht, h⟩ := Traced.result_bind_eq_ok_iff.mp h
      cases h
      exact .implied hp hs hc ht
    case h_2 =>
      split at h <;> cases h
      case isTrue hm => exact .nothing hp (by simp_all) fun _ => hs
  case some.isFalse hn => 
    split at h
    case h_1 c =>
      have ⟨p, hc, h⟩ := Traced.result_bind_eq_ok_iff.mp h
      cases h
      exact .named hp (by simp_all)
    case h_2 =>
      split at h <;> cases h
      exact .named hp (by simp_all)

-- A command that needs an app gets one, or it does not start.
theorem app?_isSome_of_resolve (h : (resolve .appRequired policy flags search args).result = .ok r) : 
    r.target.app?.isSome := by
  cases found_of_resolve h
  case named hp _        => exact (named_of_positional? hp).app?_isSome
  case nothing _ hm _    => contradiction
  case implied _ _ _ hi  => exact app?_isSome_of_implied hi

-- Without such an argument the flags and the configuration decide.
theorem implied_of_resolve {loaded : LoadedConfig} (hn : ∀ t, ¬Named mode args t) 
    (h : (resolve mode policy flags search args).result = .ok r) (hc : r.config = some loaded) : 
    search = .ok (some loaded) ∧ 
      ∃ p, configured flags loaded.config = .ok p ∧ r.target.project? = some p := by
  cases found_of_resolve h
  case named hp _         => exact absurd (named_of_positional? hp) (hn _)
  case nothing            => contradiction
  case implied _ hs hp hi =>
    cases hc
    have ⟨_, ht, he⟩ := Option.map_eq_some_iff.mp (name_of_implied hi)
    exact ⟨hs, _, hp, ProjectRef.ext he ▸ ht⟩

theorem resolve_of_implied {loaded : LoadedConfig} {p : ProjectRef} (hn : ∀ t, ¬Named mode args t) 
    (hm : needsConfig mode policy none) (hs : search = .ok (some loaded)) 
    (hc : configured flags loaded.config = .ok p) (hi : implied mode flags loaded.config p = .ok t) : 
    (resolve mode policy flags search args).result = .ok ⟨t, false, args, some loaded⟩ := by
  rw [resolve_eq (positional?_eq_none_iff.mpr hn)]
  simp only [resolveFrom, hm, hs, Bool.not_true, Bool.false_eq_true, if_false, 
    Traced.result_bind_eq_ok_iff, Traced.result_mapError_eq_ok_iff, Traced.result_asked]
  refine ⟨_, rfl, ?_⟩
  simp only [Option.isSome_none, Bool.false_eq_true, if_false, Traced.result_bind_eq_ok_iff, 
    Traced.result_of, Traced.result_pure]
  exact ⟨p, hc, t, hi, rfl⟩

-- An argument that names the target is all that decides about it.
theorem resolve_of_named (n : Named mode args t) 
    (h : (resolve mode policy flags search args).result = .ok r) : 
    r.target = t ∧ r.explicit ∧ r.args = args.tail := by
  have hn := n.positional?_eq
  cases found_of_resolve h
  case named hp _       => exact ⟨Option.some.inj <| Except.ok.inj <| hp ▸ hn, rfl, rfl⟩
  case nothing hp _ _   => cases hp.symm.trans hn
  case implied hp _ _ _ => cases hp.symm.trans hn

end Rollout.Target
