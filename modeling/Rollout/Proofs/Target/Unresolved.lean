import Rollout.Proofs.ProjectConfig
import Rollout.Proofs.Target
import Rollout.Proofs.Text.Blank
namespace Rollout.Target

-- The configuration is looked for whatever the arguments are, or because they name no target.
def Searches (mode : TargetMode) (policy : ConfigPolicy) (args : List String) : Prop :=
  policy ≠ .skip ∨ mode ≠ .free ∧ ¬Names mode args

-- A command needs an app, and its first argument names none.
structure LacksApp (mode : TargetMode) (args : List String) : Prop where
  required : mode = .appRequired
  unnamed  : ¬Names mode args

-- The reasons why there is no target. Nothing else keeps a command from finding one.
inductive Unresolved (mode : TargetMode) (policy : ConfigPolicy) (flags : TargetFlags) 
    (search : Except Failure (Option LoadedConfig)) (args : List String) : TargetError → Prop
  | config {f} (searches : Searches mode policy args) (broken : search = .error f) : 
    Unresolved mode policy flags search args (.config f)
  | noConfig (searches : Searches mode policy args) (missing : search = .ok none) 
    (needed : policy ≠ .loadOptional ∨ LacksApp mode args) : 
    Unresolved mode policy flags search args .noConfig
  | noApps {loaded} (lacks : LacksApp mode args) (unflagged : flags.app.all Text.isBlank) 
    (found : search = .ok (some loaded)) (empty : loaded.config.apps = []) :
    Unresolved mode policy flags search args 
      (.noApps ((Text.given? flags.project).getD loaded.config.project))
  | ambiguousApp {loaded} (lacks : LacksApp mode args) (unflagged : flags.app.all Text.isBlank) 
    (found : search = .ok (some loaded)) (several : 2 ≤ loaded.config.apps.length) : 
    Unresolved mode policy flags search args (.ambiguousApp loaded.config.apps)

variable {mode : TargetMode} {policy : ConfigPolicy} {flags : TargetFlags}
variable {search : Except Failure (Option LoadedConfig)} {args : List String}
variable {loaded : LoadedConfig} {c : ProjectConfig} {p : ProjectRef} {e : TargetError} {f : Failure}

theorem LacksApp.searches (h : LacksApp mode args) : Searches mode policy args :=
  .inr ⟨by simp [h.required], h.unnamed⟩ 

-- Neither a flag nor a configuration that has been checked leads to a name that is blank.
theorem exists_configured (flags : TargetFlags) (h : c.Valid) : ∃ p, configured flags c = .ok p := by
  have hb : Text.isBlank ((Text.given? flags.project).getD c.project) = false := by
    cases hg : Text.given? flags.project
    case none => exact Segment.not_isBlank_of_valid h.project
    case some => exact Text.not_isBlank_of_given? hg
  exact ⟨⟨_, hb⟩, configured_eq_ok_iff.mpr rfl⟩ 

theorem two_le_length {α : Type} {l : List α} (nonempty : l ≠ []) (several : ∀ a, l ≠ [a]) : 2 ≤ l.length := by
  match l with
  | []         => contradiction
  | [a]        => exact absurd rfl (several a)
  | _ :: _ :: _ => exact Nat.le_add_left _ _

theorem implied_eq_error_iff (h : c.Valid) : 
    implied mode flags c p = .error e ↔ 
      mode = .appRequired ∧ flags.app.all Text.isBlank ∧ 
        (c.apps = [] ∧ e = .noApps p.name ∨ 2 ≤ c.apps.length ∧ e = .ambiguousApp c.apps) := by
  rw [← Text.given?_eq_none_iff]
  by_cases hm : mode = .appRequired
  case neg => simp [implied_of_not_appRequired hm, hm]
  case pos =>
    subst hm
    simp only [implied, ne_eq, not_true_eq_false, if_false]
    split
    case h_1 name hg     => simp [p.app_of_nonblank (Text.not_isBlank_of_given? hg), hg]
    case h_2 only hg hc  =>
      have hv := h.apps only (hc ▸ List.mem_cons_self)
      simp [p.app_of_nonblank (Segment.not_isBlank_of_valid hv), hg, hc]
    case h_3 hg hc       => simp [hg, hc, eq_comm]
    case h_4 hg one none =>
      have nonempty : c.apps ≠ [] := none
      have several : 2 ≤ c.apps.length := two_le_length nonempty one
      simp [hg, several, nonempty, eq_comm]

section

-- What the first argument names.
variable {t? : Option Target} (positional : positional? mode args = .ok t?)
include positional

theorem eq_none_iff : t? = none ↔ ¬Names mode args := by
  rw [names_iff, not_exists, ← positional?_eq_none_iff, positional, Except.ok.injEq]

theorem needsConfig_iff : needsConfig mode policy t? ↔ Searches mode policy args := by
  simp [needsConfig, Searches, ← eq_none_iff positional]

theorem lacksApp_iff : LacksApp mode args ↔ mode = .appRequired ∧ t? = none := by
  rw [eq_none_iff positional]
  exact ⟨fun h => ⟨h.required, h.unnamed⟩, fun ⟨hm, hn⟩ => ⟨hm, hn⟩⟩ 

theorem needed_iff : (policy ≠ .loadOptional ∨ LacksApp mode args) ↔ 
    ¬(policy = .loadOptional && (mode ≠ .appRequired || t?.isSome)) = true := by
  rw [lacksApp_iff positional]
  cases t? <;> simp [imp_iff_not_or]

theorem resolve_of_not_searches (h : ¬Searches mode policy args) : 
    resolve mode policy flags search args = pure (answer args none t?) := by
  have hn : needsConfig mode policy t? = false := by
    simpa only [Bool.not_eq_true] using (needsConfig_iff positional).not.mpr h
  simp only [resolve_eq positional, resolveFrom, hn, Bool.not_false, if_true]

theorem resolve_of_error (h : Searches mode policy args) : 
    resolve mode policy flags (.error f) args = ⟨[.askedConfig], .error (.config f)⟩ := by
  simp only [resolve_eq positional, resolveFrom, (needsConfig_iff positional).mpr h]
  rfl

theorem resolve_of_none (h : Searches mode policy args) : 
    resolve mode policy flags (.ok none) args = 
      ⟨[.askedConfig], if policy = .loadOptional && (mode ≠ .appRequired || t?.isSome) 
        then .ok (answer args none t?) else .error .noConfig⟩ := by
  simp only [resolve_eq positional, resolveFrom, (needsConfig_iff positional).mpr h, Bool.not_true, 
    Bool.false_eq_true, if_false, Traced.mapError_bind_of_ok (Traced.result_asked _ _), 
    Traced.events_asked]
  split <;> rfl

theorem resolve_of_some (h : Searches mode policy args) (hc : configured flags loaded.config = .ok p) : 
    resolve mode policy flags (.ok (some loaded)) args = 
      ⟨[.askedConfig], match t? with
        | some t => .ok ⟨t, true, args.tail, some loaded⟩ 
        | none   => (implied mode flags loaded.config p).map (⟨·, false, args, some loaded⟩)⟩ := by
  simp only [resolve_eq positional, resolveFrom, (needsConfig_iff positional).mpr h, Bool.not_true, 
    Bool.false_eq_true, if_false, Traced.mapError_bind_of_ok (Traced.result_asked _ _), 
    Traced.events_asked, hc, Traced.of_ok_bind]
  cases t?
  case some => rfl
  case none => cases implied mode flags loaded.config p <;> rfl

end

theorem result_of_lacksApp (h : LacksApp mode args) (hc : configured flags loaded.config = .ok p) 
    (hi : implied mode flags loaded.config p = .error e) : 
    (resolve mode policy flags (.ok (some loaded)) args).result = .error e := by
  rw [resolve_of_some (positional?_of_unnamed h.unnamed) h.searches hc, hi]
  rfl

theorem unresolved_of_loaded (hv : loaded.config.Valid) (hs : Searches mode policy args) 
    (h : (resolve mode policy flags (.ok (some loaded)) args).result = .error e) : 
    Unresolved mode policy flags (.ok (some loaded)) args e := by
  have ⟨p, hc⟩ := exists_configured flags hv
  have ⟨t?, hp⟩ := exists_positional? mode args
  rw [resolve_of_some hp hs hc] at h
  cases t?
  case some => contradiction
  case none =>
    have hi : implied mode flags loaded.config p = .error e := Except.map_eq_error_iff.mp h
    obtain ⟨hm, ha, ⟨he, rfl⟩ | ⟨ht, rfl⟩⟩ := (implied_eq_error_iff hv).mp hi
    case inl =>
      rw [configured_eq_ok_iff.mp hc]
      exact .noApps ((lacksApp_iff hp).mpr ⟨hm, rfl⟩) ha rfl he
    case inr => exact .ambiguousApp ((lacksApp_iff hp).mpr ⟨hm, rfl⟩) ha rfl ht

section

-- Whatever is found has been checked.
variable (valid : ∀ loaded, search = .ok (some loaded) → loaded.config.Valid)
include valid

theorem events_of_searches (h : Searches mode policy args) : 
    (resolve mode policy flags search args).events = [.askedConfig] := by
  have ⟨_, hp⟩ := exists_positional? mode args
  cases search
  case error    => rw [resolve_of_error hp h]
  case ok found =>
    cases found
    case none        => rw [resolve_of_none hp h]
    case some loaded => 
      have ⟨_, hc⟩ := exists_configured flags (valid loaded rfl)
      rw [resolve_of_some hp h hc]

theorem unresolved_of_error (h : (resolve mode policy flags search args).result = .error e) : 
    Unresolved mode policy flags search args e := by
  have ⟨_, hp⟩ := exists_positional? mode args
  by_cases hs : Searches mode policy args
  case neg => 
    rw [resolve_of_not_searches hp hs] at h
    contradiction
  case pos =>
    cases search
    case error    => 
      rw [resolve_of_error hp hs] at h
      cases h
      exact .config hs rfl
    case ok found =>
      cases found
      case some loaded => exact unresolved_of_loaded (valid loaded rfl) hs h
      case none        => 
        rw [resolve_of_none hp hs] at h
        split at h <;> cases h
        case isFalse hn => exact .noConfig hs rfl ((needed_iff hp).mpr hn)

theorem Unresolved.result_resolve (h : Unresolved mode policy flags search args e) : 
    (resolve mode policy flags search args).result = .error e := by
  have ⟨_, positional⟩ := exists_positional? mode args
  cases h
  case config hs hb             => rw [hb, resolve_of_error positional hs]
  case noConfig hs hm hn        => 
    rw [hm, resolve_of_none positional hs, if_neg ((needed_iff positional).mp hn)]
  case noApps hl ha hf he       =>
    have ⟨p, hc⟩ := exists_configured flags (valid _ hf)
    have hi := (implied_eq_error_iff (p := p) (valid _ hf)).mpr ⟨hl.required, ha, .inl ⟨he, rfl⟩⟩ 
    rw [hf, ← configured_eq_ok_iff.mp hc, result_of_lacksApp hl hc hi]
  case ambiguousApp hl ha hf ht =>
    have ⟨p, hc⟩ := exists_configured flags (valid _ hf)
    have hi := (implied_eq_error_iff (p := p) (valid _ hf)).mpr ⟨hl.required, ha, .inr ⟨ht, rfl⟩⟩ 
    rw [hf, result_of_lacksApp hl hc hi]

end

-- The configuration is looked for once if it is needed, and from what is found there it follows whether there 
-- is a target, and if not, why.
theorem resolution_accounted (valid : ∀ loaded, search = .ok (some loaded) → loaded.config.Valid) : 
    let x := resolve mode policy flags search args
    (Searches mode policy args → x.events = [.askedConfig]) ∧ 
    (¬Searches mode policy args → x.events = []) ∧ 
    (∀ e, x.result = .error e ↔ Unresolved mode policy flags search args e) ∧ 
    (∀ e, x.result ≠ .error (.ref e)) ∧ 
    ((∃ r, x.result = .ok r) ↔ ∀ e, ¬Unresolved mode policy flags search args e) := by
  intro x
  have failed e : x.result = .error e ↔ Unresolved mode policy flags search args e :=
    ⟨unresolved_of_error valid, fun h => h.result_resolve valid⟩ 
  refine ⟨events_of_searches valid, fun hs => ?unasked, failed, fun e h => ?ref, ?resolved⟩ 
  case unasked  => 
    have ⟨_, hp⟩ := exists_positional? mode args
    rw [show x = _ from resolve_of_not_searches hp hs, Traced.events_pure]
  case ref      => cases (failed _).mp h
  case resolved =>
    simp only [← failed]
    cases x.result <;> simp

-- The argument names nothing, the flag is blank, and the configuration leaves it open.
theorem resolution_accounted_ambiguous :
    let file : LoadedConfig := ⟨⟨"/shop/deployctl.toml"⟩, ⟨"shop", none, ["web", "worker"]⟩⟩ 
    let flags : TargetFlags := ⟨some "billing", some "\t"⟩ 
    let search : Except Failure (Option LoadedConfig) := .ok (some file)
    let x := resolve .appRequired .skip flags search ["shop/web/extra"]
    file.config.Valid ∧ x.events = [.askedConfig] ∧ 
    x.result = .error (.ambiguousApp ["web", "worker"]) ∧ 
    Unresolved .appRequired .skip flags search ["shop/web/extra"] (.ambiguousApp ["web", "worker"]) := by
  intro file flags search x
  have sound : file.config.Valid := ⟨by decide, by decide, by decide⟩ 
  have valid : ∀ loaded, search = .ok (some loaded) → loaded.config.Valid := by
    intro loaded h
    obtain rfl : file = loaded := Option.some.inj (Except.ok.inj h)
    exact sound
  have lacks : LacksApp .appRequired ["shop/web/extra"] := (lacksApp_iff rfl).mpr ⟨rfl, rfl⟩ 
  have asked : x.events = [.askedConfig] := (resolution_accounted valid).left lacks.searches
  have unresolved : Unresolved .appRequired .skip flags search ["shop/web/extra"] _ := 
    .ambiguousApp lacks (by decide) rfl (by decide)
  exact ⟨sound, asked, ((resolution_accounted valid).right.right.left _).mpr unresolved, unresolved⟩ 

end Rollout.Target
