import Rollout.Proofs.Target
import Rollout.Proofs.Text.Blank
namespace Rollout.Target

variable {mode : TargetMode} {policy : ConfigPolicy} {flags : TargetFlags}
variable {search : Except Failure (Option LoadedConfig)} {args : List String} {r : Resolution}

-- What a resolution takes from which source: an argument that names the target comes first, then 
-- come the flags, and last comes the configuration.
structure Precedence (mode : TargetMode) (policy : ConfigPolicy) (flags : TargetFlags) 
    (search : Except Failure (Option LoadedConfig)) (args : List String) (r : Resolution) : Prop where
  -- The argument decides alone and is not handed on.
  named     : ∀ t, Named mode args t → 
    r.target.project? = t.project? ∧ r.target.app? = t.app? ∧ r.explicit ∧ r.args = args.tail
  unnamed   : (∀ t, ¬Named mode args t) → r.explicit = false ∧ r.args = args
  project   : (∀ t, ¬Named mode args t) → 
    r.target.project?.map (·.name) = r.config.map fun c => 
      flags.project.elim c.config.project fun s => 
        if Text.isBlank s then c.config.project else Text.trim s
  app       : (∀ t, ¬Named mode args t) → ∀ a, r.target.app? = some a → 
    mode = .appRequired ∧ 
      ((∃ s, flags.app = some s ∧ Text.isBlank s = false ∧ Text.trim s = a.app) ∨ 
        flags.app.all Text.isBlank ∧ ∃ c, r.config = some c ∧ c.config.apps = [a.app])
  required  : mode = .appRequired → r.target.app?.isSome
  inside    : ∀ a, r.target.app? = some a → r.target.project?.map (·.name) = some a.project
  reachable : r.explicit → r.target.project?.isSome
  loaded    : ∀ c, r.config = some c → search = .ok (some c)
  -- Unless it was not looked for, a configuration is missing only if there is none.
  missing   : r.config = none → 
    search = .ok none ∨ policy = .skip ∧ (mode = .free ∨ ∃ t, Named mode args t)

theorem project_of_configured {c : ProjectConfig} {p : ProjectRef} (h : configured flags c = .ok p) : 
    p.name = flags.project.elim c.project fun s => 
      if Text.isBlank s then c.project else Text.trim s := by
  rw [configured_eq_ok_iff.mp h]
  cases flags.project
  case none   => rfl
  case some s => cases hs : Text.isBlank s <;> simp [Text.given?, Option.filter, hs]

namespace Precedence

theorem of_named (n : Named mode args t) 
    (ha : if needsConfig mode policy (some t) then search = .ok config else config = none) :
    Precedence mode policy flags search args ⟨t, true, args.tail, config⟩ where
  named t' n' := by cases n.unique n'; exact ⟨rfl, rfl, rfl, rfl⟩
  unnamed h   := absurd n (h t)
  project h   := absurd n (h t)
  app h       := absurd n (h t)
  required hm := (hm ▸ n).app?_isSome
  inside a h  := by rw [project?_of_app? h]; rfl
  reachable _ := n.project?_isSome
  loaded c hc := by
    cases hc
    split at ha
    case isTrue  => exact ha
    case isFalse => contradiction
  missing hc  := by
    cases hc
    split at ha
    case isTrue       => exact .inl ha
    case isFalse hask => exact .inr ⟨by simpa [needsConfig] using hask, .inr ⟨t, n⟩⟩

theorem of_nothing (hn : ∀ t, ¬Named mode args t) (hm : mode ≠ .appRequired) 
    (ha : needsConfig mode policy none → search = .ok none) :
    Precedence mode policy flags search args ⟨.nothing, false, args, none⟩ where
  named t n   := absurd n (hn t)
  unnamed _   := ⟨rfl, rfl⟩
  project _   := rfl
  app _ _ h   := nomatch h
  required h  := absurd h hm
  inside _ h  := nomatch h
  reachable h := nomatch h
  loaded _ h  := nomatch h
  missing _   := by
    by_cases hask : needsConfig mode policy none
    case pos => exact .inl (ha hask)
    case neg => exact .inr (by simp_all [needsConfig])

-- The target follows from the flags and the configuration. Whether it is an app does not matter for 
-- its project.
theorem of_implied {c : LoadedConfig} {p : ProjectRef} (hn : ∀ t, ¬Named mode args t) 
    (ha : search = .ok (some c)) (hc : configured flags c.config = .ok p) 
    (hi : implied mode flags c.config p = .ok t) :
    Precedence mode policy flags search args ⟨t, false, args, some c⟩ where
  named t n   := absurd n (hn t)
  unnamed _   := ⟨rfl, rfl⟩
  project _   := by simp [name_of_implied hi, project_of_configured hc]
  app _ a h   := by
    cases app?_eq_some_iff.mp h
    have ⟨hm, h⟩ := app_of_implied hi
    rw [Text.given?_eq_some_iff, Text.given?_eq_none_iff] at h
    exact ⟨hm, by simpa using h⟩
  required hm := app?_isSome_of_implied (hm ▸ hi)
  inside a h  := by rw [project?_of_app? h]; rfl
  reachable h := nomatch h
  loaded _ h  := by cases h; exact ha
  missing h   := nomatch h

end Precedence

-- Whatever the arguments, the flags and the configuration are, a target that is found is the one of 
-- the source that comes first.
theorem precedence_of_resolve (h : (resolve mode policy flags search args).result = .ok r) :
    Precedence mode policy flags search args r := by
  cases found_of_resolve h
  case named hp ha         => exact .of_named (named_of_positional? hp) ha
  case nothing hp hm ha    => exact .of_nothing (positional?_eq_none_iff.mp hp) hm ha
  case implied hp ha hc hi => exact .of_implied (positional?_eq_none_iff.mp hp) ha hc hi

-- Three words name no app, and so the flags do. The blanks around them are cut off.
theorem precedence_of_resolve_flags :
    let file : LoadedConfig := ⟨⟨"/shop/deployctl.toml"⟩, ⟨"shop", none, ["web", "worker"]⟩⟩
    let found : Resolution := 
      ⟨.app ⟨"billing", "api", by decide, by decide⟩, false, ["a/b/c", "notes"], some file⟩
    (resolve .appRequired .skip ⟨some " billing\t", some "api "⟩ (.ok (some file)) 
      ["a/b/c", "notes"]).result = .ok found ∧ 
    Precedence .appRequired .skip ⟨some " billing\t", some "api "⟩ (.ok (some file)) 
      ["a/b/c", "notes"] found :=
  ⟨by decide, precedence_of_resolve (by decide)⟩

end Rollout.Target
