import Rollout.Precedence
import Rollout.Proofs.Except
import Rollout.Proofs.Segment
import Rollout.Proofs.Text.Trimming
import Rollout.Proofs.Trace
namespace Rollout.ContextStore

-- What a store holds as its default context, which may be nothing.
inductive Holds (store : ContextStore) : Option StoredContext → Prop
  | nothing (default : store.default = .ok none) : Holds store none
  | context {name c} (default : store.default = .ok (some name)) (load : store.load name = .ok c) : 
    Holds store (some c)

-- A store does not know its default context: either its name or the context of that name is missing.
inductive FailsWith (store : ContextStore) : Failure → Prop
  | unnamed {f} (default : store.default = .error f) : FailsWith store f
  | unloaded {name f} (default : store.default = .ok (some name)) (load : store.load name = .error f) : 
    FailsWith store f

variable {store : ContextStore} {c? : Option StoredContext}

theorem result_current_eq_ok_iff : store.current.result = .ok c? ↔ store.Holds c? := by
  rw [current, Traced.result_bind_eq_ok_iff]
  constructor
  case mp  =>
    rintro ⟨name?, hd, hr⟩ 
    cases name?
    case none      => 
      cases hr
      exact .nothing hd
    case some name =>
      obtain ⟨c, hl, hr⟩ := Traced.result_bind_eq_ok_iff.mp hr
      cases hr
      exact .context hd hl
  case mpr =>
    intro h
    cases h
    case nothing hd    => exact ⟨none, hd, rfl⟩
    case context hd hl => exact ⟨_, hd, Traced.result_bind_eq_ok_iff.mpr ⟨_, hl, rfl⟩⟩

theorem result_current_eq_error_iff : store.current.result = .error f ↔ store.FailsWith f := by
  rw [current, Traced.result_bind_eq_error_iff]
  constructor
  case mp  =>
    intro h
    cases h
    case inl hd => exact .unnamed hd
    case inr h  =>
      obtain ⟨name?, hd, hr⟩ := h
      cases name?
      case none      => nomatch hr
      case some name =>
        cases Traced.result_bind_eq_error_iff.mp hr
        case inl hl => exact .unloaded hd hl
        case inr hl => nomatch hl.choose_spec.right
  case mpr =>
    intro h
    cases h
    case unnamed hd     => exact .inl hd
    case unloaded hd hl => exact .inr ⟨_, hd, Traced.result_bind_eq_error_iff.mpr (.inl hl)⟩

-- Whatever is taken from the default context is known if and only if that context is.
theorem result_derived_eq_ok_iff {g : Option StoredContext → α} {a : α} : 
    (store.current >>= fun c? => pure (g c?)).result = .ok a ↔ ∃ c?, store.Holds c? ∧ g c? = a := by
  simp only [Traced.result_bind_eq_ok_iff, result_current_eq_ok_iff, Traced.result_pure, Except.ok.injEq]

theorem result_derived_eq_error_iff {g : Option StoredContext → α} : 
    (store.current >>= fun c? => pure (g c?)).result = .error f ↔ store.FailsWith f := by
  simp only [Traced.result_bind_eq_error_iff, result_current_eq_error_iff, Traced.result_pure, 
    reduceCtorEq, and_false, exists_false, or_false]

-- The default file of a directory names a context.
inductive Names (t : FileTree) (dir : Path) (name : String) : Prop
  | mk {text} (read : t.read (defaultPath dir) = .ok text) (trims : Text.Trims text name) 
    (ne_empty : name ≠ "") (ne_noDefault : name ≠ noDefault)

-- All ways in which a directory cannot provide a context.
inductive Unloadable (t : FileTree) (dir : Path) (name : String) : Failure → Prop
  | misnamed (invalid : ¬Segment.Word name) : Unloadable t dir name (.of (.contextName name))
  | dangling (valid : Segment.Word name) (read : t.read (contextPath dir name) = .error .notFound) : 
    Unloadable t dir name (.of (.noContext name dir))
  | unreadable {e} (valid : Segment.Word name) (read : t.read (contextPath dir name) = .error e) 
    (present : e ≠ .notFound) : Unloadable t dir name ⟨[.read (contextPath dir name)], .file e⟩ 
  | malformed {text f} (valid : Segment.Word name) (read : t.read (contextPath dir name) = .ok text) 
    (parse : StoredContext.parse text = .error f) : 
    Unloadable t dir name (f.within (.parse (contextPath dir name)))

-- All ways in which the default of a directory is broken. That there is no default file, or that it
-- names nothing, is not among them.
inductive Broken (t : FileTree) (dir : Path) : Failure → Prop
  | unreadable {e} (read : t.read (defaultPath dir) = .error e) (present : e ≠ .notFound) : 
    Broken t dir ⟨[.read (defaultPath dir)], .file e⟩ 
  | unloadable {name f} (names : Names t dir name) (load : Unloadable t dir name f) : Broken t dir f

variable {t : FileTree} {dir : Path} {name : String} {f : Failure}

theorem readDefault_eq_error_iff : readDefault t dir = .error f ↔ 
    ∃ e, t.read (defaultPath dir) = .error e ∧ e ≠ .notFound ∧ ⟨[.read (defaultPath dir)], .file e⟩ = f := by
  cases hr : t.read (defaultPath dir)
  case error e => cases e <;> simp [readDefault, hr]
  case ok text => simp [readDefault, hr]

theorem readDefault_eq_some_iff : readDefault t dir = .ok (some name) ↔ Names t dir name := by
  constructor
  case mp  =>
    intro h
    cases hr : t.read (defaultPath dir)
    case error e => cases e <;> simp [readDefault, hr] at h
    case ok text =>
      simp only [readDefault, hr, Except.ok.injEq, Option.ite_none_left_eq_some, Bool.or_eq_true, 
        decide_eq_true_eq, not_or, Option.some.injEq] at h
      obtain ⟨⟨he, hn⟩, rfl⟩ := h
      exact ⟨hr, Text.trims_trim text, he, hn⟩
  case mpr =>
    rintro ⟨hr, ht, he, hn⟩ 
    simp [readDefault, hr, Text.trims_iff.mp ht, he, hn]

theorem readContext_eq_error_iff : readContext t dir name = .error f ↔ Unloadable t dir name f := by
  constructor
  case mp  =>
    intro h
    simp only [readContext, checkName] at h
    split at h
    case isFalse hv => 
      cases h
      exact .misnamed (mt Segment.valid_iff_word.mpr hv)
    case isTrue hv  =>
      have hv := Segment.valid_iff_word.mp hv
      rw [Except.ok_bind] at h
      split at h
      case h_1 hr    => cases h; exact .dangling hv hr
      case h_2 he hr => cases h; exact .unreadable hv hr he
      case h_3 hr    => 
        obtain ⟨_, hp, rfl⟩ := Traced.mapError_eq_error_iff.mp h
        exact .malformed hv hr hp
  case mpr =>
    intro h
    cases h
    case misnamed hv           => simp [readContext, checkName, mt Segment.valid_iff_word.mp hv]
    case dangling hv hr        => simp [readContext, checkName, Segment.valid_iff_word.mpr hv, hr]
    case unreadable e hv hr he => 
      cases e <;> simp_all [readContext, checkName, Segment.valid_iff_word.mpr hv]
    case malformed hv hr hp    => 
      simp [readContext, checkName, Segment.valid_iff_word.mpr hv, hr, hp, Failure.during]

theorem failsWith_inDirectory_iff : (inDirectory t dir).FailsWith f ↔ Broken t dir f := by
  constructor
  case mp  =>
    intro h
    cases h
    case unnamed hd     => 
      obtain ⟨e, hr, he, rfl⟩ := readDefault_eq_error_iff.mp hd
      exact .unreadable hr he
    case unloaded hd hl => 
      exact .unloadable (readDefault_eq_some_iff.mp hd) (readContext_eq_error_iff.mp hl)
  case mpr =>
    intro h
    cases h
    case unreadable hr he => exact .unnamed (readDefault_eq_error_iff.mpr ⟨_, hr, he, rfl⟩)
    case unloadable hn hl => 
      exact .unloaded (readDefault_eq_some_iff.mpr hn) (readContext_eq_error_iff.mpr hl)

end Rollout.ContextStore
