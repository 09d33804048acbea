import Rollout.Proofs.CommandLine.Occurrence
import Rollout.Proofs.CommandLine.Separator
namespace Rollout

-- What is attached to a flag is no assignment, although it has to be one.
inductive Occurrence.Spoils : Occurrence → UsageError → Prop
  | intro {f : Flag} {raw : String} {e : Assignment.Error} (assigns : f ∈ [.label, .remoteSource, .assign]) 
    (malformed : Assignment.Malformed raw e) : Spoils ⟨f, some raw⟩ (.malformedValue f raw e)

namespace Occurrence.Spoils

variable {o : Occurrence} {e : UsageError} {r : Reading}

theorem heed_flags (h : o.Spoils e) (fs : Flags) : fs.heed o = .error e := by
  obtain ⟨assigns, malformed⟩ := h
  have hr := Assignment.read_eq_error_iff.mpr malformed
  simp only [List.mem_cons, List.not_mem_nil, or_false] at assigns
  obtain rfl | rfl | rfl := assigns <;> simp [Flags.heed, Flags.give, Flags.readAssignment, hr]

theorem repeats (h : o.Spoils e) : o.flag.repeats := by
  obtain ⟨assigns, _⟩ := h
  exact (by decide : ∀ f ∈ [Flag.label, .remoteSource, .assign], f.repeats) _ assigns

theorem mem_ofOperations (h : o.Spoils e) : o.flag ∈ Flag.ofOperations := by
  obtain ⟨assigns, _⟩ := h
  exact (by decide : [Flag.label, .remoteSource, .assign] ⊆ Flag.ofOperations) assigns

theorem shaped (h : o.Spoils e) : o.Shaped := by
  obtain ⟨assigns, _⟩ := h
  simp only [List.mem_cons, List.not_mem_nil, or_false] at assigns
  obtain rfl | rfl | rfl := assigns <;> exact ⟨rfl, nofun, nofun⟩ 

theorem heed (h : o.Spoils e) : r.heed o = .error e := by
  have used := Reading.use_of_unused (r := r) (f := o.flag) fun hr => by simp [h.repeats] at hr
  simp [Reading.heed, used, h.heed_flags]

end Occurrence.Spoils

namespace Grammar

-- A text is never taken, neither as a flag nor as anything else.
def Rejects (g : Grammar) (text : String) : Prop :=
  ∀ r x, g.take r text ≠ .ok x

-- What follows the text at which the reading of flags stops.
def Tail.behind : Tail → List String
  | done           => []
  | separated rest => rest
  | word _ rest    => rest

variable {g : Grammar} {r r' : Reading} {o : Occurrence} {e : UsageError} {tail : Tail}
variable {args left : List String} {text : String} {flags : Flags}

-- It does not matter whether the flag is known, unless what is not known is an argument.
theorem rejects_of_spoils (h : o.Spoils e) (known : g.arguments → o.flag ∈ g.flags) : g.Rejects o.text := by
  intro r x ht
  simp only [take, Token.read_occurrence] at ht
  cases hf : g.flagOfLong? o.flag.long <;> simp only [hf] at ht
  case none =>
    by_cases ha : g.arguments
    case pos => simp [flagOfLong?_long (known ha)] at hf
    case neg => simp [ha] at ht
  case some f =>
    obtain rfl := eq_of_flagOfLong? hf
    obtain ⟨_, ht, _⟩ := Except.map_eq_ok_iff.mp ht
    rw [takeLong_eq h.shaped] at ht
    obtain ⟨_, _, ht⟩ := Except.bind_eq_ok_iff.mp ht
    simp [h.heed, usage] at ht

theorem Rejects.ne_separator (h : g.Rejects text) : text ≠ "--" := by
  rintro rfl
  exact h {} none rfl

-- What is never taken stands behind the text at which the reading stops.
theorem Rejects.mem_behind (rejects : g.Rejects text) (h : g.scan r args = .ok (r', tail)) 
    (hm : text ∈ args) : text ∈ tail.behind := by
  induction args generalizing r
  case nil            => cases hm
  case cons t args hi =>
    rw [scan] at h
    split at h
    case isTrue hs =>
      cases h
      have ht : text ≠ t := Token.read_eq_separator_iff.mp hs ▸ rejects.ne_separator
      exact (List.mem_cons.mp hm).resolve_left ht
    case isFalse   =>
      cases taken : g.take r t <;> rw [taken] at h
      case error => cases h
      case ok x  =>
        have hm := (List.mem_cons.mp hm).resolve_left fun ht => rejects r x (ht ▸ taken)
        cases x
        case some r => exact hi h hm
        case none   =>
          cases ha : r.awaiting? <;> simp only [Except.ok_bind, ha] at h
          case some f => exact hi h hm
          case none   => cases h; exact hm

theorem Rejects.mem_arguments (rejects : g.Rejects text) (h : g.readArguments args = .ok (flags, left)) 
    (hm : text ∈ args) : text ∈ left := by
  unfold readArguments at h
  have ⟨⟨r, tail⟩, hs, h⟩ := Except.bind_eq_ok_iff.mp h
  have hb := rejects.mem_behind hs hm
  cases tail <;> have ⟨_, _, h⟩ := Except.bind_eq_ok_iff.mp h <;> cases h
  case done      => cases hb
  case separated => exact hb
  case word      => exact List.mem_cons_of_mem _ hb

theorem Rejects.readFlags_ne_ok (rejects : g.Rejects text) (hm : text ∈ args) : 
    g.readFlags args ≠ .ok r := by
  intro h
  unfold readFlags at h
  have ⟨⟨r, tail⟩, hs, h⟩ := Except.bind_eq_ok_iff.mp h
  have hb := rejects.mem_behind hs hm
  cases tail
  case done           => cases hb
  case separated rest => 
    cases rest
    case nil  => cases hb
    case cons => cases h
  case word           => cases h

end Grammar

namespace CommandLine

-- A text that flags cannot be read with, wherever it stands. With a command it may stand behind the 
-- first argument or a separator, where it is an argument itself.
structure Unreadable (text : String) : Prop where
  flags    : ∀ args, text ∈ args → ∃ stop, flagGrammar.readFlags args = .error stop
  argument : ∀ args line, text ∈ args → read args = .ok line → text ∈ line.args

theorem unreadable_of_spoils {o : Occurrence} {e : UsageError} (h : o.Spoils e) : Unreadable o.text := by
  constructor
  case flags    =>
    intro args hm
    have rejects : flagGrammar.Rejects o.text := Grammar.rejects_of_spoils h fun ha => absurd ha (by decide)
    cases hr : flagGrammar.readFlags args
    case error stop => exact ⟨stop, rfl⟩
    case ok         => exact absurd hr (rejects.readFlags_ne_ok hm)
  case argument =>
    intro args line hm hr
    have rejects : rootGrammar.Rejects o.text := Grammar.rejects_of_spoils h fun ha => absurd ha (by decide)
    cases read_eq_ok_iff.mp hr
    case intro c _ _ root _ _ arguments _ =>
      have known : o.flag ∈ (grammar c).flags := by simp [grammar, Command.ownFlags, h.mem_ofOperations]
      exact (Grammar.rejects_of_spoils h fun _ => known).mem_arguments arguments (rejects.mem_behind root hm)

end CommandLine
end Rollout
