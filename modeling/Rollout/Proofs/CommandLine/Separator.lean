import Rollout.Proofs.Except
import Rollout.Proofs.FlagOrder
import Rollout.Proofs.Program.Preparation
namespace Rollout

theorem Token.read_eq_separator_iff {text : String} : read text = .separator ↔ text = "--" := by
  constructor
  case mpr => rintro rfl; rfl
  case mp  =>
    intro h
    unfold read at h
    split at h
    case h_1 ht => exact String.toList_inj.mp ht
    case h_2    => unfold longOf at h; split at h <;> cases h
    all_goals cases h

namespace Grammar

variable {g : Grammar} {r r' : Reading} {front after rest : List String} {text : String} {x : Flags}

-- What stops the reading once a separator is put behind the texts, and other texts behind that.
def Tail.extend (after : List String) : Tail → Tail
  | done           => separated after
  | separated rest => separated (rest ++ "--" :: after)
  | word text rest => word text (rest ++ "--" :: after)

-- Texts are read without regard to what follows them.
theorem scan_append_separator (r : Reading) (front : List String) : 
    g.scan r (front ++ "--" :: after) = 
      (g.scan r front).map fun (r, tail) => (r, tail.extend after) := by
  induction front generalizing r
  case nil               => rfl
  case cons text front hi =>
    rw [List.cons_append, scan, scan]
    split
    case isTrue  => rfl
    case isFalse =>
      cases g.take r text
      case error          => rfl
      case ok taken =>
        cases taken
        case some r => exact hi r
        case none   =>
          cases r.awaiting?
          case some f => exact hi _
          case none   => rfl

-- Nothing is separated without a separator.
theorem scan_ne_separated (h : "--" ∉ front) : g.scan r front ≠ .ok (r', .separated rest) := by
  induction front generalizing r
  case nil                => nofun
  case cons text front hi =>
    have ⟨ht, hf⟩ : "--" ≠ text ∧ "--" ∉ front := by simpa using h
    rw [scan, if_neg fun hs => ht (Token.read_eq_separator_iff.mp hs).symm]
    cases g.take r text
    case error    => nofun
    case ok taken =>
      cases taken
      case some r => exact hi hf
      case none   =>
        cases r.awaiting?
        case some f => exact hi hf
        case none   => nofun

-- The first word is followed by what has been behind it.
theorem suffix_of_scan (h : g.scan r front = .ok (r', .word text rest)) : text :: rest <:+ front := by
  induction front generalizing r
  case nil             => cases h
  case cons t front hi =>
    rw [scan] at h
    split at h
    case isTrue  => cases h
    case isFalse =>
      cases ht : g.take r t <;> rw [ht] at h
      case error    => cases h
      case ok taken =>
        cases taken
        case some r => exact (hi h).trans (List.suffix_cons t front)
        case none   =>
          cases ha : r.awaiting? <;> simp only [Except.ok_bind, ha] at h
          case some f => exact (hi h).trans (List.suffix_cons t front)
          case none   => cases h; exact List.suffix_rfl

theorem scan_append_separator_eq_word_iff : 
    g.scan r (front ++ "--" :: after) = .ok (r', .word text rest) ↔ 
      ∃ inner, g.scan r front = .ok (r', .word text inner) ∧ rest = inner ++ "--" :: after := by
  rw [scan_append_separator]
  cases g.scan r front
  case error => simp [Except.map]
  case ok x  =>
    have ⟨r, tail⟩ := x
    cases tail <;> simp [Tail.extend, eq_comm, and_assoc]

-- The arguments that are left if a separator and other texts are put behind them. A separator in
-- front of the first argument is none itself.
def separate (args after : List String) : List String :=
  if args = [] then after else args ++ "--" :: after

theorem readArguments_append_separator (h : "--" ∉ front) : 
    g.readArguments (front ++ "--" :: after) = 
      (g.readArguments front).map fun (flags, args) => (flags, separate args after) := by
  rw [readArguments, readArguments, scan_append_separator]
  cases hs : g.scan {} front
  case error => rfl
  case ok x  =>
    have ⟨r, tail⟩ := x
    cases tail
    case separated => exact absurd hs (scan_ne_separated h)
    all_goals
      simp only [Except.ok_map, Except.ok_bind, Tail.extend]
      cases usage r.settle <;> rfl

theorem suffix_of_readArguments {flags : Flags} {args : List String} 
    (h : g.readArguments front = .ok (flags, args)) (hf : "--" ∉ front) : args <:+ front := by
  unfold readArguments at h
  have ⟨⟨r, tail⟩, hs, h⟩ := Except.bind_eq_ok_iff.mp h
  cases tail
  case separated => exact absurd hs (scan_ne_separated hf)
  case done      => 
    have ⟨_, _, h⟩ := Except.bind_eq_ok_iff.mp h
    cases h
    exact List.nil_suffix
  case word      => 
    have ⟨_, _, h⟩ := Except.bind_eq_ok_iff.mp h
    cases h
    exact suffix_of_scan hs

end Grammar

namespace CommandLine

open Grammar (separate)

variable {front after args : List String} {line inner : CommandLine} {w : World} {m : FlagOrder.Misplaced}

-- How a command line leads to a command.
inductive Reads (args : List String) : CommandLine → Prop
  | intro {r outer : Reading} {word : String} {rest : List String} {c : Command} {flags : Flags} 
    {left : List String} (root : rootGrammar.scan {} args = .ok (r, .word word rest)) 
    (notHelp : word ≠ Help.word) (command : Command.ofName? word = some c) 
    (arguments : (grammar c).readArguments rest = .ok (flags, left)) 
    (settled : Grammar.usage r.settle = .ok outer) : Reads args ⟨c, flags.inherit outer.flags, left⟩

theorem withoutCommand_ne_ok {r : Reading} : withoutCommand r ≠ .ok line := by
  unfold withoutCommand
  intro h
  have ⟨_, _, h⟩ := Except.bind_eq_ok_iff.mp h
  split at h <;> cases h

theorem read_eq_ok_iff : read args = .ok line ↔ Reads args line := by
  constructor
  case mp =>
    intro h
    unfold read at h
    have ⟨⟨r, tail⟩, hs, h⟩ := Except.bind_eq_ok_iff.mp h
    cases tail
    case done               => exact absurd h withoutCommand_ne_ok
    case separated rest     =>
      cases rest
      case nil  => exact absurd h withoutCommand_ne_ok
      case cons => cases h
    case word word rest     =>
      simp only at h
      split at h
      case isTrue          => cases h
      case isFalse notHelp =>
        split at h
        case h_1           => cases h
        case h_2 command   =>
          have ⟨⟨flags, left⟩, arguments, h⟩ := Except.bind_eq_ok_iff.mp h
          have ⟨outer, settled, h⟩ := Except.bind_eq_ok_iff.mp h
          cases h
          exact .intro hs notHelp command arguments settled
  case mpr =>
    rintro ⟨root, notHelp, command, arguments, settled⟩
    simp only [read, root, Except.ok_bind, if_neg notHelp, command, arguments, settled]
    rfl

theorem Reads.suffix (h : Reads args line) (ha : "--" ∉ args) : line.args <:+ args := by
  cases h
  case intro root _ _ arguments _ =>
    have hs := (List.suffix_cons _ _).trans (Grammar.suffix_of_scan root)
    exact (Grammar.suffix_of_readArguments arguments fun hm => ha (hs.subset hm)).trans hs

-- A separator, and what follows it, only matters for the arguments. It does not stand in front of the
-- command.
theorem reads_append_separator_iff (hf : "--" ∉ front) : 
    Reads (front ++ "--" :: after) line ↔ 
      ∃ inner, Reads front inner ∧ line = { inner with args := separate inner.args after } := by
  constructor
  case mp =>
    intro h
    cases h
    case intro root notHelp command arguments settled =>
      have ⟨rest, hs, he⟩ := Grammar.scan_append_separator_eq_word_iff.mp root
      have hr : "--" ∉ rest := fun hm => 
        hf ((Grammar.suffix_of_scan hs).subset (List.mem_cons_of_mem _ hm))
      rw [he, Grammar.readArguments_append_separator hr] at arguments
      cases ha : (grammar _).readArguments rest <;> rw [ha] at arguments <;> cases arguments
      exact ⟨_, .intro hs notHelp command ha settled, rfl⟩
  case mpr =>
    rintro ⟨_, ⟨root, notHelp, command, arguments, settled⟩, rfl⟩
    have hr := fun hm => hf ((Grammar.suffix_of_scan root).subset (List.mem_cons_of_mem _ hm))
    refine .intro (Grammar.scan_append_separator_eq_word_iff.mpr ⟨_, root, rfl⟩) notHelp command ?_ settled
    rw [Grammar.readArguments_append_separator hr, arguments]
    rfl

-- What a separator changes about a command line that ends in front of it.
structure Shielding (front after : List String) (line inner : CommandLine) : Prop where
  read     : CommandLine.read front = .ok inner
  joined   : line = { inner with args := separate inner.args after }
  suffix   : inner.args <:+ front
  -- The texts behind the separator have no say, unless no argument stands in front of it: then they are 
  -- looked at as if there was no separator.
  shielded : ∀ w, (∀ m, Refuses line w m ↔ Refuses inner w m) ↔ 
    inner.args ≠ [] ∨ FlagOrder.misplaced after (recognized line.command) = []
  found    : ∀ w m, inner.args ≠ [] → Refuses line w m → 
    ∀ name ∈ m.flags, ∃ arg ∈ inner.args, FlagOrder.flagName? arg = some name
  exposed  : ∀ w m, inner.args = [] → (Refuses line w m ↔ 
    FlagOrder.check after (recognized line.command) = .error m)

-- A flag that stands behind a separator is refused only if the first argument stands behind it as well.
theorem shielding_of_read (hf : "--" ∉ front) (hr : read (front ++ "--" :: after) = .ok line) : 
    ∃ inner, Shielding front after line inner := by
  have ⟨inner, hi, hl⟩ := (reads_append_separator_iff hf).mp (read_eq_ok_iff.mp hr)
  have hc : line.command = inner.command := by rw [hl]
  have ha : line.args = separate inner.args after := by rw [hl]
  refine ⟨inner, read_eq_ok_iff.mpr hi, hl, hi.suffix hf, ?shielded, ?found, ?exposed⟩ 
  all_goals simp only [refuses_iff, hc, ha]
  case shielded => 
    intro _
    rw [FlagOrder.check_eq_check_iff]
    by_cases hn : inner.args = []
    case pos => simp [separate, hn, FlagOrder.misplaced_nil]
    case neg => simp [separate, hn, FlagOrder.misplaced_append_separator]
  case found    => 
    intro _ m hn h name hm
    rw [separate, if_neg hn, FlagOrder.check_eq_error_iff, FlagOrder.misplaced_append_separator] at h
    have ⟨_, arg, ha, hf⟩ := FlagOrder.mem_misplaced_iff.mp (h.left ▸ hm)
    exact ⟨arg, (List.takeWhile_sublist _).subset ha, hf⟩
  case exposed  => 
    intro _ m hn
    rw [separate, if_pos hn]

theorem shielding_of_read_plain : 
    let front := ["targets", "shop", "--label"]
    let line : CommandLine := ⟨.targets, {}, ["shop", "--label", "--", "--plain"]⟩ 
    read (front ++ "--" :: ["--plain"]) = .ok line ∧ 
      ∃ inner, Shielding front ["--plain"] line inner := 
  ⟨by decide +kernel, shielding_of_read (by decide) (by decide +kernel)⟩ 

-- The separator is dropped here, so that the flag seems to stand behind the first argument.
theorem label_refused_behind_separator : 
    let front := ["targets"]
    let after := ["shop/web", "--label"]
    let line : CommandLine := ⟨.targets, {}, after⟩ 
    "--" ∉ front ∧ read (front ++ "--" :: after) = .ok line ∧ 
      (∀ text ∈ front, FlagOrder.flagName? text ≠ some "label") ∧ 
      ∀ w, Refuses line w ⟨["label"]⟩ ∧ 
        Program.run (front ++ "--" :: after) w = 
          .ofEvents false [.error (FlagOrder.Misplaced.message ⟨["label"]⟩)] 2 := by
  intro front after line
  have hr : read (front ++ "--" :: after) = .ok line := by decide +kernel
  have hm : FlagOrder.check line.args (recognized line.command) = .error ⟨["label"]⟩ := by 
    decide +kernel
  refine ⟨by decide, hr, by decide +kernel, fun w => ⟨refuses_iff.mpr hm, ?_⟩⟩
  rw [Program.run_of_read hr, run_of_misplaced hm]
  rfl

end CommandLine
end Rollout
