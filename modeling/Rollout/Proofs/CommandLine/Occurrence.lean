import Mathlib.Data.List.Induction
import Rollout.CommandLine
import Rollout.Proofs.Assignment
import Rollout.Proofs.Except
namespace Rollout

-- A flag as it occurs on the command line, with the value that is attached to it.
structure Occurrence where
  flag  : Flag
  value : Option String
  deriving DecidableEq, Repr

namespace Occurrence

def text (o : Occurrence) : String :=
  "--" ++ o.flag.long ++ o.value.elim "" ("=" ++ ·)

-- The values of one flag among all that occur, in order.
def valuesOf (os : List Occurrence) (f : Flag) : List (Option String) :=
  (os.filter (·.flag = f)).map (·.value)

-- The values that a flag can be read with. Nothing is set by asking for help.
def Fits : Flag → Option String → Prop
  | .plain         => (· = none)
  | .app           => (·.isSome)
  | .project       => (·.isSome)
  | .workspace     => (·.isSome)
  | .label         => Assigns
  | .remote        => (· = none)
  | .remoteSource  => Assigns
  | .assign        => Assigns
  | .assignFile    => fun v => ∃ s, v = some s ∧ s ≠ ""
  | .serverAddress => (·.isSome)
  | .serverTls     => fun v => v = some "true" ∨ v = some "false"
  | .skipVerify    => (· = none)
  | .json          => (· = none)
  | .help          => fun _ => False
  | .version       => fun _ => False
where
  Assigns (v : Option String) : Prop := 
    ∃ raw a, v = some raw ∧ Assignment.read raw = .ok a

-- What all occurrences come to. No flag looks at those of another one.
def collect (os : List Occurrence) : Flags where
  plain         := !(valuesOf os .plain).isEmpty
  app           := (texts .app).getLast?
  project       := (texts .project).getLast?
  workspace     := (texts .workspace).getLast?
  labels        := (texts .label).filterMap assignment?
  remote        := !(valuesOf os .remote).isEmpty
  remoteSource  := (texts .remoteSource).filterMap assignment?
  assignments   := (texts .assign).filterMap assignment?
  variableFiles := (texts .assignFile).map Path.mk
  serverAddress := (texts .serverAddress).getLast?
  serverTls     := (texts .serverTls).getLast? ≠ some "false"
  skipVerify    := !(valuesOf os .skipVerify).isEmpty
  json          := !(valuesOf os .json).isEmpty
where
  texts (f : Flag) : List String := (valuesOf os f).filterMap id
  assignment? (raw : String) : Option Assignment := (Assignment.read raw).toOption

variable {os : List Occurrence} {o : Occurrence} {f : Flag}

@[simp]
theorem valuesOf_append (os os' : List Occurrence) (f : Flag) : 
    valuesOf (os ++ os') f = valuesOf os f ++ valuesOf os' f := by
  simp [valuesOf]

theorem valuesOf_map (values : List (Option String)) (f f' : Flag) : 
    valuesOf (values.map (⟨f, ·⟩)) f' = if f = f' then values else [] := by
  by_cases h : f = f' <;> simp [valuesOf, List.filter_map, Function.comp_def, h]

theorem valuesOf_singleton (o : Occurrence) (f : Flag) : 
    valuesOf [o] f = if o.flag = f then [o.value] else [] :=
  valuesOf_map [o.value] o.flag f

end Occurrence

-- Sets what an occurrence of a flag says.
def Flags.heed (fs : Flags) (o : Occurrence) : Except UsageError Flags :=
  match o.value with
  | none       => .ok (fs.turnOn o.flag)
  | some value => fs.give o.flag value

def Reading.heed (r : Reading) (o : Occurrence) : Except UsageError Reading := do
  let r ← r.use o.flag
  return { r with flags := ← r.flags.heed o }

theorem Reading.use_of_unused {r : Reading} {f : Flag} (h : f.repeats = false → f ∉ r.used) : 
    r.use f = .ok { r with used := f :: r.used } := by
  unfold use
  rw [if_neg (by simpa using h)]

namespace Occurrence

variable {os : List Occurrence} {o : Occurrence} {f : Flag}

theorem heed_collect (h : Fits o.flag o.value) : 
    (collect os).heed o = .ok (collect (os ++ [o])) := by
  obtain ⟨f, v⟩ := o
  cases f <;> simp only [Fits, Fits.Assigns, Option.isSome_iff_exists] at h
  case plain | remote | skipVerify | json => 
    cases h
    simp [Flags.heed, Flags.turnOn, collect, collect.texts, valuesOf_singleton]
  case app | project | workspace | serverAddress =>
    obtain ⟨s, rfl⟩ := h
    simp [Flags.heed, Flags.give, collect, collect.texts, valuesOf_singleton]
  case label | remoteSource | assign => 
    obtain ⟨raw, a, rfl, ha⟩ := h
    simp [Flags.heed, Flags.give, Flags.readAssignment, ha, collect, collect.texts, collect.assignment?, 
      valuesOf_singleton, Except.toOption]
  case assignFile =>
    obtain ⟨s, rfl, hs⟩ := h
    simp [Flags.heed, Flags.give, Flags.readPath, hs, collect, collect.texts, valuesOf_singleton]
  case serverTls =>
    obtain rfl | rfl := h <;> 
      simp [Flags.heed, Flags.give, Flags.readSwitch, collect, collect.texts, valuesOf_singleton]

-- Flags that do not repeat occur at most once.
def Single (os : List Occurrence) : Prop :=
  ∀ f, f.repeats = false → (valuesOf os f).length ≤ 1

theorem mem_valuesOf (h : o ∈ os) : o.value ∈ valuesOf os o.flag := by
  simp only [valuesOf, List.mem_map, List.mem_filter, decide_eq_true_eq]
  exact ⟨o, ⟨h, rfl⟩, rfl⟩

theorem Single.unused (h : Single (os ++ [o])) (hr : o.flag.repeats = false) : 
    ∀ o' ∈ os, o'.flag ≠ o.flag := by
  intro o' ho hf
  have hl : valuesOf os o.flag = [] := by simpa [valuesOf_singleton] using h o.flag hr
  have hm : o'.value ∈ valuesOf os o.flag := hf ▸ mem_valuesOf ho
  simp [hl] at hm

theorem Single.of_append {os' : List Occurrence} (h : Single (os ++ os')) : Single os ∧ Single os' := by
  constructor
  all_goals
    intro f hf
    have hl := h f hf
    rw [valuesOf_append, List.length_append] at hl
    omega

-- How far the command line has been read once all of that has been read.
def reading (os : List Occurrence) : Reading where
  flags := collect os
  used  := (os.map (·.flag)).reverse

theorem heed_reading (h : Fits o.flag o.value) (single : Single (os ++ [o])) : 
    (reading os).heed o = .ok (reading (os ++ [o])) := by
  have unused : o.flag.repeats = false → o.flag ∉ (reading os).used := 
    fun hr => by simpa [reading] using single.unused hr
  have heeded : (reading os).flags.heed o = .ok (collect (os ++ [o])) := heed_collect h
  simp only [Reading.heed, Reading.use_of_unused unused, Except.ok_bind, heeded]
  simp [reading]

-- Everything is read, one after the other.
theorem foldlM_heed (fits : ∀ o ∈ os, Fits o.flag o.value) (single : Single os) : 
    os.foldlM Reading.heed {} = .ok (reading os) := by
  induction os using List.reverseRecOn
  case nil                       => rfl
  case append_singleton os o hi => 
    have hos := hi (fun o ho => fits o (List.mem_append_left _ ho)) single.of_append.left
    have ho := heed_reading (fits o (List.mem_append_right _ (List.mem_singleton_self o))) single
    rw [List.foldlM_append, hos, Except.ok_bind, List.foldlM_cons, ho]
    rfl

-- A value is attached exactly to a flag that takes one, and no help is asked for.
structure Shaped (o : Occurrence) : Prop where
  valued    : o.value.isSome = o.flag.placeholder?.isSome
  noHelp    : o.flag ≠ .help
  noVersion : o.flag ≠ .version

theorem shaped_of_fits (h : Fits o.flag o.value) : Shaped o := by
  obtain ⟨f, v⟩ := o
  cases f <;> simp only [Fits, Fits.Assigns] at h
  case plain | remote | skipVerify | json => 
    cases h
    exact ⟨rfl, nofun, nofun⟩
  case app | project | workspace | serverAddress => exact ⟨h, nofun, nofun⟩ 
  case label | remoteSource | assign => 
    obtain ⟨_, _, rfl, _⟩ := h
    exact ⟨rfl, nofun, nofun⟩
  case assignFile => 
    obtain ⟨_, rfl, _⟩ := h
    exact ⟨rfl, nofun, nofun⟩
  case serverTls => 
    obtain rfl | rfl := h <;> exact ⟨rfl, nofun, nofun⟩

end Occurrence

namespace Flag

variable {f g : Flag}

theorem unparted_long (f : Flag) : '=' ∉ f.long.toList := by
  cases f <;> decide

theorem long_ne_nil (f : Flag) : f.long.toList ≠ [] := by
  cases f <;> decide

theorem long_injective : Function.Injective long := by
  intro f g h
  cases f <;> cases g <;> first | rfl | exact absurd h (by decide)

end Flag

namespace Token

theorem longOf_name {name : String} (h : '=' ∉ name.toList) : longOf name.toList = .long name none := by
  simp only [longOf, Text.span_mark_of_not_mem h, String.ofList_toList]

theorem longOf_valued {name value : String} (h : '=' ∉ name.toList) : 
    longOf (name.toList ++ '=' :: value.toList) = .long name (some value) := by
  simp only [longOf, Text.span_mark_append h, String.ofList_toList]

theorem read_long {cs : List Char} (h : cs ≠ []) : read ("--" ++ .ofList cs) = longOf cs := by
  have ⟨c, cs', hc⟩ := List.exists_cons_of_ne_nil h
  simp [read, hc]

-- What is written as a flag is read as that flag.
theorem read_occurrence (o : Occurrence) : read o.text = .long o.flag.long o.value := by
  obtain ⟨f, v⟩ := o
  have hn := f.long_ne_nil
  cases v
  case none       =>
    have ht : Occurrence.text ⟨f, none⟩ = "--" ++ .ofList f.long.toList := by simp [Occurrence.text]
    rw [ht, read_long hn, longOf_name f.unparted_long]
  case some value =>
    have ht : Occurrence.text ⟨f, some value⟩ = "--" ++ .ofList (f.long.toList ++ '=' :: value.toList) := 
      String.toList_injective (by simp [Occurrence.text])
    rw [ht, read_long (by simp), longOf_valued f.unparted_long]

end Token

namespace Grammar

variable {g : Grammar} {r r' : Reading} {o : Occurrence} {os os' : List Occurrence} {rest : List String}
variable {f f' : Flag}

theorem eq_of_flagOfLong? (h : g.flagOfLong? f.long = some f') : f' = f :=
  Flag.long_injective (by simpa using List.find?_some h)

theorem flagOfLong?_long (h : f ∈ g.flags) : g.flagOfLong? f.long = some f := by
  have hs : (g.flagOfLong? f.long).isSome := List.find?_isSome.mpr ⟨f, h, by simp⟩
  have ⟨f', hf⟩ := Option.isSome_iff_exists.mp hs
  rw [hf, eq_of_flagOfLong? hf]

theorem takeLong_eq (shaped : o.Shaped) : 
    g.takeLong r o.flag o.value = usage r.settle >>= fun r => usage (r.heed o) := by
  obtain ⟨f, v⟩ := o
  have hv := shaped.valued
  cases v <;> cases hp : f.placeholder? <;> simp [hp] at hv
  case none.none     => 
    have noHelp := shaped.noHelp
    have noVersion := shaped.noVersion
    simp only [takeLong, hp, press, Reading.heed, Flags.heed]
    congr
    funext r
    cases r.use f <;> rfl
  case some.some v p => simp only [takeLong, hp, enter, Reading.give, Reading.heed, Flags.heed]

theorem take_occurrence (shaped : o.Shaped) (known : o.flag ∈ g.flags) : 
    g.take r o.text = (usage r.settle >>= fun r => usage (r.heed o)).map some := by
  simp only [take, Token.read_occurrence, flagOfLong?_long known, takeLong_eq shaped]

theorem pending_heed (h : r.heed o = .ok r') : r'.pending = r.pending := by
  have ⟨u, hu, h⟩ := Except.bind_eq_ok_iff.mp h
  have ⟨_, _, h⟩ := Except.bind_eq_ok_iff.mp h
  cases h
  unfold Reading.use at hu
  split at hu <;> cases hu
  rfl

theorem scan_occurrences (shaped : ∀ o ∈ os, o.Shaped) (known : ∀ o ∈ os, o.flag ∈ g.flags) 
    (settled : r.pending = none) : 
    g.scan r (os.map Occurrence.text ++ rest) = usage (os.foldlM Reading.heed r) >>= (g.scan · rest) := by
  induction os generalizing r
  case nil => rfl
  case cons o os hi =>
    have ⟨ho, hos⟩ := List.forall_mem_cons.mp shaped
    have ⟨ko, kos⟩ := List.forall_mem_cons.mp known
    have hn : Token.read o.text ≠ .separator := by simp [Token.read_occurrence]
    have hs : r.settle = .ok r := by simp [Reading.settle, settled]
    have ht : g.take r o.text = (usage (r.heed o)).map some := by rw [take_occurrence ho ko, hs]; rfl
    rw [List.map_cons, List.cons_append, scan, if_neg hn, ht, List.foldlM_cons]
    cases hr : r.heed o
    case error => rfl
    case ok r' => exact hi hos kos ((pending_heed hr).trans settled)

-- Flags that can all be read, one after the other.
structure Readable (g : Grammar) (os : List Occurrence) : Prop where
  fits   : ∀ o ∈ os, Occurrence.Fits o.flag o.value
  single : Occurrence.Single os
  known  : ∀ o ∈ os, o.flag ∈ g.flags

theorem Readable.front (h : g.Readable (os ++ os')) : g.Readable os where
  fits o ho  := h.fits o (List.mem_append_left os' ho)
  single     := h.single.of_append.left
  known o ho := h.known o (List.mem_append_left os' ho)

theorem Readable.back (h : g.Readable (os ++ os')) : g.Readable os' where
  fits o ho  := h.fits o (List.mem_append_right os ho)
  single     := h.single.of_append.right
  known o ho := h.known o (List.mem_append_right os ho)

theorem Readable.scan_append (h : g.Readable os) : 
    g.scan {} (os.map Occurrence.text ++ rest) = g.scan (Occurrence.reading os) rest := by
  have shaped : ∀ o ∈ os, o.Shaped := fun o ho => Occurrence.shaped_of_fits (h.fits o ho)
  rw [scan_occurrences shaped h.known rfl, Occurrence.foldlM_heed h.fits h.single]
  rfl

end Grammar
end Rollout
