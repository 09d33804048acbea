import Rollout.Proofs.CommandLine.Malformed
namespace Rollout

namespace Flags

-- The values that each flag has to be written with, in order, so that all flags together say this.
def written (fs : Flags) : Flag → List (Option String)
  | .plain         => switch fs.plain
  | .app           => fs.app.toList.map some
  | .project       => fs.project.toList.map some
  | .workspace     => fs.workspace.toList.map some
  | .label         => fs.labels.map (some ·.text)
  | .remote        => switch fs.remote
  | .remoteSource  => fs.remoteSource.map (some ·.text)
  | .assign        => fs.assignments.map (some ·.text)
  | .assignFile    => fs.variableFiles.map (some ·.text)
  | .serverAddress => fs.serverAddress.toList.map some
  | .serverTls     => [some (if fs.serverTls then "true" else "false")]
  | .skipVerify    => switch fs.skipVerify
  | .json          => switch fs.json
  | .help          => []
  | .version       => []
where
  switch (b : Bool) : List (Option String) := if b then [none] else []

-- What can be said with the flags that all commands share.
structure Writable (fs : Flags) : Prop where
  labels       : ∀ a ∈ fs.labels, a.Plain
  remoteSource : ∀ a ∈ fs.remoteSource, a.Plain
  assignments  : ∀ a ∈ fs.assignments, a.Plain
  files        : ∀ p ∈ fs.variableFiles, p.text ≠ ""
  shared       : fs.json = false

instance {fs : Flags} : Decidable fs.Writable :=
  decidable_of_iff 
    ((∀ a ∈ fs.labels, a.Plain) ∧ (∀ a ∈ fs.remoteSource, a.Plain) ∧ 
      (∀ a ∈ fs.assignments, a.Plain) ∧ (∀ p ∈ fs.variableFiles, p.text ≠ "") ∧ fs.json = false) 
    ⟨fun ⟨l, r, a, f, s⟩ => ⟨l, r, a, f, s⟩, fun ⟨l, r, a, f, s⟩ => ⟨l, r, a, f, s⟩⟩ 

-- One flag after the other.
def occurrences (fs : Flags) : List Occurrence :=
  (Flag.ofEvery ++ Flag.ofOperations ++ Flag.ofConnections ++ [Flag.json]).flatMap fun f => 
    (fs.written f).map (⟨f, ·⟩)

end Flags

attribute [ext] Flags

namespace Occurrence

-- Each flag occurs with its own values in their own order, no matter how the flags are mixed. That TLS 
-- is used is the case anyway and need not be said.
def Interleaves (fs : Flags) (os : List Occurrence) : Prop :=
  ∀ f, valuesOf os f = fs.written f ∨ f = .serverTls ∧ fs.serverTls ∧ valuesOf os f = []

variable {fs : Flags} {os front back : List Occurrence} {o : Occurrence} {f : Flag}
variable {v : Option String}

theorem interleaves_occurrences (fs : Flags) : Interleaves fs fs.occurrences := by
  intro f
  left
  rw [Flags.occurrences]
  simp only [Flag.ofEvery, Flag.ofOperations, Flag.ofConnections, List.cons_append, List.nil_append, 
    List.flatMap_cons, List.flatMap_nil, valuesOf_append, valuesOf_map]
  cases f <;> simp [valuesOf, Flags.written]

theorem Interleaves.mem_written (hi : Interleaves fs os) (ho : o ∈ os) : o.value ∈ fs.written o.flag := by
  have hm := mem_valuesOf ho
  obtain hv | ⟨_, _, hv⟩ := hi o.flag <;> rw [hv] at hm
  case inl => exact hm
  case inr => cases hm

theorem Interleaves.eq_written (hi : Interleaves fs os) (hf : f ≠ .serverTls) : 
    valuesOf os f = fs.written f := 
  (hi f).resolve_right fun h => hf h.left

theorem eq_none_of_mem_switch {b : Bool} (h : v ∈ Flags.written.switch b) : v = none :=
  List.mem_singleton.mp (List.mem_ite_nil_right.mp h).right

theorem isSome_of_mem {s? : Option String} (h : v ∈ s?.toList.map some) : v.isSome := by
  obtain ⟨s, _, rfl⟩ := List.mem_map.mp h
  rfl

theorem assigns_of_mem {as : List Assignment} (plain : ∀ a ∈ as, a.Plain) 
    (h : v ∈ as.map (some ·.text)) : Fits.Assigns v := by
  obtain ⟨a, ha, rfl⟩ := List.mem_map.mp h
  exact ⟨_, a, rfl, Assignment.read_text (plain a ha)⟩ 

theorem Interleaves.fits (hi : Interleaves fs os) (w : fs.Writable) : ∀ o ∈ os, Fits o.flag o.value := by
  intro o ho
  have hm := hi.mem_written ho
  obtain ⟨f, v⟩ := o
  cases f
  case plain | remote | skipVerify | json         => exact eq_none_of_mem_switch hm
  case app | project | workspace | serverAddress  => exact isSome_of_mem hm
  case label                                      => exact assigns_of_mem w.labels hm
  case remoteSource                               => exact assigns_of_mem w.remoteSource hm
  case assign                                     => exact assigns_of_mem w.assignments hm
  case assignFile                                 => 
    obtain ⟨p, hp, rfl⟩ := List.mem_map.mp hm
    exact ⟨_, rfl, w.files p hp⟩ 
  case serverTls                                  => 
    rw [List.mem_singleton.mp hm]
    cases fs.serverTls
    case true  => exact .inl rfl
    case false => exact .inr rfl
  case help | version                             => cases hm

theorem length_written_le (hf : f.repeats = false) : (fs.written f).length ≤ 1 := by
  cases f <;> simp only [Flags.written, Flags.written.switch, List.length_map]
  case plain | remote | skipVerify | json         => split <;> simp
  case app | project | workspace | serverAddress  => exact Option.length_toList_le
  case label | remoteSource | assign | assignFile => cases hf
  case serverTls | help | version                 => simp

theorem Interleaves.single (hi : Interleaves fs os) : Single os := by
  intro f hf
  obtain hv | ⟨_, _, hv⟩ := hi f <;> rw [hv]
  case inl => exact length_written_le hf
  case inr => exact Nat.zero_le _

theorem Interleaves.texts_eq {ts : List String} (hi : Interleaves fs os) (hf : f ≠ .serverTls) 
    (hw : fs.written f = ts.map some) : collect.texts os f = ts := by
  rw [collect.texts, hi.eq_written hf, hw, List.filterMap_map]
  exact List.filterMap_some

theorem Interleaves.switch_eq {b : Bool} (hi : Interleaves fs os) (hf : f ≠ .serverTls) 
    (hw : fs.written f = Flags.written.switch b) : (!(valuesOf os f).isEmpty) = b := by
  rw [hi.eq_written hf, hw]
  cases b <;> rfl

theorem Interleaves.last_eq {s? : Option String} (hi : Interleaves fs os) (hf : f ≠ .serverTls) 
    (hw : fs.written f = s?.toList.map some) : (collect.texts os f).getLast? = s? := by
  rw [hi.texts_eq hf hw]
  cases s? <;> rfl

theorem Interleaves.assignments_eq {as : List Assignment} (hi : Interleaves fs os) (hf : f ≠ .serverTls) 
    (hw : fs.written f = as.map (some ·.text)) (plain : ∀ a ∈ as, a.Plain) : 
    (collect.texts os f).filterMap collect.assignment? = as := by
  have read : ∀ a ∈ as, (collect.assignment? ∘ Assignment.text) a = some a := fun a ha => by
    rw [Function.comp, collect.assignment?, Assignment.read_text (plain a ha), Except.toOption]
  have texts : collect.texts os f = as.map (·.text) := hi.texts_eq hf (by simp [hw])
  rw [texts, List.filterMap_map, List.filterMap_congr read, List.filterMap_some]

theorem Interleaves.files_eq (hi : Interleaves fs os) : 
    (collect.texts os .assignFile).map Path.mk = fs.variableFiles := by
  have texts : collect.texts os .assignFile = fs.variableFiles.map (·.text) := 
    hi.texts_eq nofun (by simp [Flags.written])
  rw [texts, List.map_map]
  exact List.map_id _

theorem Interleaves.serverTls_eq (hi : Interleaves fs os) : 
    decide ((collect.texts os .serverTls).getLast? ≠ some "false") = fs.serverTls := by
  obtain hv | ⟨_, hs, hv⟩ := hi .serverTls <;> rw [collect.texts, hv]
  case inl => cases hs : fs.serverTls <;> simp [Flags.written, hs]
  case inr => simp [hs]

-- What is written comes to what it says.
theorem Interleaves.collect_eq (hi : Interleaves fs os) (w : fs.Writable) : collect os = fs := by
  apply Flags.ext
  case plain         => exact hi.switch_eq nofun rfl
  case app           => exact hi.last_eq nofun rfl
  case project       => exact hi.last_eq nofun rfl
  case workspace     => exact hi.last_eq nofun rfl
  case labels        => exact hi.assignments_eq nofun rfl w.labels
  case remote        => exact hi.switch_eq nofun rfl
  case remoteSource  => exact hi.assignments_eq nofun rfl w.remoteSource
  case assignments   => exact hi.assignments_eq nofun rfl w.assignments
  case variableFiles => exact hi.files_eq
  case serverAddress => exact hi.last_eq nofun rfl
  case serverTls     => exact hi.serverTls_eq
  case skipVerify    => exact hi.switch_eq nofun rfl
  case json          => exact hi.switch_eq nofun rfl

theorem Interleaves.shared (hi : Interleaves fs os) (w : fs.Writable) : 
    ∀ o ∈ os, o.flag ∈ Flag.ofEvery ++ Flag.ofOperations ++ Flag.ofConnections := by
  intro o ho
  have hm := hi.mem_written ho
  cases hf : o.flag <;> simp only [hf, Flags.written, Flags.written.switch, w.shared] at hm
  case json | help | version => cases hm
  all_goals decide

-- Whoever knows the flags that all commands share can read what is written.
theorem Interleaves.readable {g : Grammar} (hi : Interleaves fs os) (w : fs.Writable) 
    (known : Flag.ofEvery ++ Flag.ofOperations ++ Flag.ofConnections ⊆ g.flags) : g.Readable os where
  fits       := hi.fits w
  single     := hi.single
  known o ho := known (hi.shared w o ho)

-- Flags in front of a command count as if they stood behind it.
theorem inherit_collect (h : ∀ o ∈ front, o.flag ∈ Flag.ofEvery) : 
    (collect back).inherit (collect front) = collect (front ++ back) := by
  have none {f} (hf : f ∉ Flag.ofEvery) : valuesOf front f = [] := by
    simp only [valuesOf, List.map_eq_nil_iff, List.filter_eq_nil_iff, decide_eq_true_eq]
    exact fun o ho he => hf (he ▸ h o ho)
  apply Flags.ext <;> simp only [Flags.inherit, collect, collect.texts, valuesOf_append]
  case plain                     => cases valuesOf front .plain <;> simp
  case app | project | workspace => rw [List.filterMap_append, List.getLast?_append]
  case serverTls                 => simp [none (f := .serverTls) (by decide)]
  all_goals rw [none (by decide), List.nil_append]

end Occurrence

namespace Grammar.Readable

variable {g : Grammar} {os : List Occurrence} {o : Occurrence} {e : UsageError} 
variable {rest args : List String}

-- What stands in front of a spoiled flag is fine, so that nothing is reported before it is.
theorem scan_of_spoils (h : g.Readable os) (spoils : o.Spoils e) (ho : o.flag ∈ g.flags) : 
    g.scan {} (os.map Occurrence.text ++ o.text :: rest) = .error (.usage e) := by
  have ht : Token.read o.text ≠ .separator := by simp [Token.read_occurrence]
  rw [h.scan_append, scan, if_neg ht, take_occurrence spoils.shaped ho]
  simp only [Occurrence.reading, Reading.settle, usage, Except.ok_mapError, Except.ok_bind, spoils.heed]
  rfl

theorem scan_to_end (h : g.Readable os) : 
    g.scan {} (os.map Occurrence.text) = .ok (Occurrence.reading os, .done) := by
  rw [← List.append_nil (os.map _), h.scan_append]
  rfl

theorem readFlags_eq (h : g.Readable os) : 
    g.readFlags (os.map Occurrence.text) = .ok (Occurrence.reading os) := by
  rw [readFlags, h.scan_to_end]
  rfl

theorem readArguments_eq (h : g.Readable os) : 
    g.readArguments (os.map Occurrence.text) = .ok (Occurrence.collect os, []) := by
  rw [readArguments, h.scan_to_end]
  rfl

theorem readArguments_of_separated (h : g.Readable os) : 
    g.readArguments (os.map Occurrence.text ++ "--" :: args) = .ok (Occurrence.collect os, args) := by
  rw [readArguments, h.scan_append]
  rfl

end Grammar.Readable

namespace CommandLine

open Occurrence (Interleaves Spoils)

variable {fs : Flags} {os front back : List Occurrence} {c : Command} {rest args : List String}

theorem take_name {g : Grammar} {r : Reading} : g.take r c.name = .ok none := by
  cases c <;> rfl

theorem ofName?_name : Command.ofName? c.name = some c := by
  cases c <;> rfl

-- What stands behind a command is read on its own.
theorem read_eq (h : rootGrammar.Readable front) : 
    read (front.map Occurrence.text ++ c.name :: rest) = 
      ((grammar c).readArguments rest).map fun (inner, args) => 
        ⟨c, inner.inherit (Occurrence.collect front), args⟩ := by
  have ht : Token.read c.name ≠ .separator := by cases c <;> decide
  have hn : c.name ≠ Help.word := by cases c <;> decide
  have scanned : rootGrammar.scan {} (front.map Occurrence.text ++ c.name :: rest) = 
      .ok (Occurrence.reading front, .word c.name rest) := by
    rw [h.scan_append, Grammar.scan, if_neg ht, take_name]
    rfl
  simp only [read, scanned, Except.ok_bind, if_neg hn, ofName?_name]
  cases (grammar c).readArguments rest <;> rfl

theorem readable_flagGrammar (hi : Interleaves fs os) (w : fs.Writable) : flagGrammar.Readable os :=
  hi.readable w (List.subset_append_left _ _)

theorem readable_grammar (hi : Interleaves fs os) (w : fs.Writable) : (grammar c).Readable os := by
  refine hi.readable w fun f hf => ?_
  simp only [List.mem_append] at hf
  simp only [grammar, Command.ownFlags, List.mem_append]
  tauto

-- It does not matter on which side of the command a flag stands that all commands know.
theorem read_around (hi : Interleaves fs (front ++ back)) (w : fs.Writable) 
    (every : ∀ o ∈ front, o.flag ∈ Flag.ofEvery) 
    (hr : (grammar c).readArguments rest = .ok (Occurrence.collect back, args)) : 
    read (front.map Occurrence.text ++ c.name :: rest) = .ok ⟨c, fs, args⟩ := by
  have readable : rootGrammar.Readable front := 
    { (readable_flagGrammar hi w).front with known o ho := List.mem_append_left _ (every o ho) }
  have flags : (Occurrence.collect back).inherit (Occurrence.collect front) = fs := 
    (Occurrence.inherit_collect every).trans (hi.collect_eq w)
  rw [read_eq readable, hr, Except.ok_map, ← flags]

-- How flags are read back from the texts that they are written as. In front of a command stand such 
-- that all commands know.
structure ReadBack (fs : Flags) (os : List Occurrence) : Prop where
  alone     : (flagGrammar.readFlags (os.map Occurrence.text)).map (·.flags) = .ok fs
  command   : ∀ front back c, os = front ++ back → (∀ o ∈ front, o.flag ∈ Flag.ofEvery) → 
    read (front.map Occurrence.text ++ c.name :: back.map Occurrence.text) = .ok ⟨c, fs, []⟩ 
  separated : ∀ front back c args, os = front ++ back → (∀ o ∈ front, o.flag ∈ Flag.ofEvery) → 
    read (front.map Occurrence.text ++ c.name :: (back.map Occurrence.text ++ "--" :: args)) = 
      .ok ⟨c, fs, args⟩ 
  -- What is spoiled is reported, wherever it is put between the others.
  spoiled   : ∀ front back o e, os = front ++ back → Spoils o e → 
    flagGrammar.readFlags ((front ++ o :: back).map Occurrence.text) = .error (.usage e)

theorem readBack_of_interleaves (hi : Interleaves fs os) (w : fs.Writable) : ReadBack fs os := by
  constructor
  case alone     => 
    rw [(readable_flagGrammar hi w).readFlags_eq, Except.ok_map, ← hi.collect_eq w]
    rfl
  case command   => 
    rintro front back c rfl every
    exact read_around hi w every (readable_grammar hi w).back.readArguments_eq
  case separated => 
    rintro front back c args rfl every
    exact read_around hi w every (readable_grammar hi w).back.readArguments_of_separated
  case spoiled   => 
    rintro front back o e rfl h
    have readable : flagGrammar.Readable front := (readable_flagGrammar hi w).front
    have ho : o.flag ∈ flagGrammar.flags := by simp [flagGrammar, h.mem_ofOperations]
    rw [List.map_append, List.map_cons, Grammar.readFlags, readable.scan_of_spoils h ho]
    rfl

-- Flags can be written, and however they are written, they are read back.
theorem flags_read_back (w : fs.Writable) : 
    (∃ os, Interleaves fs os) ∧ (∀ os, Interleaves fs os → ReadBack fs os) ∧ 
      ∀ o e, Spoils o e → Unreadable o.text :=
  ⟨⟨_, Occurrence.interleaves_occurrences fs⟩, fun _ hi => readBack_of_interleaves hi w, 
    fun _ _ => unreadable_of_spoils⟩ 

-- Values may start with a hyphen, contain equals signs and blanks, or be empty. Keys may contain blanks,
-- but not only blanks.
theorem flags_read_back_mixed : 
    let fs : Flags := { 
      plain         := true
      app           := some "--plain"
      workspace     := some "a=b"
      labels        := [⟨"team", "web"⟩, ⟨"-tier", " =1"⟩, ⟨"team", ""⟩]
      remoteSource  := [⟨"ref", "--label=x"⟩]
      assignments   := [⟨"a b", "="⟩]
      variableFiles := [⟨"-"⟩, ⟨"x=y.toml"⟩]
      serverTls     := false
    }
    let os : List Occurrence := [
      ⟨.label, some "team=web"⟩, ⟨.assign, some "a b=="⟩, ⟨.assignFile, some "-"⟩, ⟨.plain, none⟩, 
      ⟨.label, some "-tier= =1"⟩, ⟨.app, some "--plain"⟩, ⟨.serverTls, some "false"⟩, 
      ⟨.remoteSource, some "ref=--label=x"⟩, ⟨.assignFile, some "x=y.toml"⟩, ⟨.workspace, some "a=b"⟩, 
      ⟨.label, some "team="⟩ 
    ]
    let blank : Occurrence := ⟨.assign, some " =x"⟩ 
    fs.Writable ∧ Interleaves fs os ∧ ReadBack fs os ∧ Unreadable blank.text := by
  intro fs os blank
  have w : fs.Writable := by decide +kernel
  have hi : Interleaves fs os := by 
    intro f
    left
    cases f <;> decide +kernel
  have parts : " =x" = " " ++ "=" ++ "x" := by decide
  have spoils : Spoils blank (.malformedValue .assign " =x" (.emptyKey " =x")) := 
    .intro (by decide) (.emptyKey parts (by decide))
  have ⟨_, readBack, unreadable⟩ := flags_read_back w
  exact ⟨w, hi, readBack os hi, unreadable blank _ spoils⟩ 

end CommandLine
end Rollout
