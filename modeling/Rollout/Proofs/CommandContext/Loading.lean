import Rollout.CommandContext
import Rollout.Proofs.Trace
import Rollout.Proofs.Variable
import Rollout.Proofs.VariableFile
namespace Rollout.CommandContext

variable {t t' : FileTree} {config : Option LoadedConfig} {inv : Invocation} {v : Variable} 
variable {p : Path} {ps paths : List Path} {files : List (Path × List (String × String))} 
variable {vs : Variables} {f : Failure} {e : VariableError} {name : String}

theorem readFiles_eq_ok_iff : (readFiles t ps).result = .ok files ↔ 
    files.map (·.1) = ps ∧ ∀ file ∈ files, VariableFile.read t file.1 = .ok file.2 := by
  induction ps generalizing files
  case nil          =>
    constructor
    case mp  => 
      intro h
      cases h
      exact ⟨rfl, nofun⟩
    case mpr =>
      intro ⟨h, _⟩
      rw [List.map_eq_nil_iff.mp h]
      rfl
  case cons p ps hi =>
    simp only [readFiles, Traced.result_bind_eq_ok_iff, Traced.result_asked, Traced.result_pure, hi]
    constructor
    case mp  =>
      rintro ⟨pairs, hp, rest, ⟨rfl, hr⟩, ⟨⟩⟩
      exact ⟨rfl, List.forall_mem_cons.mpr ⟨hp, hr⟩⟩
    case mpr =>
      intro ⟨hm, hr⟩
      obtain ⟨⟨p, pairs⟩, rest, rfl, rfl, rfl⟩ := List.map_eq_cons_iff.mp hm
      have ⟨hp, hr⟩ := List.forall_mem_cons.mp hr
      exact ⟨pairs, hp, rest, ⟨rfl, hr⟩, rfl⟩

theorem events_readFiles_of_ok (h : (readFiles t ps).result = .ok files) : 
    (readFiles t ps).events = ps.map .readFile := by
  induction ps generalizing files
  case nil          => rfl
  case cons p ps hi =>
    simp only [readFiles, Traced.result_bind_eq_ok_iff, Traced.result_asked] at h
    obtain ⟨pairs, hp, rest, hr, _⟩ := h
    have ha : (Traced.asked (.readFile p) (VariableFile.read t p)).result = .ok pairs := hp
    rw [readFiles, Traced.events_bind_of_ok ha, Traced.events_bind_of_ok hr, hi hr]
    simp

-- Reading ends with the first file that cannot be read.
theorem readFiles_eq_error_iff : (readFiles t ps).result = .error f ↔ 
    ∃ before p after, ps = before ++ p :: after ∧ 
      (∀ q ∈ before, ∃ pairs, VariableFile.read t q = .ok pairs) ∧ VariableFile.read t p = .error f := by
  induction ps
  case nil          => simp [readFiles]
  case cons p ps hi =>
    simp only [readFiles, Traced.result_bind_eq_error_iff, Traced.result_asked, Traced.result_pure, hi]
    constructor
    case mp  =>
      rintro (hf | ⟨pairs, hp, ⟨before, q, after, rfl, hb, hf⟩ | ⟨_, _, ⟨⟩⟩⟩)
      · exact ⟨[], p, ps, rfl, nofun, hf⟩
      · exact ⟨p :: before, q, after, rfl, List.forall_mem_cons.mpr ⟨⟨pairs, hp⟩, hb⟩, hf⟩
    case mpr =>
      rintro ⟨before, q, after, hq, hb, hf⟩
      cases List.cons_eq_append_iff.mp hq
      case inl hq =>
        obtain ⟨rfl, ⟨⟩⟩ := hq
        exact .inl hf
      case inr hq =>
        obtain ⟨before, rfl, rfl⟩ := hq
        have ⟨⟨pairs, hp⟩, hb⟩ := List.forall_mem_cons.mp hb
        exact .inr ⟨pairs, hp, .inl ⟨before, q, after, rfl, hb, hf⟩⟩

-- The last file with a value for a variable provides it.
theorem lastOf_files_iff (h : (readFiles t ps).result = .ok files) : 
    LastOf (·.name = v.name) (files.flatMap fun (p, pairs) => Variables.ofSource (.file p) pairs) v ↔ 
      ∃ p, v.source = .file p ∧ LastOf (VariableFile.Mentions t · v.name) ps p ∧ 
        VariableFile.Holds t p v.name v.value := by
  obtain ⟨rfl, hr⟩ := readFiles_eq_ok_iff.mp h
  have hp : ∀ file ∈ files, (∃ w ∈ Variables.ofSource (.file file.1) file.2, w.name = v.name) ↔ 
      VariableFile.Mentions t file.1 v.name := fun file hf => by
    rw [Variables.exists_ofSource_iff, VariableFile.mentions_iff (hr file hf)]
  rw [lastOf_flatMap_iff]
  simp only [lastOf_map_iff]
  constructor
  case mp  => 
    intro ⟨file, hl, hv⟩
    have ⟨hs, hv⟩ := Variables.lastOf_ofSource_iff.mp hv
    have hh := (VariableFile.lastOf_read_iff (hr file hl.mem)).mp hv
    exact ⟨file.1, hs.symm, ⟨file, hl.congr hp, rfl⟩, hh⟩
  case mpr =>
    rintro ⟨_, hs, ⟨file, hl, rfl⟩, hh⟩
    have hv := (VariableFile.lastOf_read_iff (hr file hl.mem)).mpr hh
    refine ⟨file, hl.congr fun file hf => (hp file hf).symm, ?_⟩
    exact Variables.lastOf_ofSource_iff.mpr ⟨hs.symm, hv⟩

theorem exists_files_iff (h : (readFiles t ps).result = .ok files) : 
    (∃ v ∈ files.flatMap fun (p, pairs) => Variables.ofSource (.file p) pairs, v.name = name) ↔ 
      ∃ p ∈ ps, VariableFile.Mentions t p name := by
  obtain ⟨rfl, hr⟩ := readFiles_eq_ok_iff.mp h
  simp only [List.mem_flatMap, List.mem_map]
  constructor
  case mp  =>
    rintro ⟨v, ⟨file, hf, hv⟩, hn⟩
    have hp := (Variables.exists_ofSource_iff _).mp ⟨v, hv, hn⟩
    exact ⟨file.1, ⟨file, hf, rfl⟩, (VariableFile.mentions_iff (hr file hf)).mpr hp⟩
  case mpr =>
    rintro ⟨_, ⟨file, hf, rfl⟩, hm⟩
    have hp := (VariableFile.mentions_iff (hr file hf)).mp hm
    have ⟨v, hv, hn⟩ := (Variables.exists_ofSource_iff (.file file.1)).mpr hp
    exact ⟨v, ⟨file, hf, hv⟩, hn⟩

theorem forall_files_iff (h : (readFiles t ps).result = .ok files) : 
    (∀ v ∈ files.flatMap fun (p, pairs) => Variables.ofSource (.file p) pairs, v.name ≠ name) ↔ 
      ∀ p ∈ ps, ¬VariableFile.Mentions t p name := by
  simpa using not_congr (exists_files_iff h)

theorem mem_automaticFiles (h : (automaticFiles t config).result = .ok paths) : p ∈ paths ↔ 
    ∃ loaded file, config = some loaded ∧ VariableFile.Unasked t loaded.dir file ∧ 
      loaded.dir.join ⟨file⟩ = p := by
  cases config
  case none        =>
    cases h
    simp
  case some loaded => 
    rw [VariableFile.mem_of_automatic h]
    simp

theorem lastOf_automaticFiles_iff (h : (automaticFiles t config).result = .ok paths) : 
    LastOf (VariableFile.Mentions t · name) paths p ↔ 
      ∃ loaded file, config = some loaded ∧ VariableFile.Latest t loaded.dir name file ∧ 
        loaded.dir.join ⟨file⟩ = p := by
  cases config
  case none        =>
    cases h
    simp [not_lastOf_nil]
  case some loaded => 
    rw [VariableFile.lastOf_automatic_iff h]
    simp

theorem loadVariables_eq_ok_iff : (loadVariables t config inv).result = .ok vs ↔ 
    ∃ paths files, (automaticFiles t config).result = .ok paths ∧ 
      (readFiles t (paths ++ inv.flags.variableFiles)).result = .ok files ∧ 
      Variables.merge ⟨inv.environment, files, inv.flags.assignments.map fun a => (a.key, a.value)⟩ = 
        .ok vs := by
  simp only [loadVariables, Traced.result_bind_eq_ok_iff, Traced.result_mapError_eq_ok_iff, 
    Traced.result_of, exists_and_left]

-- Once all values are known, all files have been read.
theorem events_loadVariables_of_ok (h : (loadVariables t config inv).result = .ok vs) 
    (hp : (automaticFiles t config).result = .ok paths) : 
    (loadVariables t config inv).events = 
      (automaticFiles t config).events ++ (paths ++ inv.flags.variableFiles).map .readFile := by
  obtain ⟨paths', files, hp', hf, hv⟩ := loadVariables_eq_ok_iff.mp h
  cases hp.symm.trans hp'
  rw [loadVariables, Traced.mapError_bind_of_ok hp, Traced.mapError_bind_of_ok hf, events_readFiles_of_ok hf]
  simp

theorem automaticFiles_eq_error_iff : (automaticFiles t config).result = .error f ↔ 
    ∃ loaded e, config = some loaded ∧ t.list loaded.dir = .error e ∧ e ≠ .notFound ∧ 
      f = ⟨[.read loaded.dir], .file e⟩ := by
  cases config
  case none        => simp [automaticFiles]
  case some loaded => 
    rw [automaticFiles, Traced.result_asked, VariableFile.automatic_eq_error_iff]
    simp

-- The first thing that is in the way of reading all files: the directory of the configuration cannot
-- be listed, or a file behind readable ones cannot be read.
inductive Unreadable (flags : Flags) (t : FileTree) (config : Option LoadedConfig) : Failure → Prop
  | listing {loaded e} (brought : config = some loaded) (fails : t.list loaded.dir = .error e) 
    (isThere : e ≠ .notFound) : Unreadable flags t config ⟨[.read loaded.dir], .file e⟩
  | file {paths before p after f} (listed : (automaticFiles t config).result = .ok paths)
    (order : paths ++ flags.variableFiles = before ++ p :: after)
    (readable : ∀ q ∈ before, ∃ pairs, VariableFile.read t q = .ok pairs) 
    (fails : VariableFile.read t p = .error f) : Unreadable flags t config f

theorem loadVariables_eq_error_iff : 
    (loadVariables t config inv).result = .error (.variableFile f) ↔ Unreadable inv.flags t config f := by
  simp only [loadVariables, Traced.result_bind_eq_error_iff, Traced.result_mapError_eq_ok_iff, 
    Traced.result_mapError_eq_error_iff, automaticFiles_eq_error_iff, readFiles_eq_error_iff]
  constructor
  case mp  =>
    rintro (⟨_, ⟨_, _, hl, hf, hn, rfl⟩, ⟨⟩⟩ | ⟨_, hp, h⟩)
    case inl => exact .listing hl hf hn
    case inr =>
      obtain ⟨_, ⟨_, _, _, ho, hr, hf⟩, ⟨⟩⟩ | ⟨_, _, _, _, ⟨⟩⟩ := h
      exact .file hp ho hr hf
  case mpr =>
    intro
    | .listing hl hf hn  => exact .inl ⟨_, ⟨_, _, hl, hf, hn, rfl⟩, rfl⟩
    | .file hp ho hr hf  => exact .inr ⟨_, hp, .inl ⟨_, ⟨_, _, _, ho, hr, hf⟩, rfl⟩⟩

-- All files have been read before a variable turns out to have no name.
theorem loadVariables_eq_unnamed_iff : 
    (loadVariables t config inv).result = .error (.unnamed e) ↔ ∃ paths files, 
      (automaticFiles t config).result = .ok paths ∧ 
      (readFiles t (paths ++ inv.flags.variableFiles)).result = .ok files ∧ 
      Variables.merge ⟨inv.environment, files, inv.flags.assignments.map fun a => (a.key, a.value)⟩ = 
        .error e := by
  simp only [loadVariables, Traced.result_bind_eq_error_iff, Traced.result_mapError_eq_ok_iff, 
    Traced.result_mapError_eq_error_iff, Traced.result_of]
  constructor
  case mp  =>
    rintro (⟨_, _, ⟨⟩⟩ | ⟨paths, hp, ⟨_, _, ⟨⟩⟩ | ⟨files, hf, _, hm, ⟨⟩⟩⟩)
    exact ⟨paths, files, hp, hf, hm⟩
  case mpr =>
    intro ⟨paths, files, hp, hf, hm⟩
    exact .inr ⟨paths, hp, .inr ⟨files, hf, _, hm, rfl⟩⟩

section

variable (r : t.Relisted t')

include r

theorem readFiles_of_relisted (ps : List Path) : readFiles t' ps = readFiles t ps := by
  induction ps
  case nil       => rfl
  case cons _ hi => simp only [readFiles, VariableFile.read_of_relisted r, hi]

theorem loadVariables_of_relisted (config : Option LoadedConfig) (inv : Invocation) : 
    loadVariables t' config inv = loadVariables t config inv := by
  have ha : automaticFiles t' config = automaticFiles t config := by
    cases config
    case none => rfl
    case some => simp only [automaticFiles, VariableFile.automatic_of_relisted r]
  simp only [loadVariables, ha, readFiles_of_relisted r]

end

end Rollout.CommandContext
