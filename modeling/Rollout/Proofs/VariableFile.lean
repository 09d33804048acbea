import Mathlib.Data.List.Nodup
import Rollout.VariableFile
import Rollout.Proofs.Except
import Rollout.Proofs.FileTree.Listing
import Rollout.Proofs.KeyOrder
import Rollout.Proofs.LastOf
import Rollout.Proofs.Text.Bytes
import Rollout.Proofs.Trace
namespace Rollout.VariableFile

variable {α : Type} {t t' : FileTree} {p dir : Path} {pairs : List (String × String)} {text : String}

-- A file can be read and gives a variable a value.
def Holds (t : FileTree) (p : Path) (name value : String) : Prop :=
  ∃ pairs, read t p = .ok pairs ∧ (name, value) ∈ pairs

def Mentions (t : FileTree) (p : Path) (name : String) : Prop :=
  ∃ value, Holds t p name value

-- The name of a file in a directory that is used without being named.
structure Unasked (t : FileTree) (dir : Path) (file : String) : Prop where
  listed : ∃ names, t.list dir = .ok names ∧ file ∈ names
  ending : isAutomatic file
  isFile : t.isFile (dir.join ⟨file⟩)

-- Of the files that are used without being named and give a variable a value, the one whose name comes
-- last in order of the bytes.
structure Latest (t : FileTree) (dir : Path) (name file : String) : Prop where
  unasked  : Unasked t dir file
  mentions : Mentions t (dir.join ⟨file⟩) name
  greatest : ∀ other, Unasked t dir other → Mentions t (dir.join ⟨other⟩) name → 
    Text.bytes other ≤ Text.bytes file

-- The values of a file are rendered one by one.
theorem render_eq_ok_iff {text? : α → Option String} {values : List (String × α)} : 
    render text? values = .ok pairs ↔ 
      KeyOrder.Valuewise (text? · = some ·) (KeyOrder.ofList values) pairs := by
  unfold render
  generalize KeyOrder.ofList values = table
  constructor
  case mp  =>
    intro h
    induction table generalizing pairs
    case nil             => exact Except.ok.inj h ▸ .nil
    case cons v table hi =>
      rcases v with ⟨name, v⟩
      rw [List.mapM_cons] at h
      have ⟨pair, hp, hq⟩ := Except.bind_eq_ok_iff.mp h
      have ⟨rest, hr, hq⟩ := Except.bind_eq_ok_iff.mp hq
      dsimp only at hp
      cases hq
      split at hp <;> cases hp
      case h_1 hv => exact .cons hv (hi hr)
  case mpr =>
    intro h
    induction h
    case nil          => rfl
    case cons hv _ hi => simp [List.mapM_cons, hv, hi]

theorem keys_render {text? : α → Option String} {values : List (String × α)} 
    (h : render text? values = .ok pairs) : 
    KeyOrder.keys pairs = KeyOrder.keys (KeyOrder.ofList values) :=
  (render_eq_ok_iff.mp h).keys_eq

theorem nodup_render {text? : α → Option String} {values : List (String × α)} 
    (h : render text? values = .ok pairs) : (KeyOrder.keys pairs).Nodup :=
  keys_render h ▸ KeyOrder.nodup_ofList values

theorem parseToml_eq_ok_iff : parseToml text = .ok pairs ↔ ∃ table values, 
    Toml.Document.read text = .ok table ∧ Toml.Value.settleEntries? table = some values ∧ 
      render ofToml values = .ok pairs := by
  refine Except.bind_eq_ok_iff.trans (exists_congr fun table => ?_)
  simp only [Failure.because, Traced.mapError_eq_ok_iff]
  cases hv : Toml.Value.settleEntries? table <;> simp

theorem parseJson_eq_ok_iff : parseJson text = .ok pairs ↔ ∃ members, 
    Json.Document.read text = .ok (.object members) ∧ render ofJson members = .ok pairs := by
  refine Except.bind_eq_ok_iff.trans ?_
  simp only [Failure.because, Traced.mapError_eq_ok_iff]
  constructor
  case mp  =>
    rintro ⟨v, hr, h⟩
    split at h
    case h_1 => exact ⟨_, hr, h⟩
    case h_2 => contradiction
  case mpr => exact fun ⟨_, hr, h⟩ => ⟨_, hr, h⟩

theorem nodup_parseToml (h : parseToml text = .ok pairs) : (KeyOrder.keys pairs).Nodup := by
  have ⟨_, _, _, _, h⟩ := parseToml_eq_ok_iff.mp h
  exact nodup_render h

theorem nodup_parseJson (h : parseJson text = .ok pairs) : (KeyOrder.keys pairs).Nodup := by
  have ⟨_, _, h⟩ := parseJson_eq_ok_iff.mp h
  exact nodup_render h

-- A file gives each name one value.
theorem nodup_read (h : read t p = .ok pairs) : (KeyOrder.keys pairs).Nodup := by
  have ⟨text, _, h⟩ := Except.bind_eq_ok_iff.mp h
  have h := Traced.mapError_eq_ok_iff.mp h
  unfold parse at h
  split at h
  case isTrue  => exact nodup_parseJson h
  case isFalse => exact nodup_parseToml h

theorem holds_iff {name value : String} (h : read t p = .ok pairs) : 
    Holds t p name value ↔ (name, value) ∈ pairs := by
  simp [Holds, h]

theorem mentions_iff {name : String} (h : read t p = .ok pairs) : 
    Mentions t p name ↔ ∃ value, (name, value) ∈ pairs :=
  exists_congr fun _ => holds_iff h

theorem lastOf_read_iff {name value : String} (h : read t p = .ok pairs) : 
    LastOf (·.1 = name) pairs (name, value) ↔ Holds t p name value := by
  have hu : ∀ a ∈ pairs, ∀ b ∈ pairs, a.1 = name → b.1 = name → a = b := 
    fun a ha b hb hna hnb => List.inj_on_of_nodup_map (nodup_read h) ha hb (hna.trans hnb.symm)
  rw [lastOf_iff_of_unique hu, holds_iff h, and_iff_left rfl]

theorem nameLe_iff {a b : String} : nameLe a b ↔ a ≤ b := by
  simp [nameLe]

theorem linear_nameLe : KeyOrder.Linear nameLe where
  trans a b c    := by simpa only [nameLe_iff] using String.le_trans
  total a b      := by simpa only [nameLe_iff, Bool.or_eq_true] using String.le_total a b
  antisymm a b   := by simpa only [nameLe_iff] using String.le_antisymm

-- A directory that does not exist is as good as an empty one.
theorem automatic_eq_error_iff : automatic t dir = .error f ↔ 
    ∃ e, t.list dir = .error e ∧ e ≠ .notFound ∧ f = ⟨[.read dir], .file e⟩ := by
  unfold automatic
  split
  case h_1 hl    => simp [hl]
  case h_2 e hn hl => 
    constructor
    case mp  => 
      rintro ⟨⟩
      exact ⟨e, hl, hn, rfl⟩
    case mpr =>
      rintro ⟨_, he, _, rfl⟩
      cases hl ▸ he
      rfl
  case h_3 hl    => simp [hl]

-- The files that are used without being named come in order of their names.
theorem exists_of_automatic (h : automatic t dir = .ok paths) : 
    ∃ files : List String, paths = files.map (fun file => dir.join ⟨file⟩) ∧ 
      files.Pairwise (nameLe · ·) ∧ ∀ file, file ∈ files ↔ Unasked t dir file := by
  unfold automatic at h
  split at h <;> cases h
  case h_1 hl       =>
    refine ⟨[], rfl, .nil, fun file => ⟨nofun, fun u => ?_⟩⟩
    have ⟨_, hn, _⟩ := u.listed
    cases hl ▸ hn
  case h_3 names hl =>
    refine ⟨_, rfl, linear_nameLe.pairwise _, fun file => ?_⟩
    rw [List.mem_mergeSort, List.mem_filter, Bool.and_eq_true]
    constructor
    case mp  => exact fun ⟨hm, he, hf⟩ => ⟨⟨names, hl, hm⟩, he, hf⟩
    case mpr =>
      intro ⟨⟨names', hn, hm⟩, he, hf⟩
      cases hl ▸ hn
      exact ⟨hm, he, hf⟩

theorem mem_of_automatic (h : automatic t dir = .ok paths) : 
    p ∈ paths ↔ ∃ file, Unasked t dir file ∧ dir.join ⟨file⟩ = p := by
  have ⟨files, hp, _, hm⟩ := exists_of_automatic h
  simp only [hp, List.mem_map, hm]

theorem lastOf_automatic_iff {name : String} (h : automatic t dir = .ok paths) : 
    LastOf (Mentions t · name) paths p ↔ ∃ file, Latest t dir name file ∧ dir.join ⟨file⟩ = p := by
  have ⟨files, hp, ho, hm⟩ := exists_of_automatic h
  rw [hp, lastOf_map_iff]
  refine exists_congr fun file => and_congr_left fun _ => ?_
  rw [lastOf_iff_of_pairwise ho linear_nameLe.refl linear_nameLe.antisymm, hm]
  simp only [nameLe_iff, ← Text.bytes_le_iff]
  constructor
  case mp  => exact fun ⟨hu, hn, hg⟩ => ⟨hu, hn, fun other ho => hg other ((hm other).mpr ho)⟩
  case mpr => exact fun ⟨hu, hn, hg⟩ => ⟨hu, hn, fun other ho => hg other ((hm other).mp ho)⟩

theorem read_of_relisted (r : t.Relisted t') (p : Path) : read t' p = read t p := by
  simp only [read, r.read]

-- The order in which a directory lists its files does not matter.
theorem automatic_of_relisted (r : t.Relisted t') (dir : Path) : automatic t' dir = automatic t dir := by
  unfold automatic
  obtain ⟨e, he, he'⟩ | ⟨names, names', hn, hn', hp⟩ := r.list dir
  · simp only [he, he', r.isFile]
  · simp only [hn, hn', r.isFile, linear_nameLe.mergeSort_eq (hp.filter _)]

end Rollout.VariableFile
