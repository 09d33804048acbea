import Mathlib.Data.List.Forall2
import Rollout.Project
import Rollout.Proofs.Json.Document
import Rollout.Proofs.Json.Members
import Rollout.Proofs.Json.Writer
import Rollout.Routing
namespace Rollout.Project

open Json (Value Mixes Field)

-- What an object says that is only about a name.
inductive Naming (name : String) : Value → Prop
  | intro {ms} (members : Mixes ["name"] [("name", .string name)] ms) : Naming name (.object ms)

-- What is said about something that may be missing.
inductive Perhaps (Tells : α → Value → Prop) : Option α → Value → Prop
  | nothing : Perhaps Tells none .null
  | something {a v} (value : Tells a v) : Perhaps Tells (some a) v

-- What an object says about a data source.
inductive Sourcing : DataSource → Value → Prop
  | here {ms} (members : Mixes ["type"] [("type", .string "local")] ms) : Sourcing .here (.object ms)
  | git {url path ref ps rs ms} (paths : Field "path" (· = .string path) (path = "") ps) 
    (refs : Field "ref" (· = .string ref) (ref = "") rs) 
    (members : Mixes ["type", "url", "path", "ref"] 
      (("type", .string "git") :: ("url", .string url) :: (ps ++ rs)) ms) : 
    Sourcing (.git url path ref) (.object ms)

-- An object describes a project: it has all fields in some order, some of them left out, and possibly
-- members that nobody knows.
inductive Describes (p : Project) : Value → Prop
  | intro {as es ds rs ms} 
    (apps : Field "applications" (fun v => ∃ items, v = .array items ∧ List.Forall₂ Naming p.apps items) 
      (p.apps = []) as) 
    (enabled : Field "remote_enabled" (· = .boolean p.remoteEnabled) (p.remoteEnabled = false) es) 
    (source : Field "data_source" (Perhaps Sourcing p.dataSource) (p.dataSource = none) ds) 
    (runner : Field "ondemand_runner" (Perhaps Naming p.runner) (p.runner = none) rs) 
    (members : Mixes ["name", "applications", "remote_enabled", "data_source", "ondemand_runner"] 
      (("name", .string p.name) :: (as ++ es ++ ds ++ rs)) ms) : Describes p (.object ms)

variable {known : List String} {fields ms ps parts : List (String × Value)} {name : String} {v : Value}
variable {p : Project} {source : DataSource}

theorem parts?_of_mixes (h : Mixes known fields ms) (hf : (fields.map (·.1)).Sublist known) 
    (hk : known.Nodup) : parts? known (.object ms) = some ms := by
  rw [parts?, if_pos]
  refine List.all_eq_true.mpr fun name hn => decide_eq_true ?_
  rw [h.filter_eq hf hk hn]
  exact Json.length_filter_le_one hf hk name

theorem optional_of_field {α : Type} {Holds : Value → Prop} {usual : Prop} {read? : Value → Option α} 
    {a otherwise : α} (h : Field name Holds usual ps) (hl : parts.lookup name = ps.lookup name) 
    (hr : ∀ v, Holds v → read? v = some a) (hu : usual → a = otherwise) : 
    optional parts name read? otherwise = some a := by
  cases h
  case given hv   => simp [optional, hl, hr _ hv]
  case omitted hi => simp [optional, hl, hu hi]

theorem Naming.named? (h : Naming name v) : named? v = some name := by
  obtain ⟨h⟩ := h
  have hf : ([("name", Value.string name)].map (·.1)).Sublist ["name"] := by simp
  have hl := h.lookup_eq hf (by simp) (List.mem_singleton_self _)
  simp [Project.named?, parts?_of_mixes h hf (by simp), hl, text?]

theorem mapM_named? {names : List String} {items : List Value} (h : List.Forall₂ Naming names items) : 
    items.mapM named? = some names := by
  induction h
  case nil         => rfl
  case cons h _ hi => simp [List.mapM_cons, h.named?, hi]

theorem Naming.shallow (h : Naming name v) : v.Shallow := by
  obtain ⟨h⟩ := h
  exact .object (h.forall_mem (List.forall_mem_singleton.mpr (.string name)) fun _ => id)

theorem Sourcing.shallow (h : Sourcing source v) : v.Shallow := by
  cases h
  case here h      => exact .object (h.forall_mem (List.forall_mem_singleton.mpr (.string _)) fun _ => id)
  case git hp hr h =>
    refine .object (h.forall_mem ?_ fun _ => id)
    simp only [List.forall_mem_cons, List.forall_mem_append]
    exact ⟨.string _, .string _, hp.forall_mem fun _ hs => hs ▸ .string _, 
      hr.forall_mem fun _ hs => hs ▸ .string _⟩ 

-- An object without nesting can be kept, wherever it stands.
theorem soundSource?_of_shallow (h : v.Shallow) : soundSource? v = source? v := by
  simp [soundSource?, h.isSound, h.depth_eq_one, Json.Document.maxDepth]

theorem source?_of_mixes {type : Value} (h : Mixes ("type" :: known) (("type", type) :: fields) ms) 
    (hf : (fields.map (·.1)).Sublist known) (hk : ("type" :: known).Nodup) : 
    source? (.object ms) = typedSource? type (.object (ms.filter (·.1 ≠ "type"))) := by
  have hn : "type" ∉ known := (List.nodup_cons.mp hk).left
  have hfs : fields.filter (·.1 = "type") = [] := by
    refine List.filter_eq_nil_iff.mpr fun x hx he => hn (hf.subset ?_)
    exact decide_eq_true_eq.mp he ▸ List.mem_map_of_mem hx
  have ht := h.filter_eq (hf.cons_cons "type") hk List.mem_cons_self
  rw [List.filter_cons_of_pos (by simp), hfs] at ht
  rw [source?, ht]

theorem sublist_git {path ref : String} {ps rs : List (String × Value)} (url : String) 
    (hp : Field "path" (· = .string path) (path = "") ps) (hr : Field "ref" (· = .string ref) (ref = "") rs) : 
    ((("url", Value.string url) :: (ps ++ rs)).map (·.1)).Sublist ["url", "path", "ref"] := by
  rw [List.map_cons, List.map_append]
  exact (hp.sublist.append hr.sublist).cons_cons "url"

theorem git?_of_mixes {url path ref : String} {ps rs : List (String × Value)} 
    (hp : Field "path" (· = .string path) (path = "") ps) (hr : Field "ref" (· = .string ref) (ref = "") rs) 
    (h : Mixes ["url", "path", "ref"] (("url", .string url) :: (ps ++ rs)) ms) : 
    git? (.object ms) = some (.git url path ref) := by
  have hk : ["url", "path", "ref"].Nodup := by simp
  have hf := sublist_git url hp hr
  have hl (name : String) := @Mixes.lookup_eq _ _ _ name h hf hk
  have hu : ms.lookup "url" = some (.string url) := hl "url" (by simp)
  have ⟨hpath, href⟩ : ms.lookup "path" = ps.lookup "path" ∧ ms.lookup "ref" = rs.lookup "ref" := by
    simp [hl, List.lookup_cons, List.lookup_append, hp.lookup_of_ne, hr.lookup_of_ne]
  have hop : optional ms "path" text? "" = some path := 
    optional_of_field hp hpath (by rintro _ rfl; rfl) id
  have hor : optional ms "ref" text? "" = some ref := 
    optional_of_field hr href (by rintro _ rfl; rfl) id
  simp [git?, parts?_of_mixes h hf hk, hu, hop, hor, text?]

theorem Sourcing.soundSource? (h : Sourcing source v) : soundSource? v = some source := by
  rw [soundSource?_of_shallow h.shallow]
  cases h
  case here h                            =>
    rw [source?_of_mixes h (List.nil_sublist _) (by simp)]
    rfl
  case git url path ref ps rs ms hp hr h => 
    have hs := sublist_git url hp hr
    rw [source?_of_mixes h hs (by simp)]
    exact git?_of_mixes hp hr (h.tail hs (by simp))

theorem Perhaps.unlessNull {α : Type} {Tells : α → Value → Prop} {read? : Value → Option α} {a? : Option α} 
    (h : Perhaps Tells a? v) (hr : ∀ a v, Tells a v → read? v = some a ∧ v ≠ .null) : 
    unlessNull read? v = some a? := by
  cases h
  case nothing     => rfl
  case something h => 
    have ⟨hv, hn⟩ := hr _ _ h
    unfold Project.unlessNull
    split
    case h_1 => contradiction
    case h_2 => rw [hv, Option.map_some]

-- Members in any order are read as what they describe.
theorem Describes.ofJson? (h : Describes p v) : ofJson? v = some p := by
  obtain @⟨as, es, ds, rs, ms, ha, he, hd, hr, h⟩ := h
  have hk : ["name", "applications", "remote_enabled", "data_source", "ondemand_runner"].Nodup := by simp
  have hf : ((("name", Value.string p.name) :: (as ++ es ++ ds ++ rs)).map (·.1)).Sublist 
      ["name", "applications", "remote_enabled", "data_source", "ondemand_runner"] := by
    simp only [List.map_cons, List.map_append]
    exact (((ha.sublist.append he.sublist).append hd.sublist).append hr.sublist).cons_cons "name"
  have hl (name : String) := @Mixes.lookup_eq _ _ _ name h hf hk
  have hname : ms.lookup "name" = some (.string p.name) := hl "name" (by simp)
  have ⟨hla, hle, hld, hlr⟩ : ms.lookup "applications" = as.lookup "applications" ∧ 
      ms.lookup "remote_enabled" = es.lookup "remote_enabled" ∧ 
      ms.lookup "data_source" = ds.lookup "data_source" ∧ 
      ms.lookup "ondemand_runner" = rs.lookup "ondemand_runner" := by
    simp [hl, List.lookup_cons, List.lookup_append, ha.lookup_of_ne, he.lookup_of_ne, hd.lookup_of_ne, 
      hr.lookup_of_ne]
  have hoa : optional ms "applications" apps? [] = some p.apps := 
    optional_of_field ha hla (by rintro _ ⟨items, rfl, hi⟩; exact mapM_named? hi) id
  have hoe : optional ms "remote_enabled" switch? false = some p.remoteEnabled :=
    optional_of_field he hle (by rintro _ rfl; rfl) id
  have hod : optional ms "data_source" (unlessNull Project.soundSource?) none = some p.dataSource := 
    optional_of_field hd hld (fun _ ht => ht.unlessNull fun _ _ h => ⟨h.soundSource?, by cases h <;> simp⟩) id
  have hor : optional ms "ondemand_runner" (unlessNull Project.named?) none = some p.runner := 
    optional_of_field hr hlr (fun _ ht => ht.unlessNull fun _ _ h => ⟨h.named?, by cases h; simp⟩) id
  simp [Project.ofJson?, parts?_of_mixes h hf hk, hname, text?, hoa, hoe, hod, hor]

theorem naming_namedJson (name : String) : Naming name (namedJson name) :=
  .intro (.refl _ _)

theorem sourcing_sourceJson (source : DataSource) : Sourcing source (sourceJson source) := by
  cases source
  case here => exact .here (.refl _ _)
  case git  => exact .git (.given rfl) (.given rfl) (.refl _ _)

theorem perhaps_elim {α : Type} {Tells : α → Value → Prop} {json : α → Value} (a? : Option α) 
    (h : ∀ a, Tells a (json a)) : Perhaps Tells a? (a?.elim .null json) := by
  cases a?
  case none   => exact .nothing
  case some a => exact .something (h a)

theorem describes_toJson (p : Project) : Describes p p.toJson := by
  have apps : List.Forall₂ Naming p.apps (p.apps.map namedJson) := 
    List.forall₂_map_right_iff.mpr (List.forall₂_same.mpr fun name _ => naming_namedJson name)
  exact .intro (.given ⟨_, rfl, apps⟩) (.given rfl) (.given (perhaps_elim _ sourcing_sourceJson)) 
    (.given (perhaps_elim _ naming_namedJson)) (.refl _ _)

theorem forall_writable_of_naming {names : List String} {items : List Value} 
    (h : List.Forall₂ Naming names items) : ∀ v ∈ items, v.Writable := by
  induction h
  case nil         => nofun
  case cons h _ hi => exact List.forall_mem_cons.mpr ⟨h.shallow.writable, hi⟩ 

theorem Perhaps.writable {α : Type} {Tells : α → Value → Prop} {a? : Option α} (h : Perhaps Tells a? v) 
    (hw : ∀ a v, Tells a v → v.Writable) : v.Writable := by
  cases h
  case nothing     => exact .null
  case something h => exact hw _ _ h

theorem Describes.writable (h : Describes p v) : v.Writable := by
  obtain ⟨ha, he, hd, hr, h⟩ := h
  refine .object (h.forall_mem ?_ fun _ => Value.Plain.writable)
  simp only [List.forall_mem_cons, List.forall_mem_append]
  refine ⟨.string _, ⟨⟨ha.forall_mem ?_, he.forall_mem ?_⟩, hd.forall_mem ?_⟩, hr.forall_mem ?_⟩ 
  case refine_1 => 
    rintro _ ⟨items, rfl, hi⟩ 
    exact .array (forall_writable_of_naming hi)
  case refine_2 => rintro _ rfl; exact .boolean _
  case refine_3 => exact fun _ ht => ht.writable fun _ _ h => h.shallow.writable
  case refine_4 => exact fun _ ht => ht.writable fun _ _ h => h.shallow.writable

theorem parse?_of_writes {text : String} (h : Json.Document.Writes (.padded v) text.toList) : 
    parse? text = ofJson? v := by
  rw [parse?, ← String.length_toList, Json.Document.readChars?_length h]
  rfl

-- A project is known exactly from every text that describes it, whatever the order of the fields and
-- whatever else is said, and so it is routed as it should be. Its own text is one of them.
theorem known_as_described (p : Project) : 
    (∀ v (text : String), Describes p v → Json.Document.Writes (.padded v) text.toList → 
      parse? text = some p ∧ ∀ s, (parse? text).map (Routing.decide s) = some (Routing.decide s p)) ∧ 
      Describes p p.toJson ∧ parse? p.toJson.compact = some p ∧ parse? p.toJson.pretty = some p := by
  have read {v : Value} {text : String} (h : Describes p v) 
      (hw : Json.Document.Writes (.padded v) text.toList) : parse? text = some p := 
    (parse?_of_writes hw).trans h.ofJson?
  have h := describes_toJson p
  have ⟨compact, pretty⟩ := h.writable.writes
  refine ⟨fun v text h hw => ⟨read h hw, fun s => by rw [read h hw, Option.map_some]⟩, h, ?_, ?_⟩ 
  case refine_1 => exact read h (by simpa [Value.compact] using compact.alone)
  case refine_2 => exact read h (by simpa [Value.pretty] using (pretty 0).alone)

-- The fields are in another order, some of them are left out, and unknown ones are among them.
theorem known_as_described_shop : 
    let p : Project := ⟨"shop", ["web"], false, some (.git "u" "" "main"), none⟩ 
    let text := "\x7b\"owner\":null,\"data_source\":\x7b\"depth\":-7,\"ref\":\"main\",\"url\":\"u\"," ++ 
      "\"type\":\"git\"\x7d,\"applications\":[\x7b\"tier\":true,\"name\":\"web\"\x7d],\"name\":\"shop\"\x7d"
    parse? text = some p ∧ ∀ s, (parse? text).map (Routing.decide s) = some (Routing.decide s p) := by
  intro p text
  let source : Value := .object [("depth", .number (.ofInt (-7))), ("ref", .string "main"), 
    ("url", .string "u"), ("type", .string "git")]
  let app : Value := .object [("tier", .boolean true), ("name", .string "web")]
  let v : Value := .object [("owner", .null), ("data_source", source), ("applications", .array [app]), 
    ("name", .string "shop")]
  have depth : (Value.number (.ofInt (-7))).Plain := .integer (by decide) (by decide)
  have hs : Sourcing (.git "u" "" "main") source := .git (.omitted rfl) (.given rfl) <| 
    .of_reverse _ [("depth", _)] (List.forall_mem_singleton.mpr ⟨by decide, depth⟩)
  have ha : Naming "web" app := .intro <|
    .of_reverse _ [("tier", _)] (List.forall_mem_singleton.mpr ⟨by decide, .boolean true⟩)
  have h : Describes p v := 
    .intro (.given ⟨_, rfl, .cons ha .nil⟩) (.omitted rfl) (.given (.something hs)) (.omitted rfl) <|
    .of_reverse _ [("owner", _)] (List.forall_mem_singleton.mpr ⟨by decide, .null⟩)
  have ht : text.toList = Json.Writer.compact v := by decide +kernel
  exact (known_as_described p).left v text h (ht ▸ h.writable.writes.left.alone)

end Rollout.Project
