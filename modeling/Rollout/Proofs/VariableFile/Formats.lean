import Rollout.Proofs.Path.Parent
import Rollout.Proofs.VariableFile
import Rollout.Proofs.VariableFile.Setting
namespace Rollout.VariableFile

open KeyOrder (keys)
open Toml.Quoting (quote Basic)

variable {t : FileTree} {p : Path} {text name : String} {pairs : List (String × String)} 
variable {entries lines : Settings} {k u rest : List Char} {c : Char}

-- The ending of a file that is read as JSON may be written in any case.
theorem isJson_join {stem ending : String} (dir : Path) (hs : stem ≠ "") (hn : '/' ∉ stem.toList) 
    (he : ending.toList.map Char.toLower = ['j', 's', 'o', 'n']) : isJson (dir.join ⟨stem ++ "." ++ ending⟩) := by
  have hd (d : Char) (hl : d.toLower ∉ ['j', 's', 'o', 'n']) : d ∉ ending.toList := 
    fun hm => hl (he ▸ List.mem_map_of_mem hm)
  have hl : ending.toList.length = 4 := by simpa using congrArg List.length he
  have hn : Path.IsName (stem ++ "." ++ ending) := by
    have hlen (name : String) (h : name.toList.length ≤ 2) : stem ++ "." ++ ending ≠ name := by
      rintro rfl
      simp at h hl
      omega
    exact ⟨by simp [hn, hd '/' (by decide)], by simp [Path.isSilent, hlen], hlen _ (by decide)⟩
  obtain ⟨c, cs, hc⟩ := List.exists_cons_of_ne_nil (l := stem.toList.reverse) (by simpa using hs)
  have hw : (stem ++ "." ++ ending).toList.reverse = ending.toList.reverse ++ '.' :: c :: cs := by simp [hc]
  have hb : ∀ d ∈ ending.toList.reverse, decide (d ≠ '.') := 
    fun d hm => decide_eq_true fun hdot => hd '.' (by decide) (hdot ▸ List.mem_reverse.mp hm)
  have hr : ∀ d ∈ ('.' :: c :: cs).head?, decide (d ≠ '.') = false := by simp
  obtain ⟨ht, hdrop⟩ := Toml.Word.takeWhile_append hb hr
  simp only [isJson, Path.extension?, Path.fileName?_join hn, Option.bind_eq_bind, Option.bind_some, hw, ht, hdrop]
  simpa using he

-- Settings are rendered as what they are in either format.
theorem render_settings {α : Type} {text? : α → Option String} {value : Setting → α} (hn : (keys entries).Nodup) 
    (h : ∀ e ∈ entries, text? (value e.2) = some e.2.rendered) : 
    render text? (entries.map fun (name, v) => (name, value v)) = .ok (KeyOrder.ofList entries.rendered) := by
  rw [render_eq_ok_iff, KeyOrder.ofList_map, Settings.rendered, KeyOrder.ofList_map]
  exact .of_map fun e he => h e ((KeyOrder.perm_ofList hn).mem_iff.mp he)

-- Every value of a file that can be rendered is a scalar.
theorem exists_of_render {α : Type} {text? : α → Option String} {values : List (String × α)} {v : α} 
    (hn : (keys values).Nodup) (h : render text? values = .ok pairs) (hm : (name, v) ∈ values) : 
    ∃ s, text? v = some s ∧ (name, s) ∈ pairs :=
  (render_eq_ok_iff.mp h).exists_of_mem ((KeyOrder.perm_ofList hn).mem_iff.mpr hm)

theorem parseJson_settings (hn : (keys entries).Nodup) (hf : ∀ e ∈ entries, e.2.Fits) 
    (h : Json.Document.Writes (.padded (.object entries.toJson)) text.toList) : 
    parseJson text = .ok (KeyOrder.ofList entries.rendered) := by
  have hr : Json.Document.read text = .ok (.object entries.toJson) := by
    have hs := Settings.shallow_toJson hf
    simp [Json.Document.read_of_writes h, hs.isSound, hs.depth_eq_one, Json.Document.maxDepth]
  exact parseJson_eq_ok_iff.mpr ⟨_, hr, render_settings hn fun e he => Setting.ofJson_toJson (hf e he)⟩

theorem parseToml_settings (hn : (keys entries).Nodup) (hf : ∀ e ∈ entries, e.2.Fits) 
    (h : Assigned entries text.toList) : parseToml text = .ok (KeyOrder.ofList entries.rendered) := by
  have ⟨ss, laid, hs⟩ := h.exists_laid
  have hb : text.toList.head? ≠ some '\ufeff' := fun hb => nomatch h.head? _ hb
  have hd := hs [] (by rwa [List.nil_append, Settings.keys_nodes])
  have hr := Toml.Document.read_of_laid laid hb hd
  rw [List.nil_append, Settings.toTable_nodes] at hr
  have hv : Toml.Value.settleEntries? entries.toToml = some entries.toToml := 
    Toml.Value.settleEntries?_eq_some_iff.mpr (.of_map fun e he => Setting.settle?_toToml (hf e he))
  exact parseToml_eq_ok_iff.mpr ⟨_, _, hr, hv, render_settings hn fun e _ => Setting.ofToml_toToml e.2⟩

-- A value of JSON that holds others.
inductive Collection : Json.Value → Prop
  | array (items : List Json.Value) : Collection (.array items)
  | object (members : List (String × Json.Value)) : Collection (.object members)

-- No value that holds others can be rendered.
theorem parseJson_of_collection {members : List (String × Json.Value)} {v : Json.Value} (hn : (keys members).Nodup) 
    (hm : (name, v) ∈ members) (hv : Collection v) 
    (h : Json.Document.Writes (.padded (.object members)) text.toList) : parseJson text ≠ .ok pairs := by
  intro hp
  obtain ⟨members', hr, hp⟩ := parseJson_eq_ok_iff.mp hp
  obtain rfl : members' = members := by
    rw [Json.Document.read_of_writes h] at hr
    split at hr
    case isFalse => contradiction
    case isTrue  => 
      split at hr <;> cases hr
      rfl
  obtain ⟨s, hs, _⟩ := exists_of_render hn hp hm
  cases hv <;> cases hs

-- A name stands for a table with the key that is set aside for dates and times, in front of all other keys. Such
-- a table is taken for the date or time that the key holds.
def Disguised (text name : String) (m : Toml.Moment) : Prop :=
  ∃ table members, Toml.Document.read text = .ok table ∧ table.lookup name = some (.table members) ∧ 
    Toml.Value.isMoment members ∧ Toml.Value.moment? members = some m

-- Nothing that begins like a collection can be rendered, but for the tables that are taken for something else.
theorem disguised_of_parseToml (hn : (keys lines).Nodup) (h : Assigned lines u) (hk : Basic name.toList k) 
    (hc : c = '[' ∨ c = '\x7b') (ht : text.toList = u ++ (quote :: k ++ [quote] ++ ' ' :: '=' :: ' ' :: c :: rest)) 
    (hp : parseToml text = .ok pairs) : c = '\x7b' ∧ ∃ m, Disguised text name m ∧ (name, m.text) ∈ pairs := by
  obtain ⟨table, values, hr, he, hp⟩ := parseToml_eq_ok_iff.mp hp
  obtain ⟨ss, laid, hs⟩ := h.exists_laid
  have hd := hs [] (by rwa [List.nil_append, Settings.keys_nodes])
  have hb : text.toList.head? ≠ some '\ufeff' := by
    have hu := h.head? '\ufeff'
    cases u <;> simp_all [quote]
  obtain ⟨v, hl, ho⟩ := Toml.Document.exists_lookup_of_read ht laid hb hd (.of_basic hk) hc hr
  have hm : (name, v) ∈ table := by
    obtain ⟨_, _, rfl, _⟩ := List.lookup_eq_some_iff.mp hl
    simp
  have hv := Toml.Value.settleEntries?_eq_some_iff.mp he
  obtain ⟨w, hw, hm⟩ := hv.exists_of_mem hm
  obtain ⟨s, hs, hm⟩ := exists_of_render (hv.keys_eq ▸ Toml.Document.nodup_read hr) hp hm
  obtain ho' | ⟨members, m, rfl, hi, hm', rfl⟩ := ho.settle? hw
  case inl => cases ho' <;> cases hs
  case inr =>
    cases ho
    cases hs
    exact ⟨rfl, m, ⟨table, members, hr, hl, hi, hm'⟩, hm⟩

-- Settings as an object of JSON, in any order, and as lines of TOML.
inductive InJson (entries : Settings) : List Char → Prop
  | intro {members : Settings} {cs} (same : members.Perm entries) 
    (written : Json.Document.Writes (.padded (.object members.toJson)) cs) : InJson entries cs

inductive InToml (entries : Settings) : List Char → Prop
  | intro {lines : Settings} {cs} (same : lines.Perm entries) (written : Assigned lines cs) : InToml entries cs

-- The same with one member more that is a collection. In TOML it is known by its bracket, and what follows that 
-- does not matter.
inductive MoreInJson (entries : Settings) (name : String) : List Char → Prop
  | intro {members : List (String × Json.Value)} {v cs} (collection : Collection v) 
    (same : members.Perm ((name, v) :: entries.toJson)) 
    (written : Json.Document.Writes (.padded (.object members)) cs) : MoreInJson entries name cs

inductive MoreInToml (entries : Settings) (name : String) : Char → List Char → Prop
  | intro {before after : Settings} {u k c rest} (same : (before ++ after).Perm entries) (written : Assigned before u) 
    (key : Basic name.toList k) (bracket : c = '[' ∨ c = '\x7b') : 
    MoreInToml entries name c (u ++ (quote :: k ++ [quote] ++ ' ' :: '=' :: ' ' :: c :: rest))

theorem read_eq_ok_iff (h : t.read p = .ok text) : read t p = .ok pairs ↔ parse p text = .ok pairs := by
  simp only [read, h, Failure.because, Except.ok_mapError]
  exact Traced.mapError_eq_ok_iff

theorem exists_error_of_parse (h : t.read p = .ok text) (he : ∀ pairs, parse p text ≠ .ok pairs) : 
    ∃ f, read t p = .error f := by
  cases hr : read t p
  case error f  => exact ⟨f, rfl⟩
  case ok pairs => exact absurd ((read_eq_ok_iff h).mp hr) (he pairs)

theorem nodup_of_perm {settings : Settings} (hn : (keys entries).Nodup) (hp : settings.Perm entries) : 
    (keys settings).Nodup :=
  (hp.map _).nodup_iff.mpr hn

-- What is rendered does not depend on the order in which it is written.
theorem ofList_rendered {settings : Settings} (hn : (keys entries).Nodup) (hp : settings.Perm entries) : 
    KeyOrder.ofList settings.rendered = KeyOrder.ofList entries.rendered :=
  KeyOrder.ofList_of_perm (entries.keys_rendered ▸ hn) (hp.map _)

theorem parse_inJson (hn : (keys entries).Nodup) (hf : ∀ e ∈ entries, e.2.Fits) (hj : isJson p) 
    (h : InJson entries text.toList) : parse p text = .ok (KeyOrder.ofList entries.rendered) := by
  have ⟨same, written⟩ := h
  rw [parse, if_pos hj, parseJson_settings (nodup_of_perm hn same) (fun e he => hf e (same.mem_iff.mp he)) written, 
    ofList_rendered hn same]

theorem parse_inToml (hn : (keys entries).Nodup) (hf : ∀ e ∈ entries, e.2.Fits) (hj : isJson p = false) 
    (h : InToml entries text.toList) : parse p text = .ok (KeyOrder.ofList entries.rendered) := by
  have ⟨same, written⟩ := h
  rw [parse, hj, if_neg Bool.false_ne_true, 
    parseToml_settings (nodup_of_perm hn same) (fun e he => hf e (same.mem_iff.mp he)) written, 
    ofList_rendered hn same]

theorem parse_moreInJson (hn : (keys entries).Nodup) (hm : name ∉ keys entries) (hj : isJson p) 
    (h : MoreInJson entries name text.toList) (pairs : List (String × String)) : parse p text ≠ .ok pairs := by
  have ⟨collection, same, written⟩ := h
  have hk : (name :: keys entries.toJson).Nodup := by
    rw [Settings.keys_toJson]
    exact List.nodup_cons.mpr ⟨hm, hn⟩
  rw [parse, if_pos hj]
  exact parseJson_of_collection ((same.map _).nodup_iff.mpr hk) (same.mem_iff.mpr List.mem_cons_self) collection written

theorem parse_moreInToml (hn : (keys entries).Nodup) (hj : isJson p = false) 
    (h : MoreInToml entries name c cs) (ht : text.toList = cs) (hp : parse p text = .ok pairs) : 
    c = '\x7b' ∧ ∃ m, Disguised text name m ∧ (name, m.text) ∈ pairs := by
  have ⟨same, written, key, bracket⟩ := h
  rw [parse, hj, if_neg Bool.false_ne_true] at hp
  have hb := nodup_of_perm hn same
  rw [KeyOrder.keys_append] at hb
  exact disguised_of_parseToml (List.nodup_append.mp hb).left written key bracket ht hp

-- The format of a file does not matter for what can be written in both.
theorem formats_agree (hn : (keys entries).Nodup) (hf : ∀ e ∈ entries, e.2.Fits) : ∃ pairs, 
    pairs.Perm entries.rendered ∧ pairs.Pairwise (fun a b => Text.bytes a.1 < Text.bytes b.1) ∧ 
    (∀ t p text, t.read p = .ok text → isJson p → InJson entries text.toList → read t p = .ok pairs) ∧ 
    (∀ t p text, t.read p = .ok text → isJson p = false → InToml entries text.toList → read t p = .ok pairs) ∧ 
    (∀ (dir : Path) (stem ending : String), stem ≠ "" → '/' ∉ stem.toList → 
      ending.toList.map Char.toLower = ['j', 's', 'o', 'n'] → isJson (dir.join ⟨stem ++ "." ++ ending⟩)) ∧ 
    ∀ name, name ∉ keys entries → ∀ t p text, t.read p = .ok text → 
      (isJson p → MoreInJson entries name text.toList → ∃ f, read t p = .error f) ∧ 
      ∀ c, isJson p = false → MoreInToml entries name c text.toList → (∃ f, read t p = .error f) ∨ 
        c = '\x7b' ∧ ∃ m pairs, read t p = .ok pairs ∧ Disguised text name m ∧ (name, m.text) ∈ pairs := by
  refine ⟨KeyOrder.ofList entries.rendered, KeyOrder.perm_ofList (entries.keys_rendered ▸ hn), ?_, ?_, ?_, ?_, ?_⟩
  case refine_1 => 
    simp only [Text.bytes_lt_iff]
    exact List.pairwise_map.mp (KeyOrder.pairwise_ofList _)
  case refine_2 => exact fun t p text ht hj h => (read_eq_ok_iff ht).mpr (parse_inJson hn hf hj h)
  case refine_3 => exact fun t p text ht hj h => (read_eq_ok_iff ht).mpr (parse_inToml hn hf hj h)
  case refine_4 => exact fun dir _ _ => isJson_join dir
  case refine_5 => 
    refine fun name hm t p text ht => ⟨fun hj h => ?_, fun c hj h => ?_⟩
    case refine_1 => exact exists_error_of_parse ht (parse_moreInJson hn hm hj h)
    case refine_2 =>
      cases hr : read t p
      case error f  => exact .inl ⟨f, rfl⟩
      case ok pairs =>
        obtain ⟨hc, m, hd, hm⟩ := parse_moreInToml hn hj h rfl ((read_eq_ok_iff ht).mp hr)
        exact .inr ⟨hc, m, pairs, rfl, hd, hm⟩

-- The same settings in a file of either format, in different orders, and a file with a table.
def shopSettings : Settings :=
  [("a.b", .text "\"\n"), ("", .integer (-9223372036854775808)), ("on", .switch true)]

def shopVariables : FileTree :=
  ⟨[(["vars.JSON"], .file (.text 
      "\x7b\"a.b\":\"\\u0022\\u000A\",\"\":-9223372036854775808,\"on\":true\x7d")), 
    (["vars.toml"], .file (.text 
      "\"on\" = true\n\"\" = -9223372036854775808\n\"a.b\" = \"\\u0022\\u000A\"\n")), 
    (["days.toml"], .file (.text 
      "\"a\" = \x7b\"$__toml_private_datetime\" = \"1979-05-27\"\x7d\n"))], []⟩

theorem formats_agree_shop : ∃ pairs, read shopVariables ⟨"/vars.JSON"⟩ = .ok pairs ∧ 
    read shopVariables ⟨"/vars.toml"⟩ = .ok pairs ∧ 
    pairs.Perm [("a.b", "\"\n"), ("", "-9223372036854775808"), ("on", "true")] := by
  have hf : ∀ e ∈ shopSettings, e.2.Fits := by
    simp [shopSettings, Setting.Fits]
  have ⟨pairs, hp, _, hj, ht, _⟩ := formats_agree (by decide) hf
  refine ⟨pairs, hj _ _ _ rfl (by decide) ?_, ht _ _ _ rfl (by decide) ?_, hp⟩
  case refine_1 => exact .intro (.refl _) (writes_jsonObject shopSettings)
  case refine_2 => exact .intro (List.reverse_perm _) (assigned_tomlLines shopSettings.reverse)

-- A table that is taken for a day.
theorem formats_differ_shop : 
    let text := "\"a\" = \x7b\"$__toml_private_datetime\" = \"1979-05-27\"\x7d\n"
    shopVariables.read ⟨"/days.toml"⟩ = .ok text ∧ MoreInToml [] "a" '\x7b' text.toList ∧ 
      read shopVariables ⟨"/days.toml"⟩ = .ok [("a", "1979-05-27")] := by
  refine ⟨by decide +kernel, ?_, by decide +kernel⟩
  have hk : Basic "a".toList ['a'] := basic_spelled ['a']
  have hm : MoreInToml [] "a" '\x7b' ([] ++ (quote :: ['a'] ++ [quote] ++ ' ' :: '=' :: ' ' :: '\x7b' :: 
      "\"$__toml_private_datetime\" = \"1979-05-27\"\x7d\n".toList)) := .intro (.refl ([] ++ [])) .nil hk (.inr rfl)
  exact hm

end Rollout.VariableFile
