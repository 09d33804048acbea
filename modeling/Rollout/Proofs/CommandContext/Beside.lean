import Rollout.Proofs.CommandContext.Footprint
import Rollout.Proofs.CommandContext.Loading
import Rollout.Proofs.CommandContext.Prepared
import Rollout.Proofs.FileTree.Beside
import Rollout.Proofs.ProjectConfig.Discovery
namespace Rollout

namespace VariableFile

variable {t : FileTree} {dir p q : Path} {name : String} {names : List String} {place : Location}

-- The files in a directory that are used without being named, each of them once and in order of the bytes of 
-- their names. They can be used as far as their paths are not too long.
structure Beside (t : FileTree) (place : Location) (dir : Path) (files : List String) : Prop where
  ordered : files.Pairwise (Text.bytes · < Text.bytes ·)
  located : ∀ file ∈ files, t.locate (dir.join ⟨file⟩) = .ok (file :: place)
  exact   : ∀ file, file ∈ files ↔ isAutomatic file ∧ (∃ c, t.node? (file :: place) = some (.file c)) ∧ 
    (dir.join ⟨file⟩).text.utf8ByteSize < FileTree.tooLong

theorem exists_chosen (t : FileTree) (dir : Path) (hd : names.Nodup) : 
    ∃ files : List String, files.Pairwise (Text.bytes · < Text.bytes ·) ∧ 
      (∀ file, file ∈ files ↔ file ∈ names ∧ isAutomatic file ∧ t.isFile (dir.join ⟨file⟩)) ∧ 
      (t.list dir = .ok names → automatic t dir = .ok (files.map fun file => dir.join ⟨file⟩)) := by
  let chosen := names.filter fun name => isAutomatic name && t.isFile (dir.join ⟨name⟩)
  refine ⟨chosen.mergeSort nameLe, ?ordered, fun file => ?members, fun h => ?listed⟩
  case ordered =>
    have hn : (chosen.mergeSort nameLe).Nodup := (List.mergeSort_perm _ _).nodup_iff.mpr (hd.filter _)
    refine (linear_nameLe.pairwise chosen).imp₂ (fun a b hle hne => ?_) hn
    rw [Text.bytes_lt_iff]
    exact lt_of_le_of_ne (nameLe_iff.mp hle) hne
  case members => simp [chosen, List.mem_mergeSort]
  case listed  => simp only [automatic, h, chosen]

-- The parent of a path is listed as the directory that the path leads into. Only the empty one is not.
theorem exists_beside (ht : t.Sound) (hn : Path.IsName name) (hl : t.locate (p.join ⟨name⟩) = .ok (name :: place)) 
    (hq : (p.join ⟨name⟩).parent? = some q) : 
    ∃ files, Beside t place q files ∧ 
      automatic t q = .ok (if q.text = "" then [] else files.map fun file => q.join ⟨file⟩) := by
  have ⟨files, ho, hm, ha⟩ := exists_chosen t q (ht.nodup_names place)
  have opens := FileTree.opens_parent? hn hq hl
  refine ⟨files, ⟨ho, fun file hf => ?located, fun file => ?exact⟩, ?listed⟩
  case located =>
    have ⟨hf, _, hi⟩ := (hm file).mp hf
    have he := ht.isEntry hf
    exact (opens.locate_join he).mpr ((opens.isFile_join he).mp hi).left
  case exact   =>
    rw [hm]
    constructor
    case mp  =>
      intro ⟨hf, hi, hc⟩
      have ⟨hs, hc⟩ := (opens.isFile_join (ht.isEntry hf)).mp hc
      exact ⟨hi, hc, hs⟩
    case mpr =>
      intro ⟨hi, hc, hs⟩
      have hf := FileTree.Sound.mem_names_of_node? hc.choose_spec
      exact ⟨hf, hi, (opens.isFile_join (ht.isEntry hf)).mpr ⟨hs, hc⟩⟩
  case listed  =>
    split
    case isTrue he  => 
      have hl : t.list q = .error .notFound := by
        simp [FileTree.list, FileTree.locate, FileTree.check, he]
      simp [automatic, hl]
    case isFalse he => exact ha (FileTree.list_parent? hn hq hl he)

end VariableFile

namespace CommandContext

variable {inv : Invocation} {demands : Demands} {env : Collaborators} {c : CommandContext} 
variable {loaded : LoadedConfig} {paths : List Path}

-- All files in the directory of the configuration that need not be named are read, and then those that are.
theorem reads_of_init (h : (init inv demands env).result = .ok c) (hc : c.config = some loaded) 
    (hp : VariableFile.automatic env.files loaded.dir = .ok paths) : 
    .listedFiles loaded.dir :: (paths ++ inv.flags.variableFiles).map .readFile <:+: 
      (init inv demands env).events := by
  rw [events_init_of_ok h]
  cases init_eq_ok_iff.mp h
  case intro r vs _ _ hr hv _ _ =>
    have hw : (work inv demands env .values).events = (loadVariables env.files r.config inv).events := by
      simp only [work, onceResolved, hr, Traced.events_forget]
    have hc : r.config = some loaded := hc
    rw [hc] at hv hw
    rw [events_loadVariables_of_ok hv hp] at hw
    rw [Stage.all_eq .values, List.flatMap_append, List.flatMap_cons, hw]
    exact ⟨_, _, List.append_assoc ..⟩

end CommandContext

namespace LoadedConfig

open ProjectConfig

variable {t : FileTree} {start p : Path} {place : Location} {loaded : LoadedConfig}

theorem locate_of_search (h : search t start = .ok (some loaded)) : 
    ∃ near place, loaded.path = within near ∧ t.locate (within near) = .ok (fileName :: place) := by
  have ⟨hn, _⟩ := search_eq_some_iff.mp h
  have ⟨near, _, hp⟩ := hn.exists_within
  have ⟨loc, _, hl, _⟩ := FileTree.isFile_iff.mp (hp ▸ hn.isFile)
  have ⟨place, _, _, he⟩ := FileTree.exists_of_locate_join isName_fileName hl
  exact ⟨near, place, hp, he ▸ hl⟩

-- The files that are used without being named are the ones beside the configuration, wherever the search for it
-- began, unless the configuration has no path but its bare name. Then there is no directory to list them from.
theorem automatic_beside (ht : t.Sound) (h : search t start = .ok (some loaded)) : 
    ∃ place files, t.locate loaded.path = .ok (fileName :: place) ∧ 
      VariableFile.Beside t place loaded.dir files ∧ 
      let paths := if loaded.path = ⟨fileName⟩ then [] else files.map fun file => loaded.dir.join ⟨file⟩
      VariableFile.automatic t loaded.dir = .ok paths ∧ 
      ∀ inv demands env c, env.files = t → (CommandContext.init inv demands env).result = .ok c → 
        c.config = some loaded → .listedFiles loaded.dir :: (paths ++ inv.flags.variableFiles).map .readFile <:+: 
          (CommandContext.init inv demands env).events := by
  obtain ⟨near, place, hp, hl⟩ := locate_of_search h
  obtain ⟨q, hq⟩ := Path.exists_parent?_join isName_fileName near
  have hd : loaded.dir = q := by rw [dir, hp, within, hq, Option.getD_some]
  have he : q.text = "" ↔ loaded.path = ⟨fileName⟩ := hp ▸ Path.parent?_join_eq_empty_iff isName_fileName hq
  obtain ⟨files, beside, listed⟩ := VariableFile.exists_beside ht isName_fileName hl hq
  rw [← hd] at he beside listed
  simp only [he] at listed
  refine ⟨place, files, hp ▸ hl, beside, listed, ?_⟩
  rintro inv demands env c rfl hi hc
  exact CommandContext.reads_of_init hi hc listed

-- A shop with a variable file and a directory beside its configuration, and a working directory in it.
def shopFiles (here : Location) : FileTree :=
  ⟨[(["deployctl.toml"], .file (.text "project = \"shop\"\n")), 
    (["b.auto.vars.toml"], .file (.text "region = \"eu\"\n")), 
    (["a.auto.vars.json"], .file (.text "\x7b\x7d")), 
    (["web"], .directory), (["c.auto.vars.toml", "web"], .file (.text ""))], here⟩

theorem sound_shopFiles (here : Location) : (shopFiles here).Sound := by
  refine ⟨by simp [shopFiles], fun loc hl name hm => ?_⟩
  simp only [shopFiles, List.map_cons, List.map_nil, List.mem_cons, List.not_mem_nil, or_false] at hl
  obtain rfl | rfl | rfl | rfl | rfl := hl <;> 
    simp only [List.mem_cons, List.not_mem_nil, or_false] at hm
  case inr.inr.inr.inr => 
    obtain rfl | rfl := hm
    all_goals exact ⟨⟨by decide, by decide, by decide⟩, by decide, by decide⟩
  all_goals exact hm ▸ ⟨⟨by decide, by decide, by decide⟩, by decide, by decide⟩

-- From a directory below the configuration its files are found, and not those of the directory.
theorem automatic_beside_shop : 
    let loaded : LoadedConfig := ⟨⟨"/deployctl.toml"⟩, ⟨"shop", none, []⟩⟩
    (shopFiles ["web"]).Sound ∧ search (shopFiles ["web"]) ⟨"/web"⟩ = .ok (some loaded) ∧ 
      ∃ files : List String, VariableFile.automatic (shopFiles ["web"]) ⟨"/"⟩ = .ok (files.map fun file => ⟨"/" ++ file⟩) ∧ 
        "a.auto.vars.json" ∈ files ∧ "b.auto.vars.toml" ∈ files ∧ "c.auto.vars.toml" ∉ files := by
  intro loaded
  have sound := sound_shopFiles ["web"]
  have found : search (shopFiles ["web"]) ⟨"/web"⟩ = .ok (some loaded) := by decide +kernel
  have ⟨place, files, hl, beside, listed, _⟩ := automatic_beside sound found
  have hp : (shopFiles ["web"]).locate loaded.path = .ok ["deployctl.toml"] := by decide +kernel
  obtain rfl : place = [] := (List.cons.inj (Except.ok.inj (hl.symm.trans hp))).right
  have hd : loaded.dir = ⟨"/"⟩ := by decide
  have hj : ∀ file ∈ files, (⟨"/"⟩ : Path).join ⟨file⟩ = ⟨"/" ++ file⟩ := fun file hf => by
    have he := sound.isEntry (FileTree.Sound.mem_names_of_node? ((beside.exact file).mp hf).right.left.choose_spec)
    simp [Path.join, he.not_isAbsolute]
  refine ⟨sound, found, files, ?_, ?_, ?_, ?_⟩
  · rw [hd, if_neg (by decide)] at listed
    rw [listed, List.map_congr_left hj]
  · exact (beside.exact _).mpr ⟨by decide, ⟨_, rfl⟩, by decide⟩
  · exact (beside.exact _).mpr ⟨by decide, ⟨_, rfl⟩, by decide⟩
  · exact fun hf => nomatch ((beside.exact _).mp hf).right.left.choose_spec

-- From within the directory, none of them is.
theorem missed_beside_shop : 
    let loaded : LoadedConfig := ⟨⟨"deployctl.toml"⟩, ⟨"shop", none, []⟩⟩
    search (shopFiles []) ⟨""⟩ = .ok (some loaded) ∧ 
      (shopFiles []).locate loaded.path = .ok ["deployctl.toml"] ∧ 
      VariableFile.isAutomatic "b.auto.vars.toml" ∧ 
      (shopFiles []).node? ["b.auto.vars.toml"] = some (.file (.text "region = \"eu\"\n")) ∧ 
      VariableFile.automatic (shopFiles []) loaded.dir = .ok [] := by
  decide +kernel

end LoadedConfig
end Rollout
