import Rollout.Proofs.Json.Document
import Rollout.Proofs.Json.Integer
import Rollout.Proofs.Json.Members
import Rollout.Proofs.Toml.Collection
import Rollout.Proofs.Toml.Integer
import Rollout.VariableFile
namespace Rollout.VariableFile

open KeyOrder (keys)
open Toml.Quoting (quote isControl Basic)

-- A value that JSON and TOML both know.
inductive Setting
  | text (s : String)
  | integer (n : Int)
  | switch (b : Bool)

abbrev Settings := List (String × Setting)

namespace Setting

-- Integers have 64 bits with a sign.
def Fits : Setting → Prop
  | integer n => -(Nat.pow 2 63 : Int) ≤ n ∧ n < (Nat.pow 2 63 : Int)
  | _         => True

-- What a variable is set to.
def rendered : Setting → String
  | text s    => s
  | integer n => toString n
  | switch b  => switchText b

def toJson : Setting → Json.Value
  | text s    => .string s
  | integer n => .number (.ofInt n)
  | switch b  => .boolean b

def toToml : Setting → Toml.Value
  | text s    => .string s
  | integer n => .integer n
  | switch b  => .boolean b

variable {v : Setting}

theorem ofJson_toJson (h : v.Fits) : ofJson v.toJson = some v.rendered := by
  cases v
  case integer n => 
    have hp : (Nat.pow 2 63 : Int) ≤ Nat.pow 2 64 := by decide
    exact Json.Numeral.text_ofInt h.left (Int.lt_of_lt_of_le h.right hp)
  all_goals rfl

theorem plain_toJson (h : v.Fits) : v.toJson.Plain := by
  cases v
  case text s    => exact .string s
  case integer n =>
    have hp : (Nat.pow 2 63 : Int) ≤ Nat.pow 2 64 := by decide
    exact .integer h.left (Int.lt_of_lt_of_le h.right hp)
  case switch b  => exact .boolean b

theorem settle?_toToml (h : v.Fits) : v.toToml.settle? = some v.toToml := by
  cases v
  case integer n => simp only [toToml, Toml.Value.settle?, decide_eq_true h.left, decide_eq_true h.right]; rfl
  all_goals rfl

theorem ofToml_toToml (v : Setting) : ofToml v.toToml = some v.rendered := by
  cases v <;> rfl

end Setting

namespace Settings

def rendered (entries : Settings) : List (String × String) :=
  entries.map fun (name, v) => (name, v.rendered)

def toJson (entries : Settings) : List (String × Json.Value) :=
  entries.map fun (name, v) => (name, v.toJson)

def toToml (entries : Settings) : Toml.Table :=
  entries.map fun (name, v) => (name, v.toToml)

def nodes (entries : Settings) : Toml.Section :=
  entries.map fun (name, v) => (name, .value v.toToml)

variable {entries : Settings}

theorem keys_rendered (entries : Settings) : keys entries.rendered = keys entries :=
  KeyOrder.keys_map ..

theorem keys_toJson (entries : Settings) : keys entries.toJson = keys entries :=
  KeyOrder.keys_map ..

theorem keys_nodes (entries : Settings) : keys entries.nodes = keys entries :=
  KeyOrder.keys_map (fun v : Setting => Toml.Node.value v.toToml) entries

theorem shallow_toJson (h : ∀ e ∈ entries, e.2.Fits) : (Json.Value.object entries.toJson).Shallow := by
  refine .object fun m hm => ?_
  obtain ⟨e, he, rfl⟩ := List.mem_map.mp hm
  exact Setting.plain_toJson (h e he)

theorem toTable_nodes (entries : Settings) : Toml.Section.toTable entries.nodes = entries.toToml := by
  induction entries
  case nil          => rfl
  case cons e es hi => 
    simp only [nodes, toToml] at hi
    simp [nodes, toToml, Toml.Section.toTable, Toml.Node.toValue, hi]

end Settings

-- How a setting is written in TOML. Texts stand between double quotes, in any way that is possible there.
inductive Shown : Setting → List Char → Prop
  | text {s w} (spelled : Basic s.toList w) : Shown (.text s) (quote :: w ++ [quote])
  | integer (n : Int) : Shown (.integer n) (toString n).toList
  | switch (b : Bool) : Shown (.switch b) (switchText b).toList

-- Lines that assign settings to keys, which stand between double quotes.
inductive Assigned : Settings → List Char → Prop
  | nil : Assigned [] []
  | line {name v entries k w u} (key : Basic name.toList k) (value : Shown v w) (others : Assigned entries u) : 
    Assigned ((name, v) :: entries) (quote :: k ++ [quote] ++ [' ', '=', ' '] ++ w ++ ['\n'] ++ u)

variable {v : Setting} {entries : Settings} {w u : List Char}

theorem Shown.written (h : Shown v w) : Toml.Writer.Written (.ofList w) v.toToml := by
  cases h
  case text h    => exact Toml.Writer.written_basic h
  case integer n => 
    rw [String.ofList_toList]
    exact Toml.Writer.written_integer n
  case switch b  => 
    rw [String.ofList_toList]
    exact Toml.Writer.written_switch b

theorem Assigned.head? (h : Assigned entries u) : ∀ c ∈ u.head?, c = quote := by
  cases h <;> simp

-- The statements on the lines, and what they add to a document.
theorem Assigned.exists_laid (h : Assigned entries u) : ∃ ss, Toml.Statement.Laid u ss ∧ 
    ∀ root : Toml.Section, (keys (root ++ entries.nodes)).Nodup → 
      ss.foldlM Toml.Draft.apply ⟨root, []⟩ = .ok ⟨root ++ entries.nodes, []⟩ := by
  induction h
  case nil => exact ⟨[], .nil, fun root _ => by simp [Settings.nodes]⟩
  case line name v entries k w u key value _ hi =>
    have ⟨ss, laid, hs⟩ := hi
    have hk : Toml.Statement.KeyWord (quote :: k ++ [quote]) name := .of_basic key
    have ⟨hw, hv⟩ := value.written
    rw [String.toList_ofList] at hw hv
    refine ⟨.assign [quote :: k ++ [quote]] (.word w) :: ss, ?_, fun root hn => ?_⟩
    case refine_1 => exact .line (by simp) (Toml.Statement.scan?_assign hk hw) laid
    case refine_2 =>
      have he : root ++ Settings.nodes ((name, v) :: entries) = 
          (root ++ [(name, .value v.toToml)]) ++ entries.nodes := by simp [Settings.nodes]
      have hr : name ∉ keys root := fun hm => by
        simp only [keys, List.map_append, List.nodup_append] at hn
        exact hn.right.right name hm name List.mem_cons_self rfl
      have ht : Toml.Term.read (.word w) = .ok v.toToml := by simp [Toml.Term.read, hv]
      rw [he] at hn ⊢
      rw [List.foldlM_cons, Toml.Draft.apply_new hk ht hr, Except.ok_bind, hs _ hn]

-- A form that both formats can take: quotes, backslashes and control characters are written by their codes.
def spelled (c : Char) : List Char :=
  if isControl c || c = quote || c = '\\' then '\\' :: 'u' :: Toml.Writer.codePoint c.toNat else [c]

def quoted (s : String) : List Char :=
  quote :: s.toList.flatMap spelled ++ [quote]

def Setting.chars : Setting → List Char
  | text s    => quoted s
  | integer n => (toString n).toList
  | switch b  => (switchText b).toList

namespace Settings

def tomlLines : Settings → List Char
  | []                 => []
  | (name, v) :: entries => quoted name ++ [' ', '=', ' '] ++ v.chars ++ ['\n'] ++ tomlLines entries

def jsonMember (name : String) (v : Setting) : List Char :=
  quoted name ++ ':' :: v.chars

def jsonMembers : Settings → List Char
  | []                   => []
  | [(name, v)]          => jsonMember name v
  | (name, v) :: entries => jsonMember name v ++ ',' :: jsonMembers entries

def jsonObject (entries : Settings) : List Char :=
  '\x7b' :: jsonMembers entries ++ ['\x7d']

end Settings

theorem code_of_isSpelled {c : Char} (h : isControl c || c = quote || c = '\\') : c.toNat < 128 := by
  simp only [Bool.or_eq_true, decide_eq_true_eq] at h
  obtain (h | rfl) | rfl := h
  case inl.inl => exact Toml.Writer.isControl_lt h
  all_goals decide

theorem basic_spelled (cs : List Char) : Basic cs (cs.flatMap spelled) := by
  induction cs
  case nil          => exact .nil
  case cons c cs hi =>
    rw [List.flatMap_cons, spelled]
    split
    case isTrue h  => exact .piece (Toml.Writer.piece_code (code_of_isSpelled h)) (by simp) hi
    case isFalse h =>
      simp only [Bool.or_eq_true, decide_eq_true_eq, not_or] at h
      refine .piece (.plain (.inl (by simp [Toml.Quoting.isPlain, h])) h.left.right fun _ => h.right) ?_ hi
      rintro ⟨⟩
      exact absurd h.left.left (by decide)

theorem unit?_codePoint : ∀ n < 128, 
    (Toml.Writer.codePoint n).foldlM (fun m c => (Json.Document.hexValue? c).map (16 * m + ·)) 0 = some n := by
  decide

theorem spells_spelled (cs : List Char) : Json.Document.Spells cs (cs.flatMap spelled) := by
  induction cs
  case nil          => exact .nil
  case cons c cs hi =>
    rw [List.flatMap_cons, spelled]
    split
    case isTrue h  => 
      have hu : Json.Document.unit? (Toml.Writer.codePoint c.toNat) = some (.char c) := by
        have hv : c.toNat.isValidChar := c.valid
        rw [Json.Document.unit?, unit?_codePoint _ (code_of_isSpelled h), Option.bind_eq_bind, Option.bind_some, 
          dif_pos hv]
        rfl
      exact .code hu hi
    case isFalse h =>
      simp only [Bool.or_eq_true, decide_eq_true_eq, not_or, isControl] at h
      exact .plain (by omega) h.left.right h.right hi

theorem shown_chars (v : Setting) : Shown v v.chars := by
  cases v
  case text s    => exact .text (basic_spelled _)
  case integer n => exact .integer n
  case switch b  => exact .switch b

-- All settings can be written in TOML, and in JSON.
theorem assigned_tomlLines (entries : Settings) : Assigned entries entries.tomlLines := by
  induction entries
  case nil          => exact .nil
  case cons e es hi => exact .line (basic_spelled _) (shown_chars _) hi

open Json.Document (Writes)

theorem writes_chars (v : Setting) : Writes (.value v.toJson) v.chars := by
  cases v
  case text s    => exact .string (spells_spelled _)
  case integer n => exact .number (Json.Numeral.writes_ofInt n)
  case switch b  => cases b <;> constructor

theorem writes_jsonMember (name : String) (v : Setting) : 
    Writes (.member name v.toJson) (Settings.jsonMember name v) := by
  have hb := Json.Document.blank_nil
  have hw := Writes.member hb (spells_spelled name.toList) hb (writes_chars v).alone
  simpa [Settings.jsonMember, quoted, quote] using hw

theorem writes_jsonMembers {e : String × Setting} {es : Settings} : 
    Writes (.members (Settings.toJson (e :: es))) (Settings.jsonMembers (e :: es)) := by
  induction es generalizing e
  case nil           => exact .lastMember (writes_jsonMember e.1 e.2)
  case cons e' es hi => exact .moreMembers (writes_jsonMember e.1 e.2) hi

theorem writes_jsonObject (entries : Settings) : 
    Writes (.padded (.object entries.toJson)) entries.jsonObject := by
  cases entries
  case nil  => exact (Writes.emptyObject Json.Document.blank_nil).alone
  case cons => exact (Writes.object writes_jsonMembers).alone

end Rollout.VariableFile
