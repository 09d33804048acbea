import Mathlib.Data.Option.Basic
import Rollout.Proofs.Toml.Document
namespace Rollout.Toml

open Statement (Starts Single Laid)

-- The statement of an entry, and the one of a title.
def Statement.entry (key value : String) : Statement :=
  .assign [key.toList] (.word value.toList)

def Statement.title (name : String) : Statement :=
  .header [name.toList]

def Statement.itemTitle (name : String) : Statement :=
  .item [name.toList]

def Statement.emptyList (key : String) : Statement :=
  .assign [key.toList] (.array [])

namespace Writer

-- A text that is read as a value where it ends a line.
structure Written (text : String) (v : Value) : Prop where
  single : Single text.toList
  value? : Word.value? text.toList = some v

namespace Shows

variable {w cs : List Char}

-- The quote with which a word begins.
theorem exists_cons (h : Shows w cs) : 
    ∃ q ds, w = q :: ds ∧ (q = Quoting.quote ∨ q = Quoting.apostrophe) := by
  have hq := h.quoted
  cases w <;> simp_all [Word.isQuoted]

theorem value? (h : Shows w cs) : Word.value? w = some (.string (.ofList cs)) := by
  have hs : Quoting.scan? (w ++ []) = some (cs, []) := h.scan nofun nofun
  rw [List.append_nil] at hs
  simp [Word.value?, h.quoted, Word.text?, hs]

-- No date begins with a quote.
theorem date? (h : Shows w cs) : Date.read? w = none := by
  obtain ⟨q, ds, rfl, hq⟩ := h.exists_cons
  have hd : q.isDigit = false := by obtain rfl | rfl := hq <;> decide
  simp [Date.read?, fixed?, hd]

theorem single (h : Shows w cs) : Single w where
  starts   := by
    obtain ⟨q, ds, rfl, hq⟩ := h.exists_cons
    exact ⟨q, ds, rfl, by obtain rfl | rfl := hq <;> decide⟩
  cut rest := by
    have hc : Word.cut (!Word.isDelimiter ·) (w ++ '\n' :: rest) = (w, '\n' :: rest) := 
      h.cut _ (by simp [Quoting.quote]) (by simp [Quoting.apostrophe])
    simp [Word.cutScalar, hc, h.date?]

end Shows

theorem written_text (s : String) : Written (text s) (.string s) where
  single := by simpa [text] using (shows_chars s.toList).single
  value? := by simpa [text] using (shows_chars s.toList).value?

theorem written_basic {w : List Char} {s : String} (h : Quoting.Basic s.toList w) : 
    Written (.ofList (Quoting.quote :: w ++ [Quoting.quote])) (.string s) where
  single := by simpa using (shows_of_basic h).single
  value? := by simpa using (shows_of_basic h).value?

theorem written_switch (b : Bool) : Written (switch b) (.boolean b) where
  single := by
    cases b
    all_goals exact ⟨⟨_, _, rfl, by decide⟩, fun _ => rfl⟩
  value? := by cases b <;> rfl

variable {value body a b : String} {v : Value} {ss ts : List Statement}

theorem laid_append (ha : Laid a.toList ss) (hb : Laid b.toList ts) : 
    Laid (a ++ b).toList (ss ++ ts) := by
  simpa using ha.append hb

theorem laid_break : Laid "\n".toList [] :=
  .line (l := ['\n']) nofun Statement.scan?_blank .nil

theorem laid_entry (key : String) (hk : Word.Bare key.toList) (h : Written value v) : 
    Laid (entry key value).toList [.entry key value] := by
  simpa [entry, Statement.entry] using Laid.line (by simp) (Statement.scan?_assign (.of_bare hk) h.single) .nil

theorem laid_emptyList (key : String) (hk : Word.Bare key.toList) : 
    Laid (entry key "[]").toList [.emptyList key] := by
  simpa [entry, Statement.emptyList] using Laid.line (by simp) (Statement.scan?_empty (.of_bare hk)) .nil

theorem laid_titled (name : String) (hn : Word.Bare name.toList) (h : Laid body.toList ss) : 
    Laid (titled name body).toList (.title name :: ss) := by
  simpa [titled, Statement.title] using laid_break.append (.line (by simp) (Statement.scan?_header hn) h)

theorem laid_item (name : String) (hn : Word.Bare name.toList) (h : Laid body.toList ss) : 
    Laid (item name body).toList (.itemTitle name :: ss) := by
  simpa [item, Statement.itemTitle] using laid_break.append (.line (by simp) (Statement.scan?_item hn) h)

-- Texts that follow one another, each of them with statements of its own.
theorem laid_join {α : Type} (l : List α) {text : α → String} {statements : α → List Statement} 
    (h : ∀ a ∈ l, Laid (text a).toList (statements a)) : 
    Laid (String.join (l.map text)).toList (l.flatMap statements) := by
  induction l
  case nil         => exact .nil
  case cons a l hi => 
    have ⟨ha, hl⟩ := List.forall_mem_cons.mp h
    simpa using laid_append ha (hi hl)

end Writer

namespace Section

variable {s : Section} {key : String} {n : Node} {items : List Section} {item : Section}

theorem replace_of_lookup (h : s.lookup key = none) : s.replace key n = s := by
  induction s
  case nil          => rfl
  case cons e es hi =>
    rcases e with ⟨k, old⟩
    have ⟨hk, hs⟩ := List.forall_mem_cons.mp (List.lookup_eq_none_iff.mp h)
    have hk : k ≠ key := fun he => by simp [he] at hk
    have hr := hi (List.lookup_eq_none_iff.mpr hs)
    simp only [replace] at hr
    simp [replace, hk, hr]

-- A list of tables that is the last thing in a section: it is opened there, it grows there, and its 
-- last table is filled there.
theorem openItem_new (h : s.lookup key = none) : 
    openItem key s = some (s ++ [(key, .tables [[]])]) := by
  simp [openItem, h]

theorem openItem_tables (h : s.lookup key = none) : 
    openItem key (s ++ [(key, .tables items)]) = some (s ++ [(key, .tables (items ++ [[]]))]) := by
  have hr := replace_of_lookup (n := .tables (items ++ [[]])) h
  simp only [replace] at hr
  simp [openItem, List.lookup_append, h, replace, hr]

theorem descend_tables (change : Section → Option Section) (h : s.lookup key = none) : 
    descend change [key] (s ++ [(key, .tables (items ++ [item]))]) = 
      (change item).map fun item => s ++ [(key, .tables (items ++ [item]))] := by
  have hr := fun n => replace_of_lookup (n := n) h
  simp only [replace] at hr
  cases hc : change item <;> simp [descend, List.lookup_append, h, changeLast, hc, replace, hr]

end Section

-- A key may be written like any text on one line.
theorem Statement.KeyWord.of_basic {w : List Char} {name : String} (h : Quoting.Basic name.toList w) : 
    KeyWord (Quoting.quote :: w ++ [Quoting.quote]) name where
  starts := ⟨_, _, rfl, by decide⟩
  cut hr := by
    refine (Writer.shows_of_basic h).cut _ (fun he => ?_) (fun he => ?_)
    all_goals exact absurd (hr _ he) (by decide)
  key?   := by
    have hb := h.basic?_append []
    simp_all [Word.key?, Word.isQuoted, Quoting.quote, Quoting.line?]

theorem Key.read_word {w : Word} {name : String} (h : Statement.KeyWord w name) : Key.read [w] = .ok ([], name) := by
  simp [Key.read, h.key?, maxDepth]

theorem Key.read_bare {key : String} (h : Word.Bare key.toList) : 
    Key.read [key.toList] = .ok ([], key) := by
  simpa using Key.read_word (.of_bare h)

namespace Draft

variable {value : String} {v : Value}

theorem apply_assign (d : Draft) {w : Word} {name : String} {t : Term} (hk : Statement.KeyWord w name) 
    (ht : t.read = .ok v) : d.apply (.assign [w] t) = 
      (orRedefined name (Section.descend (Section.assign name v []) d.current d.root)).map 
        fun root => { d with root } := by
  simp [apply, Key.read_word hk, ht]
  rfl

theorem apply_entry (d : Draft) (key : String) (hk : Word.Bare key.toList) (h : Writer.Written value v) : 
    d.apply (.entry key value) = 
      (orRedefined key (Section.descend (Section.assign key v []) d.current d.root)).map 
        fun root => { d with root } := by
  have ht : Term.read (.word value.toList) = .ok v := by simp [Term.read, h.value?]
  simpa [Statement.entry] using d.apply_assign (.of_bare hk) ht

theorem apply_title (d : Draft) (key : String) (hk : Word.Bare key.toList) : 
    d.apply (.title key) = 
      (orRedefined key (Section.openTable key d.root)).map fun root => ⟨root, [key]⟩ := by
  simp [apply, Statement.title, Key.read_bare hk, Section.descend]
  rfl

theorem apply_itemTitle (d : Draft) (key : String) (hk : Word.Bare key.toList) : 
    d.apply (.itemTitle key) = 
      (orRedefined key (Section.openItem key d.root)).map fun root => ⟨root, [key]⟩ := by
  simp [apply, Statement.itemTitle, Key.read_bare hk, Section.descend]
  rfl

theorem apply_emptyList (d : Draft) (key : String) (hk : Word.Bare key.toList) : 
    d.apply (.emptyList key) = 
      (orRedefined key (Section.descend (Section.assign key (.array []) []) d.current d.root)).map 
        fun root => { d with root } := by
  simpa [Statement.emptyList] using d.apply_assign (.of_bare hk) (t := .array []) (v := .array []) rfl

end Draft
end Rollout.Toml
