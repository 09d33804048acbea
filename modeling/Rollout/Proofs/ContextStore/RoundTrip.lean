import Rollout.ContextStore
import Rollout.Proofs.Toml.Layout
namespace Rollout.StoredContext

open Toml Writer

variable (c : StoredContext)

-- The lines of a written context.
def statements : List Statement := 
  [.entry "workspace" (Writer.text c.workspace),
   .title "server",
   .entry "address" (Writer.text c.connection.address),
   .entry "tls" (switch c.connection.tls),
   .entry "tls_skip_verify" (switch c.connection.skipVerify)]

-- What these lines come to.
def root : Section :=
  [("workspace", .value (.string c.workspace)),
   ("server", .table .named 
    [("address", .value (.string c.connection.address)),
     ("tls", .value (.boolean c.connection.tls)),
     ("tls_skip_verify", .value (.boolean c.connection.skipVerify))])]

theorem laid_text : Statement.Laid c.text.toList c.statements := by
  have hw := laid_entry "workspace" (by decide) (written_text c.workspace)
  have ha := laid_entry "address" (by decide) (written_text c.connection.address)
  have ht := laid_entry "tls" (by decide) (written_switch c.connection.tls)
  have hv := laid_entry "tls_skip_verify" (by decide) (written_switch c.connection.skipVerify)
  have hs := laid_titled "server" (by decide) (laid_append (laid_append ha ht) hv)
  exact laid_append (laid_append hw hs) laid_break

theorem foldlM_statements : c.statements.foldlM Draft.apply Draft.empty = .ok ⟨c.root, ["server"]⟩ := by
  have hw := fun d : Draft => d.apply_entry "workspace" (by decide) (written_text c.workspace)
  have hs := fun d : Draft => d.apply_title "server" (by decide)
  have ha := fun d : Draft => d.apply_entry "address" (by decide) (written_text c.connection.address)
  have ht := fun d : Draft => d.apply_entry "tls" (by decide) (written_switch c.connection.tls)
  have hv := fun d : Draft => 
    d.apply_entry "tls_skip_verify" (by decide) (written_switch c.connection.skipVerify)
  simp [statements, root, hw, hs, ha, ht, hv, Draft.empty, Section.descend, Section.assign, 
    Section.openTable, Section.replace, orRedefined, List.lookup_cons]

theorem ofTable?_root : ofTable? (Section.toTable c.root) = some c := by
  simp [root, Section.toTable, Node.toValue, ofTable?, ProjectConfig.parts?, optional, List.lookup_cons, 
    ProjectConfig.text?, connection?, ProjectConfig.switch?]

theorem head?_text : c.text.toList.head? ≠ some '\ufeff' := by
  simp [text, entry]

-- A written context is read as it was.
theorem parse_text : parse c.text = .ok c := by
  have hr := Document.read_of_laid c.laid_text c.head?_text c.foldlM_statements
  simp [parse, hr, c.ofTable?_root, Failure.because]

end Rollout.StoredContext
