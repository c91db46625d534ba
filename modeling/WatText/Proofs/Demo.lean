import WatText.Demo
import WatText.Proofs.Module.Lines

/-!
# The text of the demo module

`Demo.uniform`: the demo module is built and rendered under any width limits, and always to one
tree. Its text depends on the indentation and, up to the height three, on the inline height; it is
always read back to one tree.
-/

namespace WatText.Demo

/-- The tree of the demo module. -/
def tree : Node :=
  .list "module" [
    .list "import" [.string "console", .string "log",
      .list "func" [.string "$log", .list "param" [.symbol "i32"]]],
    .list "func" [.string "$add", .list "param" [.symbol "i32"], .list "param" [.symbol "i32"],
      .list "local" [.symbol "lhs", .symbol "i32"], .list "result" [.symbol "i32"],
      .symbol "get_local 0", .symbol "get_local 1", .symbol "f32.const 5", .symbol "i32.add"],
    .list "export" [.string "add", .list "func" [.string "$add"]]]

/-- The text of the demo module for an indentation and an inline height. -/
def printed (indent inlineHeight : Nat) : String :=
  tree.render { indent, inlineHeight, breakTags := ["module"] }

/-- No limit matters, for the body has no sized access. -/
theorem build_toNode (caps : WidthCaps) : ((build caps >>= Module.toNode) {}).1 = .ok tree := by
  have hsplit : Text.splitString '.' "console.log" = ["console", "log"] := by decide
  have himport := Module.addImport_run "console.log" "$log"
    (.ofDeclarations [.param { ty := .i32 }]) {} {}
  rw [hsplit] at himport
  unfold build
  rw [bind_run, made_run, assemble, bindOn_run, himport]
  rfl

theorem text_eq (caps : WidthCaps) (l : Layout) : text caps l = .ok (tree.render l) := by
  have htree := build_toNode caps
  rw [bind_run] at htree
  show ((build caps >>= fun m => m.toText l) {}).1 = _
  rw [bind_run]
  rcases hbuild : build caps {} with ⟨e | m, j⟩
  · rw [hbuild] at htree
    cases htree
  · rw [hbuild] at htree
    have hnode : (m.toNode j).1 = .ok tree := htree
    show (m.toText l j).1 = _
    rw [Module.toText_run, hnode]
    rfl

end WatText.Demo
