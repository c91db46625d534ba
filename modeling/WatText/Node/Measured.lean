import WatText.Node.Basic

/-!
# Measured trees

Before a tree is laid out, one pass from the leaves to the root pairs each of its nodes with its
height, so that no height is computed twice. A node is measured inside a tree just as it is alone
(`children_measure`), and what is found is its height (`height_measure`).
-/

namespace WatText

/-- A node with its height, and its children measured in the same way. -/
structure Measured where
  node : Node
  height : Nat
  children : List Measured

/-- The greatest height that was found among some nodes. -/
def Measured.tallest (ms : List Measured) : Nat :=
  (ms.map height).max?.getD 0

namespace Node

mutual

/-- Measures a node. -/
def measure : Node → Measured
  | symbol text => ⟨symbol text, 0, []⟩
  | string text => ⟨string text, 0, []⟩
  | list tag children =>
    let measured := measureEach children
    ⟨list tag children, 1 + Measured.tallest measured, measured⟩

/-- Measures some nodes. -/
def measureEach : List Node → List Measured
  | [] => []
  | node :: nodes => measure node :: measureEach nodes

end

theorem measureEach_eq_map (nodes : List Node) : measureEach nodes = nodes.map measure := by
  induction nodes with
  | nil => rfl
  | cons node nodes ih => rw [measureEach, ih, List.map_cons]

/-- A child is measured as it is alone. -/
theorem children_measure (node : Node) : node.measure.children = node.children.map measure := by
  cases node with
  | symbol text | string text => rfl
  | list tag children => exact measureEach_eq_map children

mutual

/-- **What measuring finds is the height.** -/
theorem height_measure (node : Node) : node.measure.height = node.height := by
  cases node with
  | symbol text => rw [height_symbol]; rfl
  | string text => rw [height_string]; rfl
  | list tag children =>
    rw [height_list, ← tallest_measureEach children]
    rfl

theorem tallest_measureEach (nodes : List Node) :
    Measured.tallest (measureEach nodes) = maxHeight nodes := by
  cases nodes with
  | nil => rw [maxHeight]; rfl
  | cons node nodes =>
    have hrest := tallest_measureEach nodes
    rw [measureEach, maxHeight, ← height_measure node, ← hrest]
    unfold Measured.tallest
    rw [List.map_cons, List.max?_cons, Option.getD_some]
    cases ((measureEach nodes).map Measured.height).max? with
    | none => exact (Nat.max_zero _).symm
    | some h => rfl

end

end Node

end WatText
