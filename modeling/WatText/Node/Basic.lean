/-!
# Text trees

A program text is a tree of bare symbols, quoted strings and tagged lists. `Node.height` is the
nesting height that decides how a list is laid out: atoms have height zero, a list is one higher
than its tallest child (`height_list`).
-/

namespace WatText

/-- A node of a text tree. -/
inductive Node where
  | symbol (text : String)
  | string (text : String)
  | list (tag : String) (children : List Node)
  deriving Inhabited

namespace Node

/-- The tag of a list; atoms have none. -/
def tag? : Node → Option String
  | list tag _ => some tag
  | symbol _ | string _ => none

/-- The children of a list; atoms have none. -/
def children : Node → List Node
  | list _ children => children
  | symbol _ | string _ => []

/-! ## Height -/

mutual

/-- The nesting height of a node. -/
def height : Node → Nat
  | symbol _ | string _ => 0
  | list _ children => 1 + maxHeight children

/-- The greatest height among some nodes, zero if there are none. -/
def maxHeight : List Node → Nat
  | [] => 0
  | node :: nodes => max (height node) (maxHeight nodes)

end

@[simp] theorem height_symbol (s : String) : height (symbol s) = 0 := by rw [height]

@[simp] theorem height_string (s : String) : height (string s) = 0 := by rw [height]

theorem height_list (tag : String) (nodes : List Node) :
    height (list tag nodes) = 1 + maxHeight nodes := by rw [height]

theorem height_le_maxHeight {node : Node} {nodes : List Node} (h : node ∈ nodes) :
    node.height ≤ maxHeight nodes := by
  induction nodes with
  | nil => cases h
  | cons a nodes ih =>
    rw [maxHeight]
    rcases List.mem_cons.1 h with rfl | h
    · exact Nat.le_max_left _ _
    · exact Nat.le_trans (ih h) (Nat.le_max_right _ _)

/-- A child is lower than the list that holds it. -/
theorem height_lt_of_mem {tag : String} {node : Node} {nodes : List Node} (h : node ∈ nodes) :
    node.height < (list tag nodes).height := by
  have := height_le_maxHeight h
  rw [height_list]
  omega

end Node

end WatText
