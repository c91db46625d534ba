import WatText.Node.Measured
import WatText.Text.Quoted

/-!
# Layout of text trees

`Node.chars` writes a tree under a `Layout`. A list that breaks puts every child on a line of its
own, one step deeper than the list, and its closing parenthesis on a last line; any other list puts
a blank before each child. Whether a list breaks depends on its own height and tag only
(`Layout.breaks`), so a list inside an unbroken one may still break.

`Node.render` measures a tree and writes it into one string from left to right. It decides where to
break by the heights that were measured, and the text is the same (`render_eq_ofList`).

`Node.flat` is the text with no layout at all.
-/

namespace WatText

/-- How a tree is laid out in lines. -/
structure Layout where
  /-- Blanks per level of broken lists. -/
  indent : Nat := 2
  /-- The greatest height of a list that stays on one line. -/
  inlineHeight : Nat := 3
  /-- Tags of the lists that break whatever their height. -/
  breakTags : List String := ["module"]
  deriving DecidableEq, Inhabited

/-- Whether a list with this tag and these children breaks. A list without children never does. -/
def Layout.breaks (l : Layout) (tag : String) (children : List Node) : Bool :=
  !children.isEmpty &&
    (decide (l.inlineHeight < (Node.list tag children).height) || l.breakTags.contains tag)

/-- A line end and the blanks that open the next line. -/
def newline (indent : Nat) : List Char :=
  '\n' :: List.replicate indent ' '

namespace Node

mutual

/-- The text of a node whose line is indented by `indent` blanks. -/
def chars (l : Layout) (indent : Nat) : Node → List Char
  | symbol text => text.toList
  | string text => Text.quote text.toList
  | list tag children =>
    '(' :: (tag.toList ++
      if l.breaks tag children then
        charsEach l (indent + l.indent) (newline (indent + l.indent)) children
          ++ newline indent ++ [')']
      else charsEach l indent [' '] children ++ [')'])

/-- The texts of some nodes, each after the separator `sep`. -/
def charsEach (l : Layout) (indent : Nat) (sep : List Char) : List Node → List Char
  | [] => []
  | node :: nodes => sep ++ chars l indent node ++ charsEach l indent sep nodes

end

theorem charsEach_eq_flatMap (l : Layout) (indent : Nat) (sep : List Char) (nodes : List Node) :
    charsEach l indent sep nodes = nodes.flatMap fun node => sep ++ chars l indent node := by
  induction nodes with
  | nil => rw [charsEach, List.flatMap_nil]
  | cons node nodes ih => rw [charsEach, ih, List.flatMap_cons]

end Node

/-! ## Writing -/

/-- Whether a measured list with this tag breaks. -/
def Layout.breaksMeasured (l : Layout) (tag : String) (height : Nat) (children : List Measured) :
    Bool :=
  !children.isEmpty && (decide (l.inlineHeight < height) || l.breakTags.contains tag)

namespace Measured

mutual

/-- Writes the text of a measured node at the end of `out`. -/
def write (l : Layout) (indent : Nat) (out : String) : Measured → String
  | ⟨.symbol text, _, _⟩ => out ++ text
  | ⟨.string text, _, _⟩ => out ++ String.ofList (Text.quote text.toList)
  | ⟨.list tag _, height, children⟩ =>
    if l.breaksMeasured tag height children then
      let inner := indent + l.indent
      let body := writeEach l inner (String.ofList (newline inner)) (out.push '(' ++ tag) children
      (body ++ String.ofList (newline indent)).push ')'
    else
      (writeEach l indent " " (out.push '(' ++ tag) children).push ')'

/-- Writes the texts of some measured nodes at the end of `out`, each after the separator `sep`. -/
def writeEach (l : Layout) (indent : Nat) (sep out : String) : List Measured → String
  | [] => out
  | m :: ms => writeEach l indent sep (write l indent (out ++ sep) m) ms

end

end Measured

namespace Node

theorem breaksMeasured_measureEach (l : Layout) (tag : String) (children : List Node) :
    l.breaksMeasured tag (list tag children).measure.height (measureEach children) =
      l.breaks tag children := by
  unfold Layout.breaksMeasured Layout.breaks
  rw [height_measure, measureEach_eq_map, List.isEmpty_map]

mutual

theorem toList_write (l : Layout) (indent : Nat) (out : String) (node : Node) :
    (node.measure.write l indent out).toList = out.toList ++ chars l indent node := by
  cases node with
  | symbol text => simp [measure, Measured.write, chars]
  | string text => simp [measure, Measured.write, chars]
  | list tag children =>
    have hbreaks := breaksMeasured_measureEach l tag children
    rw [measure] at hbreaks ⊢
    rw [Measured.write, chars, hbreaks]
    split <;> simp [toList_writeEach l _ _ _ children]

theorem toList_writeEach (l : Layout) (indent : Nat) (sep out : String) (nodes : List Node) :
    (Measured.writeEach l indent sep out (measureEach nodes)).toList =
      out.toList ++ charsEach l indent sep.toList nodes := by
  cases nodes with
  | nil => simp [measureEach, Measured.writeEach, charsEach]
  | cons node nodes =>
    rw [measureEach, Measured.writeEach, charsEach, toList_writeEach l indent sep _ nodes,
      toList_write l indent _ node]
    simp

end

/-- The text of a node that stands at the start of a line. -/
def render (l : Layout) (node : Node) : String :=
  node.measure.write l 0 ""

theorem render_eq_ofList (l : Layout) (node : Node) :
    render l node = String.ofList (chars l 0 node) := by
  rw [← String.ofList_toList (s := render l node), render, toList_write]
  simp

/-! ## Flat text -/

mutual

/-- The text of a node without any layout. -/
def flat : Node → List Char
  | symbol text => text.toList
  | string text => Text.quote text.toList
  | list tag children => '(' :: (tag.toList ++ flatEach children ++ [')'])

/-- The texts of some nodes without any layout, each after one blank. -/
def flatEach : List Node → List Char
  | [] => []
  | node :: nodes => ' ' :: (flat node ++ flatEach nodes)

end

end Node

end WatText
