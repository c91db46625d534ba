import WatText.Node.Layout

/-!
# Printing step by step

The text of a tree as the work of a printer that keeps a running indentation. `Node.steps` lists
what it does from left to right: it raises the indentation before the children of a list that breaks
and lowers it again after them, and a line end opens the next line with what the indentation is at
that moment.

`run_steps`: the steps of a node write `Node.chars` and leave the indentation as it was.
-/

namespace WatText

/-- A step of a printer. -/
inductive PrintStep where
  /-- Writes some characters. -/
  | put (cs : List Char)
  /-- Ends the line and indents the next one. -/
  | lineEnd
  /-- Raises the indentation by one level. -/
  | raise
  /-- Lowers the indentation by one level. -/
  | lower
  deriving DecidableEq

/-- A printer: what it has written, and the indentation of a line that it would open. -/
structure Printer where
  written : List Char := []
  indent : Nat := 0
  deriving DecidableEq

namespace Printer

/-- Writes some characters. -/
def put (p : Printer) (cs : List Char) : Printer :=
  { p with written := p.written ++ cs }

/-- Carries out one step. -/
def take (l : Layout) (p : Printer) : PrintStep → Printer
  | .put cs => p.put cs
  | .lineEnd => p.put (newline p.indent)
  | .raise => { p with indent := p.indent + l.indent }
  | .lower => { p with indent := p.indent - l.indent }

/-- Carries out some steps, one after another. -/
def run (l : Layout) (p : Printer) (steps : List PrintStep) : Printer :=
  steps.foldl (take l) p

@[simp] theorem indent_put (p : Printer) (cs : List Char) : (p.put cs).indent = p.indent := rfl

theorem run_cons (l : Layout) (p : Printer) (s : PrintStep) (steps : List PrintStep) :
    p.run l (s :: steps) = (p.take l s).run l steps := rfl

theorem run_append (l : Layout) (p : Printer) (steps steps' : List PrintStep) :
    p.run l (steps ++ steps') = (p.run l steps).run l steps' :=
  List.foldl_append

/-- What some steps write does not depend on what was written before them. -/
theorem written_run (l : Layout) (p : Printer) (steps : List PrintStep) :
    (p.run l steps).written =
      p.written ++ (Printer.run l { indent := p.indent } steps).written := by
  induction steps generalizing p with
  | nil => exact (List.append_nil _).symm
  | cons s steps ih =>
    have hwritten : (p.take l s).written =
        p.written ++ (Printer.take l { indent := p.indent } s).written := by
      cases s <;> simp [take, put]
    have hindent : (Printer.take l { indent := p.indent } s).indent = (p.take l s).indent := by
      cases s <;> rfl
    rw [run_cons, run_cons, ih, ih (Printer.take l _ s), hwritten, hindent, List.append_assoc]

end Printer

namespace Node

mutual

/-- What a printer does to write a node. -/
def steps (l : Layout) : Node → List PrintStep
  | symbol text => [.put text.toList]
  | string text => [.put (Text.quote text.toList)]
  | list tag children =>
    .put ('(' :: tag.toList) ::
      ((if l.breaks tag children then
          .raise :: (stepsEach l .lineEnd children ++ [.lower, .lineEnd])
        else stepsEach l (.put [' ']) children) ++ [.put [')']])

/-- What a printer does to write some nodes, each after the step `sep`. -/
def stepsEach (l : Layout) (sep : PrintStep) : List Node → List PrintStep
  | [] => []
  | node :: nodes => sep :: (steps l node ++ stepsEach l sep nodes)

end

theorem stepsEach_append (l : Layout) (sep : PrintStep) (ns ms : List Node) :
    stepsEach l sep (ns ++ ms) = stepsEach l sep ns ++ stepsEach l sep ms := by
  induction ns with
  | nil => rw [List.nil_append, stepsEach, List.nil_append]
  | cons n ns ih => rw [List.cons_append, stepsEach, stepsEach, ih]; simp

mutual

/-- **The steps of a node write its text and keep the indentation.** -/
theorem run_steps (l : Layout) (p : Printer) (node : Node) :
    p.run l (steps l node) = p.put (chars l p.indent node) := by
  cases node with
  | symbol text => rw [steps, chars]; rfl
  | string text => rw [steps, chars]; rfl
  | list tag children =>
    rw [steps, chars, Printer.run_cons, Printer.run_append]
    split
    · rw [Printer.run_cons l _ .raise, Printer.run_append l _ (stepsEach l .lineEnd children),
        run_stepsEach l _ .lineEnd (newline (p.indent + l.indent)) children fun q hq => by
          rw [Printer.take, hq]; rfl]
      simp [Printer.run, Printer.take, Printer.put]
    · rw [run_stepsEach l _ (.put [' ']) [' '] children fun q _ => rfl]
      simp [Printer.run, Printer.take, Printer.put]

theorem run_stepsEach (l : Layout) (p : Printer) (sep : PrintStep) (cs : List Char)
    (nodes : List Node) (hsep : ∀ q : Printer, q.indent = p.indent → q.take l sep = q.put cs) :
    p.run l (stepsEach l sep nodes) = p.put (charsEach l p.indent cs nodes) := by
  cases nodes with
  | nil => rw [stepsEach, charsEach]; simp [Printer.run, Printer.put]
  | cons node nodes =>
    have hrest := run_stepsEach l ((p.put cs).put (chars l p.indent node)) sep cs nodes hsep
    rw [stepsEach, charsEach, Printer.run_cons, Printer.run_append, hsep p rfl, run_steps l _ node,
      Printer.indent_put, hrest]
    simp [Printer.put]

end

/-- The text of a tree is what a new printer writes. -/
theorem toList_render (l : Layout) (node : Node) :
    (node.render l).toList = (Printer.run l {} (steps l node)).written := by
  rw [run_steps, render_eq_ofList, String.toList_ofList]
  rfl

end Node

end WatText
