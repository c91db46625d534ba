import WatText.Func.Describe
import WatText.Module

/-!
# Workspaces

A workspace holds functions under chosen keys, a module and a journal, and answers commands one by
one. Functions are values: an export takes a copy of a stored function, which later extensions of
the stored one do not touch, but the copies share the counter of their body. A command works on the
workspace and keeps it whether it fails or not.
-/

namespace WatText

/-- A question to a function. -/
inductive Inspection where
  | name
  | record
  | render
  | text (l : Layout)
  | describe

/-- What a command answers when it succeeds. -/
inductive Answer where
  | done
  | text (s : String)
  | recorded (instrs : Option (List Instr))
  | node (n : Node)
  /-- The command names a function that the workspace does not hold. -/
  | unknown

/-- Answers a question to a function. Only recording, rendering and printing run its body. -/
def Func.inspect (f : Func) : Inspection → BuildM Answer
  | .name => return .text f.name
  | .record => return .recorded (← f.record)
  | .render => return .node (← f.toNode)
  | .text l => return .text (← f.toText l)
  | .describe => return .text f.describe

/-- A value to export, as a command gives it. -/
inductive Offer where
  /-- A copy of a stored function. -/
  | stored (key : String)
  /-- A function built for the export. -/
  | built (plan : FuncPlan)
  | signature (ds : List Declaration)
  | operand (o : Operand)

/-- A command to a workspace. -/
inductive Command where
  | addImport (path name : String) (ds : List Declaration)
  | addExport (name : String) (offer : Offer)
  | define (key : String) (plan : FuncPlan)
  | extend (key : String) (e : Extension)
  | inspect (key : String) (i : Inspection)
  | render
  | text (l : Layout)

/-- Functions under chosen keys, and a module. -/
structure Workspace where
  funcs : Table String Func := {}
  module : Module := {}

namespace Workspace

/-- Stores a function under a key. -/
def store (w : Workspace) (key : String) (f : Func) : Workspace :=
  { w with funcs := w.funcs.put key f }

/-- Works on the module. -/
def onModule {α : Type} (x : BuildOn Module α) : BuildOn Workspace α :=
  ExceptT.mk do
    let w ← get
    let (result, m) ← liftM (x.run.run w.module)
    set { w with module := m }
    return result

/-- The value that an offer stands for, if the workspace holds what it names. -/
def item? (w : Workspace) : Offer → BuildM (Option Item)
  | .stored key => return (w.funcs.get? key).map .func
  | .built plan => return some (.func (← plan.build))
  | .signature ds => return some (.signature (.ofDeclarations ds))
  | .operand o => return some (.operand o)

/-- Carries out a command. -/
def step : Command → BuildOn Workspace Answer
  | .addImport path name ds => do
    onModule (Module.addImport path name (.ofDeclarations ds))
    return .done
  | .addExport name offer => do
    match ← (← get).item? offer with
    | none => return .unknown
    | some item => do
      onModule (Module.addExport name item)
      return .done
  | .define key plan => do
    let f ← plan.build
    modify (·.store key f)
    return .done
  | .extend key e => do
    match (← get).funcs.get? key with
    | none => return .unknown
    | some f => do
      let f ← f.extend e
      modify (·.store key f)
      return .done
  | .inspect key i => do
    match (← get).funcs.get? key with
    | none => return .unknown
    | some f => f.inspect i
  | .render => return .node (← (← get).module.toNode)
  | .text l => return .text (← (← get).module.toText l)

/-- The answers to a list of commands, where a command that fails answers its error. Each command
finds the workspace and the journal that the one before it left, however that ended. -/
def run (w : Workspace) (j : Journal) : List Command → List (Except BuildError Answer) × Journal
  | [] => ([], j)
  | c :: rest =>
    let ((answer, w'), j') := step c w j
    let (answers, last) := w'.run j' rest
    (answer :: answers, last)

end Workspace

end WatText
