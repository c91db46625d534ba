import WatText.Journal
import WatText.Operand

/-!
# Recording of function bodies

A recorder collects instructions in the order in which they are asked for, and notes each one in its
journal as it is added. A request that fails leaves no trace. `Recorder.play` carries out the steps
of a script: a step whose failure is not caught ends it.
-/

namespace WatText

/-- What a body asks its recorder for. -/
inductive Action where
  | indexed (op : IndexedOp) (index : Index)
  | bare (op : BareOp)
  | numeric (ty : NumType) (request : Request)
  /-- A constant that shows the number of the run. -/
  | runNumber (ty : NumType)

/-- One step of a body. -/
structure Step where
  action : Action
  /-- Whether the body goes on when the step fails. -/
  caught : Bool := false

/-- A body being recorded. -/
structure Recorder where
  caps : WidthCaps := {}
  run : Nat := 1
  recorded : Array Instr := #[]
  /-- The journal of the building that the recording is part of. -/
  journal : Journal := {}

namespace Recorder

/-- The instruction that an action asks for, or why there is none. -/
def instr? (r : Recorder) : Action → Except BuildError Instr
  | .indexed op index => .ok (.indexed op index)
  | .bare op => .ok (.bare op)
  | .numeric ty request => Operand.instr? { ty, caps := r.caps } request
  | .runNumber ty => .ok (.numeric ty (.const (.int r.run)))

/-- Adds an instruction at the end and notes it. -/
def push (r : Recorder) (i : Instr) : Recorder :=
  { r with journal := r.journal.note [.recorded i], recorded := r.recorded.push i }

/-- Carries out one action. -/
def perform (r : Recorder) (a : Action) : Except BuildError Instr × Recorder :=
  match r.instr? a with
  | .ok i => (.ok i, r.push i)
  | .error e => (.error e, r)

/-- Carries out the steps of a body, up to the first failure that is not caught. -/
def play (r : Recorder) : List Step → Option BuildError × Recorder
  | [] => (none, r)
  | step :: rest =>
    match r.perform step.action with
    | (.ok _, r') => r'.play rest
    | (.error e, r') => if step.caught then r'.play rest else (some e, r')

/-- The recorded instructions in order. -/
def instrs (r : Recorder) : List Instr :=
  r.recorded.toList

@[simp] theorem instrs_push (r : Recorder) (i : Instr) : (r.push i).instrs = r.instrs ++ [i] := by
  simp [instrs, push]

@[simp] theorem journal_push (r : Recorder) (i : Instr) :
    (r.push i).journal = r.journal.note [.recorded i] := rfl

end Recorder

end WatText
