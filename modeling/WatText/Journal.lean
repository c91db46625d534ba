import WatText.Instr.Basic
import WatText.BuildError
import WatText.Tally

/-!
# What building leaves behind

Building is pure but for two things: the bodies count their runs, and what happens is noted as
events. A `Journal` holds both, and a `BuildM` action reads and extends it. An action that fails
keeps what it noted before the failure.

A `BuildOn` action works on a state besides. What it did to the state before a failure is kept too,
so that a failure leaves the state alone is something to prove of each action.
-/

namespace WatText

/-- Something that happened while a program was built. -/
inductive Event where
  | recorded (instr : Instr)
  | functionRendered (name : String) (declarations instructions : Nat)
  | imported (source name : String)
  | exported (name function : String)
  | moduleRendered (imports exports : Nat)
  deriving DecidableEq

/-- The runs of every body so far, and the events so far in order. -/
structure Journal where
  runs : Tally := {}
  events : List Event := []
  deriving DecidableEq, Inhabited

namespace Journal

/-- Notes some events at the end. -/
def note (j : Journal) (events : List Event) : Journal :=
  { j with events := j.events ++ events }

/-- Counts one more run of a body. -/
def countRun (j : Journal) (counter : Nat) : Journal :=
  { j with runs := j.runs.bump counter }

/-- Sets up the counter of a new body. -/
def addCounter (j : Journal) : Nat × Journal :=
  (j.runs.fresh, { j with runs := j.runs.reserve })

@[simp] theorem events_note (j : Journal) (es : List Event) :
    (j.note es).events = j.events ++ es := rfl

@[simp] theorem runs_note (j : Journal) (es : List Event) : (j.note es).runs = j.runs := rfl

theorem note_note (j : Journal) (es es' : List Event) :
    (j.note es).note es' = j.note (es ++ es') := by
  unfold note
  rw [List.append_assoc]

end Journal

/-- A building action: it may fail, and it keeps a journal either way. -/
abbrev BuildM := ExceptT BuildError (StateM Journal)

/-- A building action on a state: it may fail, and it keeps the state and a journal either way. -/
abbrev BuildOn (σ : Type) := ExceptT BuildError (StateT σ (StateM Journal))

/-- A building action does nothing to a state. -/
instance (priority := low) {σ : Type} : MonadLift BuildM (BuildOn σ) where
  monadLift x := ExceptT.mk (liftM x.run)

/-- The state that an action makes of another one, unless it fails. -/
def BuildOn.made {σ : Type} (x : BuildOn σ Unit) (s : σ) : BuildM σ :=
  ExceptT.mk do
    let (result, s') ← x.run.run s
    return result.map fun _ => s'

/-- Notes some events. -/
def noteEvents (events : List Event) : BuildM Unit :=
  modify (·.note events)

/-- Starts a run of a body and gives the number of the run, which is one for the first. -/
def startRun (counter : Nat) : BuildM Nat :=
  modifyGet fun j => (j.runs.count counter + 1, j.countRun counter)

/-- Sets up the counter of a new body. -/
def newCounter : BuildM Nat :=
  modifyGet Journal.addCounter

end WatText
