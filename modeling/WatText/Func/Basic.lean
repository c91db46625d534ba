import WatText.Journal
import WatText.Node.Layout
import WatText.Recorder
import WatText.Signature

/-!
# Functions

A function has a name, a signature and, unless it only describes an import, a body. The body is run
afresh for every record and every rendering: each run starts an empty recorder and advances the
counter of the body, also when it fails. Copies of a function share the body's counter.
-/

namespace WatText

/-- The body of a function: what it does in a run, and the counter that numbers its runs. -/
structure Body where
  counter : Nat
  script : List Step

/-- A named function. -/
structure Func where
  name : String
  signature : Signature := {}
  body : Option Body := none
  caps : WidthCaps := {}

/-- A step that extends a function. -/
inductive Extension where
  | declare (d : Declaration)
  | caps (caps : WidthCaps)
  /-- A new body with a counter of its own. -/
  | body (script : List Step)

namespace Func

/-- A function without a body. The name may not be empty, because calls and exports go by it. -/
def create (name : String) (signature : Signature := {}) : Except BuildError Func :=
  if name = "" then .error (.invalidArgument .emptyFunctionName)
  else .ok { name, signature }

/-- The function with one more declaring step. -/
def declare (f : Func) (d : Declaration) : Func :=
  { f with signature := f.signature.declare d }

/-- The function with these limits for the sized accesses of its body. -/
def withCaps (f : Func) (caps : WidthCaps) : Func :=
  { f with caps }

/-- The function with this body. -/
def withBody (f : Func) (body : Body) : Func :=
  { f with body := some body }

/-- Extends a function. -/
def extend (f : Func) : Extension → BuildM Func
  | .declare d => return f.declare d
  | .caps caps => return f.withCaps caps
  | .body script => return f.withBody { counter := ← newCounter, script }

/-- What a run of the body does, given its number: the failure that ends it, if one does, and the
instructions recorded by then. -/
def outcome (f : Func) (body : Body) (run : Nat) : Option BuildError × List Instr :=
  let (failure, recorder) := Recorder.play { caps := f.caps, run } body.script
  (failure, recorder.instrs)

/-- The instructions of one run of the body, `none` without a body. The recorder of the run goes on
with the journal, and what it noted stays also when the run fails. -/
def record (f : Func) : BuildM (Option (List Instr)) :=
  match f.body with
  | none => return none
  | some body => do
    let run ← startRun body.counter
    let start : Recorder := { caps := f.caps, run, journal := ← get }
    let (failure, recorder) := start.play body.script
    set recorder.journal
    match failure with
    | some e => throw e
    | none => return some recorder.instrs

/-- The node of a function with the given instructions. -/
def nodeOf (f : Func) (instrs : List Instr) : Node :=
  .list "func" (.string f.name :: (f.signature.toNodes ++ instrs.map fun i => .symbol i.text))

/-- The node of a function, with the instructions of one run. -/
def toNode (f : Func) : BuildM Node := do
  let instrs := (← f.record).getD []
  noteEvents [.functionRendered f.name f.signature.size instrs.length]
  return f.nodeOf instrs

/-- The text of a function, with the instructions of one run. -/
def toText (f : Func) (l : Layout := {}) : BuildM String :=
  return (← f.toNode).render l

end Func

/-- How to build a function from nothing. -/
structure FuncPlan where
  name : String
  declarations : List Declaration := []
  extensions : List Extension := []

/-- Builds a function. Nothing is run. -/
def FuncPlan.build (p : FuncPlan) : BuildM Func := do
  let f ← MonadExcept.ofExcept (Func.create p.name (.ofDeclarations p.declarations))
  p.extensions.foldlM Func.extend f

end WatText
