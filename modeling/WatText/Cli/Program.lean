import WatText.Cli.Options
import WatText.Demo
import WatText.Text.Bytes

/-!
# The command line program

The program prints the text of the demo module, or writes it to a path. How arguments are read is a
parameter (`Reading`), and so is the system that the program runs on: a `System` prints and writes
files in some monad, and says when it failed.
-/

namespace WatText.Cli

/-- Why the system failed. -/
structure SystemError where
  text : String
  /-- The number of the error, if the operating system has one for it. -/
  number : Option Nat := none
  deriving DecidableEq

/-- The system error as one line of text. -/
def SystemError.message (e : SystemError) : String :=
  match e.number with
  | none => e.text
  | some n => e.text ++ " (os error " ++ n.repr ++ ")"

/-- What a program asks of the system that it runs on. -/
structure System (μ : Type → Type) where
  /-- Prints a text on a stream. -/
  print : Stream → String → μ (Except SystemError Unit)
  /-- Opens the file at a path, which is created or emptied, and writes a text to it. -/
  writeFile : List UInt8 → String → μ (Except SystemError Unit)
  /-- How a panic with a message is reported. -/
  panicReport : String → String

/-- The exit code of a module that cannot be built. -/
def dataCode : UInt32 := 65

/-- The exit code of a file that cannot be written. -/
def writeCode : UInt32 := 74

/-- The exit code of a panic. -/
def panicCode : UInt32 := 101

section Run

variable {μ : Type → Type} [Monad μ] (sys : System μ)

/-- Prints the last text of a run that is to end with `code`. A text that cannot be printed is a
panic, whose own report may get lost. -/
def System.conclude (stream : Stream) (text : String) (code : UInt32) : μ UInt32 := do
  match ← sys.print stream text with
  | .ok () => return code
  | .error e =>
    let message := "failed printing to " ++ stream.name ++ ": " ++ e.message
    let _ ← sys.print .stderr (sys.panicReport message)
    return panicCode

/-- The report of a path that cannot be written. -/
def writeReport (path : List UInt8) (e : SystemError) : String :=
  "error: cannot write `" ++ Text.shown path ++ "`: " ++ e.message ++ "\n"

/-- Writes the text of a run to a path, and reports a failure. -/
def System.save (path : List UInt8) (text : String) : μ UInt32 := do
  match ← sys.writeFile path text with
  | .ok () => return 0
  | .error e => sys.conclude .stderr (writeReport path e) writeCode

/-- A run of the program, up to its exit code. -/
def run (read : List (List UInt8) → Reading) (args : List (List UInt8)) : μ UInt32 := do
  match read args with
  | .stop stream text code =>
    let _ ← sys.print stream text
    return code
  | .options o =>
    match Demo.text o.caps o.layout with
    | .error e => sys.conclude .stderr ("error: " ++ e.message ++ "\n") dataCode
    | .ok text =>
      match o.output with
      | none => sys.conclude .stdout (text ++ "\n") 0
      | some path => sys.save path (text ++ "\n")

end Run

end WatText.Cli
