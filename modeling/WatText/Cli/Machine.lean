import WatText.Cli.Program

/-!
# The system of the machine

Runs the program on the machine itself. Nothing is decided here.
-/

namespace WatText.Cli

/-- The text and the number that the system gives an error. -/
def SystemError.ofIO : IO.Error → SystemError
  | .noFileOrDirectory _ code text
  | .inappropriateType _ code text
  | .permissionDenied _ code text
  | .resourceExhausted _ code text
  | .invalidArgument _ code text
  | .alreadyExists _ code text => ⟨text, some code.toNat⟩
  | .unsupportedOperation code text
  | .resourceBusy code text
  | .hardwareFault code text
  | .otherError code text => ⟨text, some code.toNat⟩
  | e => { text := toString e }

/-- Whether an action of the machine went well. -/
def outcomeOf (x : IO Unit) : BaseIO (Except SystemError Unit) := do
  match ← x.toBaseIO with
  | .ok () => return .ok ()
  | .error e => return .error (.ofIO e)

/-- The open stream of the machine. -/
def Stream.get : Stream → BaseIO IO.FS.Stream
  | stdout => IO.getStdout
  | stderr => IO.getStderr

/-- The machine as the system of a program. -/
def machine : System BaseIO where
  print stream text := do
    let out ← stream.get
    outcomeOf do
      out.putStr text
      out.flush
  writeFile path text := outcomeOf do
    let some name := Text.ofBytes? path | throw (IO.userError "the path is not a text")
    IO.FS.withFile name .write fun file => do
      file.putStr text
      file.flush
  panicReport message := "panic: " ++ message ++ "\n"

/-- Runs the program on the machine. -/
def start (read : List (List UInt8) → Reading) (args : List String) : BaseIO UInt32 :=
  run machine read (args.map Text.bytesOf)

end WatText.Cli
