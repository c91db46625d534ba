import WatText.Node.Layout
import WatText.NumOp

/-!
# Options of the command line

What a command line can set. An option that is not given has the value that the rest of the library
uses by default. A path is whatever bytes the system has for it, which need not be those of a text.
-/

namespace WatText.Cli

/-- The options of a run. -/
structure Options where
  i32Cap : UInt32 := ({} : WidthCaps).i32
  i64Cap : UInt32 := ({} : WidthCaps).i64
  indent : UInt64 := .ofNat ({} : Layout).indent
  inlineHeight : UInt64 := .ofNat ({} : Layout).inlineHeight
  /-- The path that the module is written to, if it is not printed. -/
  output : Option (List UInt8) := none
  deriving DecidableEq

namespace Options

/-- The width limits in force. -/
def caps (o : Options) : WidthCaps where
  i32 := o.i32Cap
  i64 := o.i64Cap

/-- The layout in force. -/
def layout (o : Options) : Layout where
  indent := o.indent.toNat
  inlineHeight := o.inlineHeight.toNat

end Options

/-- The streams that a run prints on. -/
inductive Stream where
  | stdout
  | stderr
  deriving DecidableEq

/-- The name of a stream. -/
def Stream.name : Stream → String
  | stdout => "stdout"
  | stderr => "stderr"

/-- What reading the arguments of a run comes to. -/
inductive Reading where
  | options (o : Options)
  /-- The run is over when it has shown a text: a help text, or why the arguments are refused. -/
  | stop (stream : Stream) (text : String) (code : UInt32)
  deriving DecidableEq

end WatText.Cli
