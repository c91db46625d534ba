import WatText.Func.Basic
import WatText.Text.Unprintable

/-!
# Descriptions of functions

A one-line description of a function as it is stored: its name, its declarations with their slots
and operands, whether it has a body, and its width limits. Nothing is run for it. Names are quoted,
with escapes for the quote, the backslash and the characters that do not show by themselves; all
else is taken as it is.
-/

namespace WatText

namespace Text

/-- A character of a described name. -/
def describeChar (c : Char) : List Char :=
  match c with
  | '"' => ['\\', '"']
  | '\\' => ['\\', '\\']
  | '\n' => ['\\', 'n']
  | '\r' => ['\\', 'r']
  | '\t' => ['\\', 't']
  | '\x00' => ['\\', '0']
  | _ =>
    if isUnprintable c then
      '\\' :: 'u' :: '{' :: (Nat.toDigits 16 c.toNat ++ ['}'])
    else [c]

/-- A described name. -/
def describe (s : String) : String :=
  String.ofList ('"' :: (s.toList.flatMap describeChar ++ ['"']))

/-- Some described fields under the name of their record. -/
def describeFields (name : String) (fields : List (String × String)) : String :=
  name ++ " \x7b " ++ ", ".intercalate (fields.map fun (field, value) => field ++ ": " ++ value)
    ++ " \x7d"

end Text

/-- The described value type. -/
def NumType.describe : NumType → String
  | i32 => "I32"
  | i64 => "I64"
  | f32 => "F32"
  | f64 => "F64"

/-- The described role. -/
def Role.describe : Role → String
  | param => "Param"
  | localVar => "Local"
  | result => "Result"

/-- The described width limits. -/
def WidthCaps.describe (caps : WidthCaps) : String :=
  Text.describeFields "WidthCaps" [("i32", caps.i32.toNat.repr), ("i64", caps.i64.toNat.repr)]

/-- The described operand. -/
def Operand.describe (o : Operand) : String :=
  Text.describeFields "Operand" [
    ("ty", o.ty.describe),
    ("role", o.role.describe),
    ("name", match o.name with
      | none => "None"
      | some name => "Some(" ++ Text.describe name ++ ")"),
    ("caps", o.caps.describe)]

/-- The described slot. -/
def Slot.describe : Slot → String
  | position index => "Index(" ++ index.toNat.repr ++ ")"
  | named name => "Named(" ++ Text.describe name ++ ")"
  | result => "Result"

/-- The described signature. -/
def Signature.describe (σ : Signature) : String :=
  let entries := σ.slots.entries.map fun (slot, o) =>
    "(" ++ slot.describe ++ ", " ++ o.describe ++ ")"
  Text.describeFields "Signature" [("declarations", "[" ++ ", ".intercalate entries ++ "]")]

/-- The described function. -/
def Func.describe (f : Func) : String :=
  Text.describeFields "FunctionBuilder" [
    ("name", Text.describe f.name),
    ("signature", f.signature.describe),
    ("body", if f.body.isSome then "true" else "false"),
    ("caps", f.caps.describe)]

end WatText
