import WatText.Instr.Basic
import WatText.Text.Numeral

/-!
# Decoding of instruction texts

`Instr.decode?` takes the text of an instruction apart. Indices and literals come back as the texts
that they display as (`Instr.shown`), since nothing in the text tells a number from a name that
looks like one.
-/

namespace WatText

/-- What follows `head` in a text that starts with it. -/
def after? : List Char → List Char → Option (List Char)
  | [], cs => some cs
  | h :: head, c :: cs => if h = c then after? head cs else none
  | _ :: _, [] => none

theorem after?_append (head cs : List Char) : after? head (head ++ cs) = some cs := by
  induction head with
  | nil => rfl
  | cons h head ih => simpa [after?] using ih

theorem eq_append_of_after? {head cs rest : List Char} (h : after? head cs = some rest) :
    cs = head ++ rest := by
  fun_induction after? head cs with
  | case1 => simpa using h
  | case2 head c cs ih => rw [ih h]; rfl
  | case3 => cases h
  | case4 => cases h

/-- Every value type. -/
def NumType.all : List NumType :=
  [i32, i64, f32, f64]

theorem NumType.mem_all (ty : NumType) : ty ∈ all := by
  cases ty <;> decide

/-- Every instruction with an index. -/
def IndexedOp.all : List IndexedOp :=
  [getLocal, setLocal, getGlobal, setGlobal, call]

theorem IndexedOp.mem_all (op : IndexedOp) : op ∈ all := by
  cases op <;> decide

/-- Every instruction without operands. -/
def BareOp.all : List BareOp :=
  [nop, block, blockEnd]

/-- The index with its displayed text as a name. -/
def Index.shown (i : Index) : Index :=
  .name i.text

/-- The literal with its displayed text taken as it is. -/
def Literal.shown (l : Literal) : Literal :=
  .verbatim l.text

/-- The numeric instruction with a displayed literal. -/
def Numeric.shown : Numeric → Numeric
  | const value => const value.shown
  | n => n

/-- The instruction with a displayed index or literal. -/
def Instr.shown : Instr → Instr
  | indexed op index => indexed op index.shown
  | bare op => bare op
  | numeric ty op => numeric ty op.shown

/-- Reads a width in decimal up to the end of the text or to `stop`: the width, and what follows. -/
def width? (cs : List Char) : Option (UInt32 × List Char) :=
  (Text.digits? (cs.takeWhile Char.isDigit)).map fun n =>
    (UInt32.ofNat n, cs.dropWhile Char.isDigit)

/-- Reads an underscore and a sign flag. -/
def signSuffix? : List Char → Option Sign
  | '_' :: flag => Sign.ofText? (String.ofList flag)
  | _ => none

namespace Numeric

/-- Takes apart what follows `load`. -/
def ofLoadSuffix? (cs : List Char) : Option Numeric :=
  if cs.isEmpty then some load
  else do
    let (bits, rest) ← width? cs
    return sizedLoad bits (← signSuffix? rest)

/-- Takes apart what follows `store`. -/
def ofStoreSuffix? (cs : List Char) : Option Numeric :=
  if cs.isEmpty then some store
  else do
    let (bits, rest) ← width? cs
    if rest.isEmpty then return sizedStore bits else none

/-- Takes apart what follows the value type and the point of a mnemonic. -/
def decode? (cs : List Char) : Option Numeric :=
  if cs = "add".toList then some add
  else if cs = "sub".toList then some sub
  else if cs = "mul".toList then some mul
  else
    ((after? "const ".toList cs).map fun value => const (.verbatim (String.ofList value)))
    <|> ((after? "div".toList cs).bind signSuffix?).map div
    <|> ((after? "rem".toList cs).bind signSuffix?).map rem
    <|> (after? "load".toList cs).bind ofLoadSuffix?
    <|> (after? "store".toList cs).bind ofStoreSuffix?

end Numeric

namespace Instr

/-- Takes apart a keyword, a blank and an index. -/
def decodeIndexed? (cs : List Char) : Option Instr :=
  IndexedOp.all.findSome? fun op =>
    (after? (op.keyword.toList ++ [' ']) cs).map fun index =>
      indexed op (.name (String.ofList index))

/-- Takes apart a lone keyword. -/
def decodeBare? (cs : List Char) : Option Instr :=
  (BareOp.all.find? fun op => cs = op.keyword.toList).map bare

/-- Takes apart a mnemonic. -/
def decodeNumeric? (cs : List Char) : Option Instr :=
  NumType.all.findSome? fun ty =>
    ((after? (ty.text.toList ++ ['.']) cs).bind Numeric.decode?).map (numeric ty)

/-- Takes apart the text of an instruction. -/
def decode? (text : String) : Option Instr :=
  decodeIndexed? text.toList <|> decodeBare? text.toList <|> decodeNumeric? text.toList

end Instr

end WatText
