import WatText.NumOp

/-!
# Instructions

A recorded instruction is a value, and `Instr.text` is the one symbol that it contributes to a tree.
The text keeps the operands of an instruction as they display: an index is a number or a name, a
constant is a number, a truth value or a text taken as it is.
-/

namespace WatText

/-- An index of a local, a global or a function: a position, or a name taken as it is. -/
inductive Index where
  | position (n : UInt32)
  | name (text : String)
  deriving DecidableEq, Inhabited

/-- The index as an instruction shows it. -/
def Index.text : Index → String
  | position n => n.toNat.repr
  | name text => text

/-- The operand of a constant: a text taken as it is, a truth value or an integer of any size. -/
inductive Literal where
  | verbatim (text : String)
  | bool (value : Bool)
  | int (value : Int)
  deriving DecidableEq, Inhabited

/-- The literal as a constant shows it. -/
def Literal.text : Literal → String
  | verbatim text => text
  | bool true => "true"
  | bool false => "false"
  | int value => value.repr

/-- The instructions that take one index. -/
inductive IndexedOp where
  | getLocal
  | setLocal
  | getGlobal
  | setGlobal
  | call
  deriving DecidableEq, Inhabited

/-- The keyword of an instruction with an index. -/
def IndexedOp.keyword : IndexedOp → String
  | getLocal => "get_local"
  | setLocal => "set_local"
  | getGlobal => "get_global"
  | setGlobal => "set_global"
  | call => "call"

/-- The instructions without operands. -/
inductive BareOp where
  | nop
  | block
  | blockEnd
  deriving DecidableEq, Inhabited

/-- The keyword of an instruction without operands. -/
def BareOp.keyword : BareOp → String
  | nop => "nop"
  | block => "block"
  | blockEnd => "end"

/-- A numeric instruction, its value type apart. -/
inductive Numeric where
  | add
  | sub
  | mul
  | const (value : Literal)
  | div (sign : Sign)
  | rem (sign : Sign)
  | load
  | sizedLoad (bits : UInt32) (sign : Sign)
  | store
  | sizedStore (bits : UInt32)
  deriving DecidableEq, Inhabited

namespace Numeric

/-- The operation of a numeric instruction. -/
def op : Numeric → NumOp
  | add => .add
  | sub => .sub
  | mul => .mul
  | const _ => .const
  | div _ => .div
  | rem _ => .rem
  | load => .load
  | sizedLoad _ _ => .sizedLoad
  | store => .store
  | sizedStore _ => .sizedStore

/-- What follows the name of the operation in a mnemonic. -/
def suffix : Numeric → String
  | add | sub | mul | load | store => ""
  | const value => " " ++ value.text
  | div sign | rem sign => "_" ++ sign.text
  | sizedLoad bits sign => bits.toNat.repr ++ "_" ++ sign.text
  | sizedStore bits => bits.toNat.repr

/-- The mnemonic of a numeric instruction on a value type. -/
def mnemonic (ty : NumType) (n : Numeric) : String :=
  ty.text ++ "." ++ n.op.name ++ n.suffix

end Numeric

/-- An instruction of a function body. -/
inductive Instr where
  | indexed (op : IndexedOp) (index : Index)
  | bare (op : BareOp)
  | numeric (ty : NumType) (op : Numeric)
  deriving DecidableEq, Inhabited

/-- The text of an instruction. -/
def Instr.text : Instr → String
  | indexed op index => op.keyword ++ " " ++ index.text
  | bare op => op.keyword
  | numeric ty op => op.mnemonic ty

end WatText
