import WatText.NumType

/-!
# Numeric operations and width limits

Which operations each value type supports, and how wide a sized memory access may be.
-/

namespace WatText

/-- A numeric operation. The sized forms of `load` and `store` count as operations of their own. -/
inductive NumOp where
  | add
  | sub
  | mul
  | const
  | div
  | rem
  | load
  | sizedLoad
  | store
  | sizedStore
  deriving DecidableEq, Inhabited

namespace NumOp

/-- Every operation, in the order of the list above. -/
def all : List NumOp :=
  [add, sub, mul, const, div, rem, load, sizedLoad, store, sizedStore]

theorem mem_all (op : NumOp) : op ∈ all := by
  cases op <;> decide

/-- The name of an operation inside a mnemonic, which the sized forms share with the plain ones. -/
def name : NumOp → String
  | add => "add"
  | sub => "sub"
  | mul => "mul"
  | const => "const"
  | div => "div"
  | rem => "rem"
  | load | sizedLoad => "load"
  | store | sizedStore => "store"

/-- Whether an operation is defined on integers only. -/
def integerOnly : NumOp → Bool
  | rem | sizedLoad | sizedStore => true
  | add | sub | mul | const | div | load | store => false

end NumOp

/-- Whether a value type supports an operation. -/
def NumType.supports (ty : NumType) (op : NumOp) : Bool :=
  ty.isInteger || !op.integerOnly

/-- The widest sized access allowed on each integer type, in bits. -/
structure WidthCaps where
  i32 : UInt32 := 16
  i64 : UInt32 := 32
  deriving DecidableEq, Inhabited

/-- The widest sized access allowed on a value type. Floats have no sized accesses. -/
def WidthCaps.maxBits? (caps : WidthCaps) : NumType → Option UInt32
  | .i32 => some caps.i32
  | .i64 => some caps.i64
  | .f32 | .f64 => none

theorem WidthCaps.isSome_maxBits? (caps : WidthCaps) (ty : NumType) :
    (caps.maxBits? ty).isSome = ty.isInteger := by
  cases ty <;> rfl

end WatText
