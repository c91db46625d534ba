import WatText.NumOp

/-!
# Errors of building

An error names its cause. The wording of each cause is here and nowhere else: `reason` for the part
that says what is wrong, `BuildError.message` for the whole line.
-/

namespace WatText

/-- What is wrong with the name or the path of a declaration. -/
inductive ArgumentFault where
  | emptyFunctionName
  | emptyExportName
  | emptySegment (path : String)
  deriving DecidableEq

namespace ArgumentFault

/-- The argument that the fault is about. -/
def argument : ArgumentFault → String
  | emptyFunctionName | emptyExportName => "name"
  | emptySegment _ => "source_path"

/-- What is wrong, in words. -/
def reason : ArgumentFault → String
  | emptyFunctionName => "function name must not be empty"
  | emptyExportName => "export name must not be empty"
  | emptySegment path => "`" ++ path ++ "` has an empty segment"

end ArgumentFault

/-- What is wrong with the width or the sign flag of an operation. -/
inductive OperandFault where
  | unknownSign (flag : String)
  | notWholeBytes (bits : UInt32)
  | widthWithoutSign
  | signWithoutWidth
  deriving DecidableEq

/-- What is wrong, in words. -/
def OperandFault.reason : OperandFault → String
  | unknownSign flag => "sign flag must be `s` or `u`, found `" ++ flag ++ "`"
  | notWholeBytes bits => "bit width must be a positive multiple of 8, found " ++ bits.toNat.repr
  | widthWithoutSign => "bit width given without a sign flag"
  | signWithoutWidth => "sign flag given without a bit width"

/-- The place where an operand fault is noticed: an operation, or a sign flag read on its own. -/
inductive OperandSite where
  | signFlag
  | operation (op : NumOp)
  deriving DecidableEq

/-- The name a message gives to the place. -/
def OperandSite.name : OperandSite → String
  | signFlag => "sign"
  | operation op => op.name

/-- The kinds of value that can be offered for export. -/
inductive ItemKind where
  | function
  | signature
  | operand
  deriving DecidableEq

/-- The name a message gives to a kind of value. -/
def ItemKind.name : ItemKind → String
  | function => "function"
  | signature => "signature"
  | operand => "operand"

/-- Why a building step was refused. -/
inductive BuildError where
  | invalidArgument (fault : ArgumentFault)
  | invalidOperand (site : OperandSite) (fault : OperandFault)
  | outOfRange (op : NumOp) (ty : NumType) (bits max : UInt32)
  | unsupported (op : NumOp) (ty : NumType)
  | notAFunction (found : ItemKind)
  deriving DecidableEq

/-- The error as one line of text. -/
def BuildError.message : BuildError → String
  | invalidArgument fault => "invalid argument `" ++ fault.argument ++ "`: " ++ fault.reason
  | invalidOperand site fault => "invalid operand for `" ++ site.name ++ "`: " ++ fault.reason
  | outOfRange op ty bits max =>
    "bit width " ++ bits.toNat.repr ++ " of `" ++ ty.text ++ "." ++ op.name
      ++ "` exceeds the supported maximum of " ++ max.toNat.repr
  | unsupported op ty => "`" ++ op.name ++ "` is not supported for `" ++ ty.text ++ "`"
  | notAFunction found => "module only exports functions, found " ++ found.name

end WatText
