import WatText.Instr.Request
import WatText.Node.Basic

/-!
# Operands

An operand is a value type together with the part it plays in a function's declarations. As a
declaration it is the node `(role name? type)`; as a source of instructions only its type and its
width limits count (`Operand.instr?`).
-/

namespace WatText

/-- The part an operand plays among the declarations of a function. -/
inductive Role where
  | param
  | localVar
  | result
  deriving DecidableEq, Inhabited

namespace Role

/-- Every role. -/
def all : List Role :=
  [param, localVar, result]

theorem mem_all (role : Role) : role ∈ all := by
  cases role <;> decide

/-- The keyword of a role. -/
def text : Role → String
  | param => "param"
  | localVar => "local"
  | result => "result"

end Role

/-- A typed operand. -/
structure Operand where
  ty : NumType
  role : Role := .param
  name : Option String := none
  caps : WidthCaps := {}
  deriving DecidableEq, Inhabited

namespace Operand

/-- The declaration of an operand. -/
def toNode (o : Operand) : Node :=
  .list o.role.text ((o.name.map Node.symbol).toList ++ [.symbol o.ty.text])

/-- The instruction that a request stands for on an operand, or why there is none. -/
def instr? (o : Operand) (request : Request) : Except BuildError Instr :=
  (request.resolve o.ty o.caps).map (Instr.numeric o.ty)

end Operand

end WatText
