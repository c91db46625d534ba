import WatText.Operand
import WatText.Table

/-!
# Signatures

A signature is a table of declarations by slot: positional ones, named ones and the result. A slot
that is declared again takes the new operand and keeps its place. The slot has the last word on the
name of a named declaration and on the role of the result, at the time the signature is shown
(`Slot.present`), so the operands are stored as they were given.
-/

namespace WatText

/-- What a declaration is stored under. -/
inductive Slot where
  | position (index : UInt32)
  | named (name : String)
  | result
  deriving DecidableEq, Inhabited

namespace Slot

/-- The position after a positional slot, the last position itself if there is none after it; zero
for the other slots. -/
def following : Slot → UInt32
  | position index => if index.toNat + 1 < UInt32.size then index + 1 else index
  | named _ | result => 0

/-- The operand as a declaration under the slot shows it. -/
def present (o : Operand) : Slot → Operand
  | position _ => o
  | named name => { o with name := some name }
  | result => { o with role := .result }

end Slot

/-- One declaring step. -/
inductive Declaration where
  /-- A parameter at the next position. -/
  | param (o : Operand)
  /-- A named local. -/
  | localVar (name : String) (o : Operand)
  /-- The result. -/
  | result (o : Operand)
  /-- A declaration under a chosen slot, with the role that the operand has. -/
  | slot (slot : Slot) (o : Operand)

/-- The operand that a declaring step stores. -/
def Declaration.stored : Declaration → Operand
  | param o => { o with role := .param }
  | localVar _ o => { o with role := .localVar }
  | result o | slot _ o => o

/-- The declarations of a function. -/
structure Signature where
  slots : Table Slot Operand := {}
  deriving DecidableEq, Inhabited

namespace Signature

/-- The number of declarations. -/
def size (σ : Signature) : Nat :=
  σ.slots.size

/-- One past the highest position in use. -/
def nextPosition (σ : Signature) : UInt32 :=
  (σ.slots.keys.map Slot.following).foldr max 0

/-- The slot that a declaring step addresses. -/
def target (σ : Signature) : Declaration → Slot
  | .param _ => .position σ.nextPosition
  | .localVar name _ => .named name
  | .result _ => .result
  | .slot slot _ => slot

/-- Carries out a declaring step. -/
def declare (σ : Signature) (d : Declaration) : Signature :=
  ⟨σ.slots.put (σ.target d) d.stored⟩

/-- The signature that a list of declaring steps makes from the empty one. -/
def ofDeclarations (ds : List Declaration) : Signature :=
  ds.foldl declare {}

/-- The declarations as nodes, in order. -/
def toNodes (σ : Signature) : List Node :=
  σ.slots.entries.map fun (slot, o) => (slot.present o).toNode

end Signature

end WatText
