import WatText.Signature
import WatText.Proofs.Table

/-!
# Declarations that show the same

A slot overrules some of what its operand says: the role of a result, the name of a named
declaration. `param` and `localVar` set the role when the operand is stored, and no declaration
shows the limits of its operand. Lists of steps that agree in all else (`Declaration.Agrees`) make
signatures with the same nodes (`Signature.toNodes_ofDeclarations_eq`).

The signatures themselves may differ. Along the steps they have the same slots in the same order,
and under each slot operands that it shows alike (`Signature.ShowsLike`), however often the slot is
declared again.
-/

namespace WatText

/-- Whether two declaring steps differ at most in what is overruled. -/
inductive Declaration.Agrees : Declaration → Declaration → Prop
  | param {o o' : Operand} (ty : o.ty = o'.ty) (name : o.name = o'.name) :
    Agrees (.param o) (.param o')
  | localVar (name : String) {o o' : Operand} (ty : o.ty = o'.ty) :
    Agrees (.localVar name o) (.localVar name o')
  | result {o o' : Operand} (ty : o.ty = o'.ty) (name : o.name = o'.name) :
    Agrees (.result o) (.result o')
  | position (index : UInt32) {o o' : Operand} (ty : o.ty = o'.ty) (role : o.role = o'.role)
    (name : o.name = o'.name) : Agrees (.slot (.position index) o) (.slot (.position index) o')
  | named (name : String) {o o' : Operand} (ty : o.ty = o'.ty) (role : o.role = o'.role) :
    Agrees (.slot (.named name) o) (.slot (.named name) o')
  | resultSlot {o o' : Operand} (ty : o.ty = o'.ty) (name : o.name = o'.name) :
    Agrees (.slot .result o) (.slot .result o')

theorem Operand.toNode_congr {o o' : Operand} (hty : o.ty = o'.ty) (hrole : o.role = o'.role)
    (hname : o.name = o'.name) : o.toNode = o'.toNode := by
  unfold toNode
  rw [hty, hrole, hname]

/-- Whether a slot shows two operands alike. -/
def Slot.ShowsLike (slot : Slot) (o o' : Operand) : Prop :=
  (slot.present o).toNode = (slot.present o').toNode

namespace Signature

/-- Whether two signatures have the same slots in the same order and show their operands alike. -/
def ShowsLike (σ σ' : Signature) : Prop :=
  Table.Related Slot.ShowsLike σ.slots σ'.slots

variable {σ σ' : Signature}

theorem ShowsLike.nextPosition_eq (h : σ.ShowsLike σ') : σ.nextPosition = σ'.nextPosition := by
  unfold nextPosition
  rw [Table.Related.keys_eq h]

theorem ShowsLike.toNodes_eq (h : σ.ShowsLike σ') : σ.toNodes = σ'.toNodes :=
  Table.Related.map_eq h fun _ _ _ hshows => hshows

/-- Agreeing steps address one slot, and give it operands that it shows alike. -/
theorem ShowsLike.target_eq (h : σ.ShowsLike σ') {d d' : Declaration} (hd : d.Agrees d') :
    σ.target d = σ'.target d' ∧ (σ.target d).ShowsLike d.stored d'.stored := by
  cases hd with
  | param ty name =>
    exact ⟨congrArg Slot.position h.nextPosition_eq, Operand.toNode_congr ty rfl name⟩
  | localVar name ty => exact ⟨rfl, Operand.toNode_congr ty rfl rfl⟩
  | result ty name => exact ⟨rfl, Operand.toNode_congr ty rfl name⟩
  | position index ty role name => exact ⟨rfl, Operand.toNode_congr ty role name⟩
  | named name ty role => exact ⟨rfl, Operand.toNode_congr ty role rfl⟩
  | resultSlot ty name => exact ⟨rfl, Operand.toNode_congr ty rfl name⟩

/-- **One step.** -/
theorem ShowsLike.declare (h : σ.ShowsLike σ') {d d' : Declaration} (hd : d.Agrees d') :
    (σ.declare d).ShowsLike (σ'.declare d') := by
  obtain ⟨htarget, hshows⟩ := h.target_eq hd
  unfold ShowsLike Signature.declare
  rw [← htarget]
  exact Table.Related.put h hshows

theorem ShowsLike.foldl_declare (h : σ.ShowsLike σ') {ds ds' : List Declaration}
    (hds : List.Forall₂ Declaration.Agrees ds ds') :
    (ds.foldl Signature.declare σ).ShowsLike (ds'.foldl Signature.declare σ') := by
  induction hds generalizing σ σ' with
  | nil => exact h
  | cons hd hrest ih => exact ih (h.declare hd)

/-- **Agreeing steps show the same.** -/
theorem toNodes_ofDeclarations_eq {ds ds' : List Declaration}
    (hds : List.Forall₂ Declaration.Agrees ds ds') :
    (ofDeclarations ds).toNodes = (ofDeclarations ds').toNodes := by
  have hempty : ShowsLike {} {} := .nil
  exact (hempty.foldl_declare hds).toNodes_eq

end Signature

end WatText
