import WatText.Proofs.Func.Runs
import WatText.Proofs.Table

/-!
# Signatures as insertion-ordered maps

`inOrder_ofDeclarations`: after any declaring steps, a signature has every slot once, in the order
of the first declarations, with the operand of the last step that addressed it, and shows one node
for each. Whether a step is taken by the signature or by the function that has the signature makes
no difference.

A step is one put into the table of the slots (`declare_slots`). What it puts depends on the steps
before it only through the next position, so the steps come to a list of puts (`entriesOf`), and
`Table.entries_putAll` says what that list leaves in the table.
-/

namespace WatText

/-- The slot that a declaring step addresses when a parameter would get the position `next`, and
the operand that it gives. -/
def Declaration.entry (next : UInt32) : Declaration → Slot × Operand
  | .param o => (.position next, { o with role := .param })
  | .localVar name o => (.named name, { o with role := .localVar })
  | .result o => (.result, o)
  | .slot s o => (s, o)

/-- The node of a declaration: the slot decides the tag of the result and the name of a named
declaration, whatever the operand says. -/
def Slot.nodeOf (o : Operand) : Slot → Node
  | .position _ => .list o.role.text ((o.name.map Node.symbol).toList ++ [.symbol o.ty.text])
  | .named name => .list o.role.text [.symbol name, .symbol o.ty.text]
  | .result => .list "result" ((o.name.map Node.symbol).toList ++ [.symbol o.ty.text])

namespace Signature

/-- What the steps address and give, each at its moment. -/
def entriesOf (ds : List Declaration) : List (Slot × Operand) :=
  ds.mapIdx fun i d => d.entry (ofDeclarations (ds.take i)).nextPosition

/-! ## The steps as puts -/

theorem declare_slots (σ : Signature) (d : Declaration) :
    (σ.declare d).slots =
      σ.slots.put (d.entry σ.nextPosition).1 (d.entry σ.nextPosition).2 := by
  cases d <;> rfl

theorem ofDeclarations_concat (ds : List Declaration) (d : Declaration) :
    ofDeclarations (ds ++ [d]) = (ofDeclarations ds).declare d := by
  unfold ofDeclarations
  rw [List.foldl_append]
  rfl

theorem entriesOf_concat (ds : List Declaration) (d : Declaration) :
    entriesOf (ds ++ [d]) = entriesOf ds ++ [d.entry (ofDeclarations ds).nextPosition] := by
  unfold entriesOf
  rw [List.mapIdx_concat, List.take_left]
  congr 1
  -- the steps before the last one see the same steps before them
  apply List.mapIdx_eq_mapIdx_iff.2
  intro i hi
  rw [List.take_append_of_le_length (Nat.le_of_lt hi)]

theorem slots_ofDeclarations (ds : List Declaration) :
    (ofDeclarations ds).slots = Table.putAll {} (entriesOf ds) := by
  induction ds using List.reverseRecOn with
  | nil => rfl
  | append_singleton ds d ih =>
    rw [ofDeclarations_concat, declare_slots, ih, entriesOf_concat, Table.putAll_concat]

theorem toNode_present (slot : Slot) (o : Operand) : (slot.present o).toNode = slot.nodeOf o := by
  cases slot <;> rfl

/-! ## Steps on a function -/

theorem foldlM_declare_run (f : Func) (ds : List Declaration) (j : Journal) :
    (ds.map Extension.declare).foldlM Func.extend f j =
      (.ok { f with signature := ds.foldl declare f.signature }, j) := by
  induction ds generalizing f with
  | nil => rfl
  | cons d ds ih =>
    rw [List.map_cons, List.foldlM_cons, bind_run]
    exact ih (f.declare d)

/-- The function that some steps make of a signature that other steps made. -/
theorem build_run (name : String) (ds ds' : List Declaration) (j : Journal) :
    FuncPlan.build { name, declarations := ds, extensions := ds'.map .declare } j =
      if name = "" then (.error (.invalidArgument .emptyFunctionName), j)
      else (.ok { name, signature := ofDeclarations (ds ++ ds') }, j) := by
  unfold FuncPlan.build Func.create
  by_cases h : name = ""
  · rw [if_pos h, if_pos h]
    rfl
  · rw [if_neg h, if_neg h]
    have hall : ofDeclarations (ds ++ ds') = ds'.foldl declare (ofDeclarations ds) :=
      List.foldl_append
    rw [hall]
    exact foldlM_declare_run { name, signature := ofDeclarations ds } ds' j

/-! ## The ordered map -/

/-- What a signature is after some declaring steps from the empty one. -/
structure InOrder (ds : List Declaration) (σ : Signature) : Prop where
  distinct : σ.slots.keys.Nodup
  /-- The slots stand in the order of their first declaration. -/
  order : σ.slots.keys = ((entriesOf ds).map Prod.fst).eraseDups
  /-- Every slot has the operand of the last step that addressed it. -/
  operand : ∀ slot o, (slot, o) ∈ σ.slots.entries ↔ ∃ before after,
    entriesOf ds = before ++ (slot, o) :: after ∧ slot ∉ after.map Prod.fst
  nodes : σ.toNodes = σ.slots.entries.map fun e => e.1.nodeOf e.2
  /-- Wherever the steps are split between the signature that a function is created with and the
  function, the function has the signature. -/
  split : ∀ name before after j, before ++ after = ds →
    FuncPlan.build { name, declarations := before, extensions := after.map .declare } j =
      if name = "" then (.error (.invalidArgument .emptyFunctionName), j)
      else (.ok { name, signature := σ }, j)
  /-- The function shows the nodes of the signature. -/
  rendered : ∀ name j, (Func.toNode { name, signature := σ } j).1 =
    .ok (.list "func" (.string name :: σ.slots.entries.map fun e => e.1.nodeOf e.2))

/-- **Signatures are insertion-ordered maps.** -/
theorem inOrder_ofDeclarations (ds : List Declaration) : InOrder ds (ofDeclarations ds) := by
  have hslots := slots_ofDeclarations ds
  have hnodes : (ofDeclarations ds).toNodes =
      (ofDeclarations ds).slots.entries.map fun e => e.1.nodeOf e.2 :=
    List.map_congr_left fun e _ => toNode_present e.1 e.2
  refine ⟨?_, ?_, fun slot o => ?_, hnodes, ?_, fun name j => ?_⟩
  · rw [hslots]
    exact Table.nodup_keys_putAll _
  · rw [hslots]
    exact Table.keys_putAll _
  · rw [hslots, Table.entries_putAll]
    exact Table.mem_latest_iff
  · rintro name before after j rfl
    exact build_run name before after j
  · rw [Func.toNode_run_of_body_eq_none rfl, Func.nodeOf, List.map_nil, List.append_nil, hnodes]

/-- A slot that is declared again keeps its place. -/
example :
    (ofDeclarations [.param { ty := .i32 }, .localVar "x" { ty := .f32 },
      .slot (.position 0) { ty := .i64 }, .param { ty := .f64 }]).toNodes =
      [.list "param" [.symbol "i64"], .list "local" [.symbol "x", .symbol "f32"],
        .list "param" [.symbol "f64"]] := by
  rfl

end Signature

end WatText
