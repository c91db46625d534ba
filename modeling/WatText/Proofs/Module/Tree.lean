import WatText.Module
import WatText.Proofs.Func.Runs
import WatText.Proofs.Table

/-!
# The tree of a module

`Module.toNode_fst`: rendering a module whose imports have no bodies runs the exported bodies one
after another and puts what they record into the tree `Module.treeOf`. Everything else in the tree
is fixed by the two tables.
-/

namespace WatText

/-- The node of an import whose function has no body. -/
def Import.nodeOf (i : Import) : Node :=
  .list "import" (i.path.map .string ++ [i.func.nodeOf []])

/-- The event of a rendering without a run. -/
def Func.declared (f : Func) : Event :=
  .functionRendered f.name f.signature.size 0

namespace Module

/-- The tree of a module, given the instructions of each exported function. -/
def treeOf (m : Module) (bodies : List (List Instr)) : Node :=
  .list "module" (m.imports.values.map Import.nodeOf
    ++ List.zipWith Func.nodeOf m.exports.values bodies
    ++ m.exports.entries.map fun e => exportEntry e.1 e.2.name)

theorem importNode_run {i : Import} (h : i.func.body = none) (j : Journal) :
    i.toNode j = (.ok i.nodeOf, j.note [i.func.declared]) := by
  unfold Import.toNode
  rw [bind_run, Func.toNode_run_of_body_eq_none h]
  rfl

/-- Rendering imports cannot fail. -/
theorem mapM_importNode_run {is : List Import} (h : ∀ i ∈ is, i.func.body = none) (j : Journal) :
    is.mapM Import.toNode j =
      (.ok (is.map Import.nodeOf), j.note (is.map fun i => i.func.declared)) := by
  induction is generalizing j with
  | nil =>
    show (Except.ok [], j) = (Except.ok [], { j with events := j.events ++ [] })
    rw [List.append_nil]
  | cons i is ih =>
    have hi := h i List.mem_cons_self
    have his := ih (fun i' hi' => h i' (List.mem_cons_of_mem i hi')) (j.note [i.func.declared])
    rw [List.mapM_cons, bind_run, importNode_run hi]
    dsimp only
    rw [bind_run, his, Journal.note_note]
    rfl

/-- **Rendering a module.** -/
theorem toNode_fst {m : Module} (h : ∀ i ∈ m.imports.values, i.func.body = none) (j : Journal) :
    (m.toNode j).1 = (Func.playEach m.exports.values j.runs).map m.treeOf := by
  unfold toNode
  rw [bind_run, mapM_importNode_run h]
  dsimp only
  rw [bind_run]
  have hf := Func.mapM_toNode_fst m.exports.values
    (j.note (m.imports.values.map fun i => i.func.declared))
  rw [Journal.runs_note] at hf
  rcases hm : m.exports.values.mapM Func.toNode
    (j.note (m.imports.values.map fun i => i.func.declared)) with ⟨_ | nodes, j'⟩
  all_goals
    rw [hm] at hf ⊢
    cases hp : Func.playEach m.exports.values j.runs <;> rw [hp] at hf <;> cases hf
    rfl

/-- A tree that a module renders to shows one run of each exported function. -/
theorem exists_treeOf {m : Module} (h : ∀ i ∈ m.imports.values, i.func.body = none) {j : Journal}
    {tree : Node} (ht : (m.toNode j).1 = .ok tree) :
    ∃ bodies, Func.playEach m.exports.values j.runs = .ok bodies ∧ tree = m.treeOf bodies := by
  rw [toNode_fst h] at ht
  cases hp : Func.playEach m.exports.values j.runs with
  | error e => rw [hp] at ht; cases ht
  | ok bodies => rw [hp] at ht; cases ht; exact ⟨bodies, rfl, rfl⟩

/-- A child of the tree is an import, an exported function or an export entry. -/
theorem mem_children_treeOf {m : Module} {bodies : List (List Instr)} {n : Node}
    (h : n ∈ (m.treeOf bodies).children) :
    (∃ i ∈ m.imports.values, n = i.nodeOf) ∨
      (∃ f ∈ m.exports.values, ∃ instrs ∈ bodies, n = f.nodeOf instrs) ∨
      ∃ e ∈ m.exports.entries, n = exportEntry e.1 e.2.name := by
  unfold treeOf Node.children at h
  rcases List.mem_append.1 h with h | h
  · rcases List.mem_append.1 h with h | h
    · obtain ⟨i, hi, rfl⟩ := List.mem_map.1 h
      exact .inl ⟨i, hi, rfl⟩
    · -- the pairs tell that the function and the body belong to the module
      rw [← List.map_uncurry_zip_eq_zipWith] at h
      obtain ⟨⟨f, instrs⟩, hp, rfl⟩ := List.mem_map.1 h
      obtain ⟨hf, hinstrs⟩ := List.of_mem_zip hp
      exact .inr (.inl ⟨f, hf, instrs, hinstrs, rfl⟩)
  · obtain ⟨e, he, rfl⟩ := List.mem_map.1 h
    exact .inr (.inr ⟨e, he, rfl⟩)

/-! ## Where the nodes of an entry stand -/

theorem getElem?_children_import {m : Module} {bodies : List (List Instr)} {k : Nat}
    {e : String × Import} (h : m.imports.entries[k]? = some e) :
    (m.treeOf bodies).children[k]? = some e.2.nodeOf := by
  have himport : (m.imports.values.map Import.nodeOf)[k]? = some e.2.nodeOf := by
    unfold Table.values
    rw [List.getElem?_map, List.getElem?_map, h]
    rfl
  unfold treeOf Node.children
  dsimp only
  rw [List.append_assoc, List.getElem?_append_left (List.getElem?_eq_some_iff.1 himport).1, himport]

theorem getElem?_children_func {m : Module} {bodies : List (List Instr)} {k : Nat} {f : Func}
    {instrs : List Instr} (hf : m.exports.values[k]? = some f) (hi : bodies[k]? = some instrs) :
    (m.treeOf bodies).children[m.imports.size + k]? = some (f.nodeOf instrs) := by
  have himports : (m.imports.values.map Import.nodeOf).length = m.imports.size := by
    rw [List.length_map, Table.length_values]
  have hfunc : (List.zipWith Func.nodeOf m.exports.values bodies)[k]? = some (f.nodeOf instrs) := by
    rw [List.getElem?_zipWith, hf, hi]
  unfold treeOf Node.children
  dsimp only
  rw [List.append_assoc, ← himports, List.getElem?_append_right (Nat.le_add_right _ k),
    Nat.add_sub_cancel_left, List.getElem?_append_left (List.getElem?_eq_some_iff.1 hfunc).1, hfunc]

theorem getElem?_children_entry {m : Module} {bodies : List (List Instr)} {k : Nat}
    {e : String × Func} (hlength : bodies.length = m.exports.size)
    (he : m.exports.entries[k]? = some e) :
    (m.treeOf bodies).children[m.imports.size + m.exports.size + k]? =
      some (exportEntry e.1 e.2.name) := by
  have hbefore : (m.imports.values.map Import.nodeOf ++
      List.zipWith Func.nodeOf m.exports.values bodies).length =
        m.imports.size + m.exports.size := by
    simp [Table.length_values, hlength]
  unfold treeOf Node.children
  dsimp only
  rw [← hbefore, List.getElem?_append_right (Nat.le_add_right _ k), Nat.add_sub_cancel_left,
    List.getElem?_map, he]
  rfl

/-! ## The text -/

/-- The text of a module is its tree's text. -/
theorem toText_run (m : Module) (l : Layout) (j : Journal) :
    m.toText l j = ((m.toNode j).1.map (Node.render l), (m.toNode j).2) := by
  unfold toText
  rw [bind_run]
  rcases m.toNode j with ⟨_ | tree, j'⟩ <;> rfl

end Module

end WatText
