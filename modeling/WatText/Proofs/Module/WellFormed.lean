import WatText.Proofs.Module.Log

/-!
# Well-formed modules

`Module.WellFormed` is the invariant of modules: distinct and non-empty keys in both tables, imports
that are bound under their own names to functions without bodies, paths of good segments, and no
function without a name. `WellFormed.register` takes it over one call that offers no function
without a name.

`Module.WellFormed.shows` says what the tree of such a module shows of it. The strings of a tree are
its path segments and its function and export names, so that none of these is empty says that the
tree has no empty string (`Node.strings`).
-/

namespace WatText

/-! ## The invariant -/

/-- Whether an import may stand under a name. -/
structure Import.WellFormed (name : String) (i : Import) : Prop where
  name_eq : i.func.name = name
  bodyless : i.func.body = none
  path_ne_nil : i.path ≠ []
  segments : ∀ segment ∈ i.path, segment ≠ "" ∧ '.' ∉ segment.toList

/-- Whether a module keeps to the rules of its tables. -/
structure Module.WellFormed (m : Module) : Prop where
  import_keys : m.imports.keys.Nodup
  imports : ∀ e ∈ m.imports.entries, e.1 ≠ "" ∧ e.2.WellFormed e.1
  export_keys : m.exports.keys.Nodup
  exports : ∀ e ∈ m.exports.entries, e.1 ≠ "" ∧ e.2.name ≠ ""

/-- Whether the function that a call offers, if it offers one, has a name. -/
def Call.Named (c : Call) : Prop :=
  ∀ name f, c = .addExport name (.func f) → f.name ≠ ""

/-- A call registers a good import or none. -/
theorem Call.wellFormed_import? {c : Call} {e : String × Import} (h : c.import? = some e) :
    e.1 ≠ "" ∧ e.2.WellFormed e.1 := by
  cases c with
  | addExport name item => cases h
  | addImport path name σ =>
    unfold import? at h
    dsimp only at h
    split at h
    · next hok =>
      cases h
      refine ⟨hok.2, rfl, rfl, Text.splitString_ne_nil '.' path, fun segment hs => ?_⟩
      exact ⟨hok.1 segment hs, Text.not_mem_of_mem_splitString hs⟩
    · cases h

theorem Call.Named.export? {c : Call} (hc : c.Named) {e : String × Func}
    (h : c.export? = some e) : e.1 ≠ "" ∧ e.2.name ≠ "" := by
  refine ⟨?_, hc e.1 e.2 (Module.export?_eq_some h)⟩
  rw [Module.export?_eq_some h] at h
  intro hempty
  rw [hempty] at h
  cases h

namespace Module

theorem wellFormed_empty : WellFormed {} where
  import_keys := List.nodup_nil
  imports := nofun
  export_keys := List.nodup_nil
  exports := nofun

theorem WellFormed.put_import {m : Module} (h : m.WellFormed) {name : String} {i : Import}
    (hname : name ≠ "") (hi : i.WellFormed name) :
    WellFormed { m with imports := m.imports.put name i } where
  import_keys := Table.nodup_keys_put h.import_keys name i
  imports := by
    intro e he
    rcases Table.mem_entries_put he with rfl | he
    · exact ⟨hname, hi⟩
    · exact h.imports e he
  export_keys := h.export_keys
  exports := h.exports

theorem WellFormed.put_export {m : Module} (h : m.WellFormed) {name : String} {f : Func}
    (hname : name ≠ "") (hf : f.name ≠ "") :
    WellFormed { m with exports := m.exports.put name f } where
  import_keys := h.import_keys
  imports := h.imports
  export_keys := Table.nodup_keys_put h.export_keys name f
  exports := by
    intro e he
    rcases Table.mem_entries_put he with rfl | he
    · exact ⟨hname, hf⟩
    · exact h.exports e he

/-- **The invariant over one call.** -/
theorem WellFormed.register {m : Module} (h : m.WellFormed) {c : Call} (hc : c.Named) :
    (m.register c).WellFormed := by
  -- an accepted call puts into one table, a refused one into none
  cases hi : c.import? with
  | some e =>
    have he : c.export? = none := by
      cases c with
      | addImport path name σ => rfl
      | addExport name item => cases hi
    unfold Module.register
    rw [hi, he]
    obtain ⟨hname, hgood⟩ := Call.wellFormed_import? hi
    exact h.put_import hname hgood
  | none =>
    cases he : c.export? with
    | none =>
      unfold Module.register
      rw [hi, he]
      exact h
    | some e =>
      unfold Module.register
      rw [hi, he]
      obtain ⟨hname, hnamed⟩ := hc.export? he
      exact h.put_export hname hnamed

theorem WellFormed.registerEach {m : Module} (h : m.WellFormed) {cs : List Call}
    (hcs : ∀ c ∈ cs, c.Named) : (cs.foldl Module.register m).WellFormed := by
  induction cs generalizing m with
  | nil => exact h
  | cons c cs ih =>
    exact ih (h.register (hcs c List.mem_cons_self)) fun c' hc' =>
      hcs c' (List.mem_cons_of_mem c hc')

theorem WellFormed.body_eq_none {m : Module} (h : m.WellFormed) :
    ∀ i ∈ m.imports.values, i.func.body = none := by
  intro i hi
  obtain ⟨e, he, rfl⟩ := List.mem_map.1 hi
  exact (h.imports e he).2.bodyless

end Module

/-! ## The strings of a tree -/

namespace Node

mutual

/-- The quoted strings of a node, from left to right. -/
def strings : Node → List String
  | symbol _ => []
  | string text => [text]
  | list _ children => stringsEach children

def stringsEach : List Node → List String
  | [] => []
  | node :: nodes => strings node ++ stringsEach nodes

end

theorem mem_stringsEach {text : String} {nodes : List Node} :
    text ∈ stringsEach nodes ↔ ∃ n ∈ nodes, text ∈ n.strings := by
  induction nodes with
  | nil => simp [stringsEach]
  | cons node nodes ih => simp [stringsEach, ih]

theorem mem_strings_list {text tag : String} {nodes : List Node} :
    text ∈ (list tag nodes).strings ↔ ∃ n ∈ nodes, text ∈ n.strings := by
  rw [strings, mem_stringsEach]

@[simp] theorem strings_symbol (text : String) : (symbol text).strings = [] := by rw [strings]

@[simp] theorem strings_string (text : String) : (string text).strings = [text] := by rw [strings]

end Node

theorem Operand.strings_toNode (o : Operand) : o.toNode.strings = [] := by
  rw [List.eq_nil_iff_forall_not_mem]
  intro text h
  obtain ⟨n, hn, htext⟩ := Node.mem_strings_list.1 h
  rcases List.mem_append.1 hn with hn | hn
  · obtain ⟨name, -, rfl⟩ := Option.map_eq_some_iff.1 (Option.mem_toList.1 hn)
    simp at htext
  · rw [List.mem_singleton.1 hn] at htext
    simp at htext

/-- The only string of a function is its name. -/
theorem Func.mem_strings_nodeOf {f : Func} {instrs : List Instr} {text : String} :
    text ∈ (f.nodeOf instrs).strings ↔ text = f.name := by
  unfold nodeOf
  rw [Node.mem_strings_list]
  constructor
  · rintro ⟨n, hn, htext⟩
    rcases List.mem_cons.1 hn with rfl | hn
    · simpa using htext
    · rcases List.mem_append.1 hn with hn | hn
      · obtain ⟨e, -, rfl⟩ := List.mem_map.1 hn
        simp [Operand.strings_toNode] at htext
      · obtain ⟨i, -, rfl⟩ := List.mem_map.1 hn
        simp at htext
  · rintro rfl
    exact ⟨.string f.name, List.mem_cons_self, by simp⟩

theorem Import.mem_strings_nodeOf {i : Import} {text : String} (h : text ∈ i.nodeOf.strings) :
    text ∈ i.path ∨ text = i.func.name := by
  obtain ⟨n, hn, htext⟩ := Node.mem_strings_list.1 h
  rcases List.mem_append.1 hn with hn | hn
  · obtain ⟨segment, hs, rfl⟩ := List.mem_map.1 hn
    have hsegment : text = segment := by simpa using htext
    exact .inl (hsegment ▸ hs)
  · rw [List.mem_singleton.1 hn] at htext
    exact .inr (Func.mem_strings_nodeOf.1 htext)

theorem mem_strings_exportEntry {name func text : String}
    (h : text ∈ (exportEntry name func).strings) : text = name ∨ text = func := by
  simpa [exportEntry, Node.strings, Node.stringsEach] using h

/-! ## What the tree shows -/

/-- What the tree of a well-formed module shows of the module. -/
structure Node.ShowsWellFormed (tree : Node) : Prop where
  tag : tree.tag? = some "module"
  /-- A child is an import, a function or an export entry. -/
  kinds : ∀ n ∈ tree.children, n.import?.isSome ∨ n.func?.isSome ∨ n.entry?.isSome
  import_names : (tree.shown.imports.map fun i => i.2.1).Nodup
  import_instructions : ∀ n ∈ tree.children, n.import?.isSome → n.instructions = []
  export_names : (tree.shown.entries.map Prod.fst).Nodup
  /-- An export entry names a function that stands before it. -/
  refers : ∀ (p : Nat) n e, tree.children[p]? = some n → n.entry? = some e →
    ∃ q < p, ∃ n' f, tree.children[q]? = some n' ∧ n'.func? = some f ∧ f.1 = e.2
  /-- No path segment, no name of a function and no export name is empty. -/
  strings : "" ∉ tree.strings

namespace Module

/-- An export entry stands behind the imports and the functions. -/
theorem exists_getElem?_entries {m : Module} {bodies : List (List Instr)}
    (hlength : bodies.length = m.exports.size) {p : Nat} {n : Node} {e : String × String}
    (hn : (m.treeOf bodies).children[p]? = some n) (he : n.entry? = some e) :
    ∃ k d, p = m.imports.size + m.exports.size + k ∧ m.exports.entries[k]? = some d ∧
      e = (d.1, d.2.name) := by
  have himports : (m.imports.values.map Import.nodeOf).length = m.imports.size := by
    rw [List.length_map, Table.length_values]
  have hfuncs : (List.zipWith Func.nodeOf m.exports.values bodies).length = m.exports.size := by
    simp [Table.length_values, hlength]
  unfold treeOf Node.children at hn
  dsimp only at hn
  rw [List.getElem?_append, List.length_append, himports, hfuncs] at hn
  split at hn
  · -- imports and functions are no entries
    rcases List.mem_append.1 (List.mem_of_getElem? hn) with hmem | hmem
    · obtain ⟨i, -, rfl⟩ := List.mem_map.1 hmem
      cases he
    · rw [← List.map_uncurry_zip_eq_zipWith] at hmem
      obtain ⟨f, -, rfl⟩ := List.mem_map.1 hmem
      cases he
  · next hp =>
    rw [List.getElem?_map] at hn
    obtain ⟨d, hd, rfl⟩ := Option.map_eq_some_iff.1 hn
    cases he
    exact ⟨p - (m.imports.size + m.exports.size), d, by omega, hd, rfl⟩

/-- **What the tree of a well-formed module shows.** -/
theorem WellFormed.shows {m : Module} (h : m.WellFormed) {j : Journal} {tree : Node}
    (ht : (m.toNode j).1 = .ok tree) : tree.ShowsWellFormed := by
  obtain ⟨bodies, hb, rfl⟩ := exists_treeOf h.body_eq_none ht
  have hlength : bodies.length = m.exports.size := by
    rw [Func.length_playEach hb, Table.length_values]
  have hshown := m.shown_treeOf bodies
  refine ⟨rfl, fun n hn => ?_, ?_, fun n hn hi => ?_, ?_, fun p n e hn he => ?_, ?_⟩
  · rcases mem_children_treeOf hn with ⟨i, -, rfl⟩ | ⟨f, -, instrs, -, rfl⟩ | ⟨e, -, rfl⟩
    · exact .inl (by rw [Node.import?_nodeOf]; rfl)
    · exact .inr (.inl (by rw [Node.func?_nodeOf]; rfl))
    · exact .inr (.inr rfl)
  · have hkeys : ((m.shown bodies).imports.map fun i => i.2.1) = m.imports.keys := by
      unfold shown Table.values Table.keys
      rw [List.map_map, List.map_map]
      exact List.map_congr_left fun e he => (h.imports e he).2.name_eq
    rw [hshown, hkeys]
    exact h.import_keys
  · rcases mem_children_treeOf hn with ⟨i, -, rfl⟩ | ⟨f, -, instrs, -, rfl⟩ | ⟨e, -, rfl⟩
    · exact i.instructions_nodeOf
    · cases hi
    · cases hi
  · have hkeys : (m.shown bodies).entries.map Prod.fst = m.exports.keys := by
      unfold shown Table.keys
      rw [List.map_map]
      rfl
    rw [hshown, hkeys]
    exact h.export_keys
  · obtain ⟨k, d, rfl, hd, rfl⟩ := exists_getElem?_entries hlength hn he
    have hk : k < m.exports.size := (List.getElem?_eq_some_iff.1 hd).1
    have hf : m.exports.values[k]? = some d.2 := by
      unfold Table.values
      rw [List.getElem?_map, hd]
      rfl
    have hi : bodies[k]? = some bodies[k] := List.getElem?_eq_getElem (by omega)
    exact ⟨m.imports.size + k, by omega, _, _, getElem?_children_func hf hi,
      Node.func?_nodeOf d.2 _, rfl⟩
  · intro hempty
    obtain ⟨n, hn, htext⟩ := Node.mem_strings_list.1 hempty
    rcases mem_children_treeOf hn with ⟨i, hi, rfl⟩ | ⟨f, hf, instrs, -, rfl⟩ | ⟨e, he, rfl⟩
    · obtain ⟨e, he, rfl⟩ := List.mem_map.1 hi
      obtain ⟨hname, hgood⟩ := h.imports e he
      rcases Import.mem_strings_nodeOf htext with hs | hs
      · exact (hgood.segments "" hs).1 rfl
      · exact hname (hgood.name_eq.symm.trans hs.symm)
    · obtain ⟨e, he, rfl⟩ := List.mem_map.1 hf
      exact (h.exports e he).2 (Func.mem_strings_nodeOf.1 htext).symm
    · rcases mem_strings_exportEntry htext with hs | hs
      · exact (h.exports e he).1 hs.symm
      · exact (h.exports e he).2 hs.symm

end Module

end WatText
