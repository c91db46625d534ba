import WatText.Proofs.Module.Lossless
import WatText.Proofs.Node.Flat

/-!
# One child per line

`Module.onePerLine_replay`: under a layout that breaks modules and leaves lists up to height three
on one line, a module puts every child on a line of its own and breaks none of them, whatever was
registered.

The children of a module fit the height three (`fits_of_mem_children`): a declaration has height
one, a function two, an import three.
-/

namespace WatText

/-! ## The height of what a module is made of -/

section Fits

variable {l : Layout} (hl : 3 ≤ l.inlineHeight) (ht : l.breakTags = ["module"])

include hl ht

theorem Operand.fits_toNode (o : Operand) : o.toNode.Fits l 1 := by
  have htag : o.role.text ∉ l.breakTags := by rw [ht]; cases o.role <;> decide
  apply Node.Fits.list (by omega) htag
  intro n hn
  rcases List.mem_append.1 hn with hn | hn
  · obtain ⟨name, -, rfl⟩ := Option.map_eq_some_iff.1 (Option.mem_toList.1 hn)
    exact Node.Fits.symbol l 0 name
  · rw [List.mem_singleton.1 hn]
    exact Node.Fits.symbol l 0 _

theorem Func.fits_nodeOf (f : Func) (instrs : List Instr) : (f.nodeOf instrs).Fits l 2 := by
  apply Node.Fits.list (by omega) (by rw [ht]; decide)
  intro n hn
  rcases List.mem_cons.1 hn with rfl | hn
  · exact Node.Fits.string l 1 f.name
  · rcases List.mem_append.1 hn with hn | hn
    · obtain ⟨e, -, rfl⟩ := List.mem_map.1 hn
      exact Operand.fits_toNode hl ht (e.1.present e.2)
    · obtain ⟨i, -, rfl⟩ := List.mem_map.1 hn
      exact Node.Fits.symbol l 1 i.text

theorem Import.fits_nodeOf (i : Import) : i.nodeOf.Fits l 3 := by
  apply Node.Fits.list (by omega) (by rw [ht]; decide)
  intro n hn
  rcases List.mem_append.1 hn with hn | hn
  · obtain ⟨segment, -, rfl⟩ := List.mem_map.1 hn
    exact Node.Fits.string l 2 segment
  · rw [List.mem_singleton.1 hn]
    exact Func.fits_nodeOf hl ht i.func []

theorem fits_exportEntry (name func : String) : (exportEntry name func).Fits l 2 := by
  apply Node.Fits.list (by omega) (by rw [ht]; decide)
  intro n hn
  rcases List.mem_pair.1 hn with rfl | rfl
  · exact Node.Fits.string l 1 name
  · apply Node.Fits.list (by omega) (by rw [ht]; decide)
    intro n hn
    rw [List.mem_singleton.1 hn]
    exact Node.Fits.string l 0 func

/-- The children of a module fit the height three. -/
theorem Module.fits_of_mem_children {m : Module} {bodies : List (List Instr)} {n : Node}
    (h : n ∈ (m.treeOf bodies).children) : n.Fits l 3 := by
  rcases mem_children_treeOf h with ⟨i, -, rfl⟩ | ⟨f, -, instrs, -, rfl⟩ | ⟨e, -, rfl⟩
  · exact i.fits_nodeOf hl ht
  · exact (f.fits_nodeOf hl ht instrs).mono (by decide)
  · exact (fits_exportEntry hl ht e.1 e.2.name).mono (by decide)

end Fits

namespace Module

/-! ## The lines of a module -/

/-- A module's text with one child per line: each child's flat text behind `indent` blanks. -/
def linesOf (indent : Nat) (children : List Node) : String :=
  String.ofList ("(module".toList ++
    children.flatMap (fun n => '\n' :: (List.replicate indent ' ' ++ n.flat)) ++ ['\n', ')'])

theorem render_module {l : Layout} (ht : l.breakTags = ["module"]) {children : List Node}
    (hne : children ≠ []) (hc : ∀ n ∈ children, n.Unbroken l) :
    (Node.list "module" children).render l = linesOf l.indent children := by
  have hempty : children.isEmpty = false := by
    rw [← Bool.not_eq_true, List.isEmpty_iff]
    exact hne
  have hbreaks : l.breaks "module" children = true := by
    simp [Layout.breaks, hempty, ht]
  have hlines : ∀ n ∈ children, newline l.indent ++ Node.chars l l.indent n =
      '\n' :: (List.replicate l.indent ' ' ++ n.flat) := by
    intro n hn
    rw [Node.chars_eq_flat l.indent n (hc n hn)]
    rfl
  rw [Node.render_eq_ofList, Node.chars, if_pos hbreaks, Nat.zero_add, Node.charsEach_eq_flatMap,
    List.flatMap_congr hlines]
  unfold linesOf newline
  simp

/-- Whether a call registers something. -/
def Registers (c : Call) : Prop :=
  c.import?.isSome ∨ c.export?.isSome

theorem children_treeOf_ne_nil {cs : List Call} {j₀ : Journal} {c : Call} (hc : c ∈ cs)
    (h : Registers c) (bodies : List (List Instr)) :
    ((replay ({}, j₀) cs).1.treeOf bodies).children ≠ [] := by
  have hne : ∀ {α : Type} (p : Call → Option (String × α)), (p c).isSome →
      Table.latest (cs.filterMap p) ≠ [] := by
    intro α p hp
    obtain ⟨e, he⟩ := Option.isSome_iff_exists.1 hp
    exact Table.latest_ne_nil (List.mem_filterMap.2 ⟨c, hc, he⟩)
  unfold treeOf Node.children
  rcases h with h | h
  · have := hne Call.import? h
    rw [← imports_entries_replay cs j₀] at this
    simp [Table.values, this]
  · have := hne Call.export? h
    rw [← exports_entries_replay cs j₀] at this
    simp [this]

/-- What the text of a module is after some calls. -/
structure OnePerLine (cs : List Call) (m : Module) (l : Layout) (j : Journal) : Prop where
  /-- Nothing was registered. -/
  empty : (∀ c ∈ cs, ¬Registers c) → (m.toText l j).1 = .ok "(module)"
  /-- Something was registered, and the module renders: one line for each child of its tree. -/
  lines : (∃ c ∈ cs, Registers c) → ∀ tree, (m.toNode j).1 = .ok tree →
    ∃ children, tree = .list "module" children ∧ children ≠ [] ∧
      (m.toText l j).1 = .ok (linesOf l.indent children)
  /-- No import, function or export entry breaks, nor any list inside one. -/
  unbroken : ∀ tree, (m.toNode j).1 = .ok tree → ∀ n ∈ tree.children, n.Unbroken l

/-- **One child per line.** -/
theorem onePerLine_replay (cs : List Call) (j₀ j : Journal) {l : Layout}
    (hl : 3 ≤ l.inlineHeight) (ht : l.breakTags = ["module"]) :
    OnePerLine cs (replay ({}, j₀) cs).1 l j := by
  have himports : ∀ i ∈ (replay ({}, j₀) cs).1.imports.values, i.func.body = none :=
    fun i hi => body_eq_none_of_mem_imports hi
  refine ⟨fun hnone => ?_, ?_, ?_⟩
  · have himport : cs.filterMap Call.import? = [] :=
      List.filterMap_eq_nil_iff.2 fun c hc => by
        simpa using fun h => hnone c hc (.inl h)
    have hexport : cs.filterMap Call.export? = [] :=
      List.filterMap_eq_nil_iff.2 fun c hc => by
        simpa using fun h => hnone c hc (.inr h)
    have hm : (replay ({}, j₀) cs).1 = {} := by
      rw [replay_fst, himport, hexport]
      rfl
    rw [hm]
    rfl
  · rintro ⟨c, hc, hreg⟩ tree htree
    obtain ⟨bodies, -, rfl⟩ := exists_treeOf himports htree
    refine ⟨_, rfl, children_treeOf_ne_nil hc hreg bodies, ?_⟩
    rw [toText_run, htree]
    exact congrArg Except.ok (render_module ht (children_treeOf_ne_nil hc hreg bodies)
      fun n hn => (fits_of_mem_children hl ht hn).unbroken)
  · intro tree htree n hn
    obtain ⟨bodies, -, rfl⟩ := exists_treeOf himports htree
    exact (fits_of_mem_children hl ht hn).unbroken

/-- An import of height three, and an export. -/
def consoleCalls : List Call :=
  [.addImport "console.log" "$log" (.ofDeclarations [.param { ty := .i32 }]),
    .addExport "f" (.func { name := "$f" })]

def consoleText : String :=
  "(module\n  (import \"console\" \"log\" (func \"$log\" (param i32)))\n  (func \"$f\")\n" ++
    "  (export \"f\" (func \"$f\"))\n)"

/-- An import of height three stays on its line. -/
theorem onePerLine_console :
    3 ≤ ({} : Layout).inlineHeight ∧ ({} : Layout).breakTags = ["module"] ∧
      (∃ c ∈ consoleCalls, Registers c) ∧
      ((replay ({}, {}) consoleCalls).1.toText {} {}).1 = .ok consoleText ∧
      OnePerLine consoleCalls (replay ({}, {}) consoleCalls).1 {} {} := by
  have htext : ((replay ({}, {}) consoleCalls).1.toText {} {}).1 = .ok consoleText := by
    have hsplit : Text.splitString '.' "console.log" = ["console", "log"] := by decide
    unfold consoleCalls replay
    simp only [List.foldl_cons, List.foldl_nil, call, Call.perform, addImport_run, hsplit]
    rfl
  exact ⟨by decide, rfl, ⟨_, List.mem_cons_of_mem _ List.mem_cons_self, .inr rfl⟩, htext,
    onePerLine_replay consoleCalls {} {} (by decide) rfl⟩

end Module

end WatText
