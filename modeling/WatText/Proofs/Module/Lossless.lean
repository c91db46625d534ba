import WatText.Proofs.Func.Restore
import WatText.Proofs.Module.History

/-!
# Module text loses nothing

`Module.renders_same_of_toText_eq`: readable modules that render to one text, under whatever
layouts, render to one tree, and to the same imports, functions and export entries in the same
order.

`read?_toText`: the tree comes back from the text by reading it and joining words in its functions,
since every child of the tree is restored (`Node.Restored`). No two kinds of children have the same
tag, so the tree tells what stands in it (`Node.shown`).
-/

namespace WatText

/-! ## What a tree shows -/

/-- What the tree of a module shows, in its order. -/
structure Shown where
  /-- The path segments, the name and the declarations of every import. -/
  imports : List (List String × String × List Node)
  /-- The name, the declarations and the instructions of every exported function. -/
  funcs : List (String × List Node × List String)
  /-- The export name and the function name of every export. -/
  entries : List (String × String)

namespace Node

def string? : Node → Option String
  | string text => some text
  | symbol _ | list _ _ => none

def symbol? : Node → Option String
  | symbol text => some text
  | string _ | list _ _ => none

def isList : Node → Bool
  | list _ _ => true
  | symbol _ | string _ => false

/-- The name, the declarations and the instructions in the node of a function. -/
def func? : Node → Option (String × List Node × List String)
  | list tag children =>
    if tag = "func" then
      match children with
      | string name :: rest => some (name, rest.filter isList, rest.filterMap symbol?)
      | _ => none
    else none
  | symbol _ | string _ => none

/-- The path segments, the name and the declarations in the node of an import. -/
def import? : Node → Option (List String × String × List Node)
  | list tag children =>
    if tag = "import" then
      (children.findSome? func?).map fun f => (children.filterMap string?, f.1, f.2.1)
    else none
  | symbol _ | string _ => none

/-- The export name and the function name in an export entry. -/
def entry? : Node → Option (String × String)
  | list tag children =>
    if tag = "export" then
      match children with
      | [string name, list _ [string func]] => some (name, func)
      | _ => none
    else none
  | symbol _ | string _ => none

/-- Joins the words of the instructions of the functions among the children. -/
def joinEach : Node → Node
  | list tag children => list tag (children.map joinFunc)
  | node => node

/-- What stands in the tree of a module. -/
def shown : Node → Shown
  | list _ children =>
    { imports := children.filterMap import?
      funcs := children.filterMap func?
      entries := children.filterMap entry? }
  | symbol _ | string _ => ⟨[], [], []⟩

section FilterMap

variable {α β : Type} {g : α → Node} {p : Node → Option β}

theorem filterMap_map_of_some {q : α → β} (h : ∀ a, p (g a) = some (q a)) (as : List α) :
    (as.map g).filterMap p = as.map q := by
  have hp : p ∘ g = some ∘ q := funext h
  rw [List.filterMap_map, hp, List.filterMap_eq_map]

theorem filterMap_map_of_none (h : ∀ a, p (g a) = none) (as : List α) :
    (as.map g).filterMap p = [] := by
  apply List.filterMap_eq_nil_iff.2
  intro n hn
  obtain ⟨a, -, rfl⟩ := List.mem_map.1 hn
  exact h a

end FilterMap

theorem func?_nodeOf (f : Func) (instrs : List Instr) :
    (f.nodeOf instrs).func? = some (f.name, f.signature.toNodes, instrs.map Instr.text) := by
  have hlists : f.signature.toNodes.filter isList = f.signature.toNodes := by
    apply List.filter_eq_self.2
    intro n hn
    obtain ⟨tag, children, rfl⟩ := Signature.exists_of_mem_toNodes hn
    rfl
  have hsymbols : f.signature.toNodes.filterMap symbol? = [] := by
    apply List.filterMap_eq_nil_iff.2
    intro n hn
    obtain ⟨tag, children, rfl⟩ := Signature.exists_of_mem_toNodes hn
    rfl
  have hnone : (instrs.map fun i => symbol i.text).filter isList = [] := by
    apply List.filter_eq_nil_iff.2
    intro n hn
    obtain ⟨i, -, rfl⟩ := List.mem_map.1 hn
    nofun
  have htexts : (instrs.map fun i => symbol i.text).filterMap symbol? = instrs.map Instr.text :=
    filterMap_map_of_some (p := symbol?) (fun i => rfl) instrs
  unfold Func.nodeOf
  rw [func?, if_pos rfl, List.filter_append, List.filterMap_append, hlists, hsymbols, hnone, htexts,
    List.append_nil, List.nil_append]

theorem import?_nodeOf (i : Import) :
    i.nodeOf.import? = some (i.path, i.func.name, i.func.signature.toNodes) := by
  have hfind : (i.path.map string ++ [i.func.nodeOf []]).findSome? func? =
      some (i.func.name, i.func.signature.toNodes, []) := by
    rw [List.findSome?_append, List.findSome?_eq_none_iff.2, Option.none_or,
      List.findSome?_singleton, func?_nodeOf]
    · rfl
    · intro n hn
      obtain ⟨segment, -, rfl⟩ := List.mem_map.1 hn
      rfl
  unfold Import.nodeOf
  rw [import?, if_pos rfl, hfind, List.filterMap_append,
    filterMap_map_of_some (p := string?) (q := id) (fun segment => rfl), List.map_id]
  show some (i.path ++ [], _, _) = _
  rw [List.append_nil]

end Node

/-! ## What a module shows -/

namespace Module

/-- What a module shows, given the instructions of each exported function. -/
def shown (m : Module) (bodies : List (List Instr)) : Shown where
  imports := m.imports.values.map fun i => (i.path, i.func.name, i.func.signature.toNodes)
  funcs := List.zipWith (fun f instrs => (f.name, f.signature.toNodes, instrs.map Instr.text))
    m.exports.values bodies
  entries := m.exports.entries.map fun e => (e.1, e.2.name)

/-- The tree shows what the module does. -/
theorem shown_treeOf (m : Module) (bodies : List (List Instr)) :
    (m.treeOf bodies).shown = m.shown bodies := by
  have hfunc : ∀ p : Func × List Instr, (Function.uncurry Func.nodeOf p).func? =
      some (p.1.name, p.1.signature.toNodes, p.2.map Instr.text) :=
    fun p => Node.func?_nodeOf p.1 p.2
  unfold treeOf shown Node.shown
  rw [← List.map_uncurry_zip_eq_zipWith, ← List.map_uncurry_zip_eq_zipWith]
  simp only [List.filterMap_append]
  congr 1
  · rw [Node.filterMap_map_of_some Node.import?_nodeOf, Node.filterMap_map_of_none fun p => rfl,
      Node.filterMap_map_of_none fun e => rfl, List.append_nil, List.append_nil]
  · rw [Node.filterMap_map_of_none fun i => rfl, Node.filterMap_map_of_some hfunc,
      Node.filterMap_map_of_none fun e => rfl, List.append_nil, List.nil_append]
    rfl
  · rw [Node.filterMap_map_of_none fun i => rfl, Node.filterMap_map_of_none fun p => rfl,
      Node.filterMap_map_of_some (p := Node.entry?) (fun e => rfl), List.nil_append, List.nil_append]

/-! ## Reading the text of a module -/

/-- Whether some imports and exports, accepted or refused, lead to the module from the empty one. -/
def Reachable (m : Module) : Prop :=
  ∃ cs j, (replay ({}, j) cs).1 = m

/-- Whether every name that a declaration shows, and every name and text that a body hands on as it
is, is one word. -/
structure Readable (m : Module) : Prop where
  imports : ∀ i ∈ m.imports.values, i.func.Readable
  exports : ∀ f ∈ m.exports.values, f.Readable

theorem Reachable.body_eq_none {m : Module} (h : m.Reachable) :
    ∀ i ∈ m.imports.values, i.func.body = none := by
  obtain ⟨cs, j, rfl⟩ := h
  exact fun i hi => body_eq_none_of_mem_imports hi

theorem restored_importNode {i : Import} (h : i.func.signature.Readable) : i.nodeOf.Restored := by
  apply Node.Kept.restored _ (by decide)
  apply Node.kept_list (by decide)
  intro n hn
  rcases List.mem_append.1 hn with hn | hn
  · obtain ⟨segment, -, rfl⟩ := List.mem_map.1 hn
    exact Node.kept_string segment
  · rw [List.mem_singleton.1 hn]
    exact Func.kept_nodeOf_nil h

theorem restored_exportEntry (name func : String) : (exportEntry name func).Restored := by
  apply Node.Kept.restored _ (by decide)
  apply Node.kept_list (by decide)
  intro n hn
  rcases List.mem_pair.1 hn with rfl | rfl
  · exact Node.kept_string name
  · apply Node.kept_list (by decide)
    intro n hn
    rw [List.mem_singleton.1 hn]
    exact Node.kept_string func

theorem restored_of_mem_children {m : Module} (hm : m.Readable) {runs : Tally}
    {bodies : List (List Instr)} (hb : Func.playEach m.exports.values runs = .ok bodies) :
    ∀ n ∈ (m.treeOf bodies).children, n.Restored := by
  intro n hn
  rcases mem_children_treeOf hn with ⟨i, hi, rfl⟩ | ⟨f, hf, instrs, hinstrs, rfl⟩ | ⟨e, -, rfl⟩
  · exact restored_importNode (hm.imports i hi).signature
  · exact Func.restored_nodeOf (hm.exports f hf).signature
      (Func.readable_of_playEach hm.exports hb instrs hinstrs)
  · exact restored_exportEntry e.1 e.2.name

/-- **Reading the text of a module.** The tree comes back by joining words. -/
theorem read?_toText {m : Module} (hr : m.Reachable) (hm : m.Readable) {l : Layout} {j : Journal}
    {text : String} (h : (m.toText l j).1 = .ok text) :
    ∃ bodies, Func.playEach m.exports.values j.runs = .ok bodies ∧
      (Node.read? text).map Node.joinEach = some (m.treeOf bodies) := by
  rw [toText_run] at h
  dsimp only at h
  cases ht : (m.toNode j).1 with
  | error e => rw [ht] at h; cases h
  | ok tree =>
    obtain ⟨bodies, hb, rfl⟩ := exists_treeOf hr.body_eq_none ht
    rw [ht] at h
    cases h
    refine ⟨bodies, hb, ?_⟩
    have hrestored := restored_of_mem_children hm hb
    have hread : (m.treeOf bodies).Readable := by
      unfold treeOf
      rw [Node.Readable, Node.readableEach_iff]
      exact ⟨by decide, fun n hn => (hrestored n hn).readable⟩
    unfold treeOf at hread hrestored ⊢
    unfold Node.children at hrestored
    rw [Node.read?_render_list l hread, Option.map_some, Node.joinEach,
      Node.map_joinFunc_spreadEach hrestored]

/-- What a module renders to: its tree, and what the tree shows of the functions and of one run of
each body. -/
structure Renders (m : Module) (j : Journal) (tree : Node) (shown : Shown) : Prop where
  tree : (m.toNode j).1 = .ok tree
  shown : ∃ bodies, Func.playEach m.exports.values j.runs = .ok bodies ∧
    bodies.length = m.exports.size ∧ m.shown bodies = shown

theorem renders_of_toText {m : Module} (hr : m.Reachable) (hm : m.Readable) {l : Layout}
    {j : Journal} {text : String} (h : (m.toText l j).1 = .ok text) :
    ∃ tree, (Node.read? text).map Node.joinEach = some tree ∧ m.Renders j tree tree.shown := by
  obtain ⟨bodies, hb, hread⟩ := read?_toText hr hm h
  have htree : (m.toNode j).1 = .ok (m.treeOf bodies) := by
    rw [toNode_fst hr.body_eq_none, hb]
    rfl
  have hlen : bodies.length = m.exports.size := by
    rw [Func.length_playEach hb]
    exact Table.length_values _
  exact ⟨m.treeOf bodies, hread, htree, bodies, hb, hlen, (m.shown_treeOf bodies).symm⟩

/-- **Module text loses nothing.** Readable modules that render to one text, under whatever layouts
and after whatever runs, render to one tree, and it shows the same imports, functions and export
entries of both. -/
theorem renders_same_of_toText_eq {m₁ m₂ : Module} (hr₁ : m₁.Reachable) (hr₂ : m₂.Reachable)
    (hm₁ : m₁.Readable) (hm₂ : m₂.Readable) {l₁ l₂ : Layout} {j₁ j₂ : Journal} {text : String}
    (h₁ : (m₁.toText l₁ j₁).1 = .ok text) (h₂ : (m₂.toText l₂ j₂).1 = .ok text) :
    ∃ tree shown, m₁.Renders j₁ tree shown ∧ m₂.Renders j₂ tree shown := by
  obtain ⟨tree₁, hread₁, hrenders₁⟩ := renders_of_toText hr₁ hm₁ h₁
  obtain ⟨tree₂, hread₂, hrenders₂⟩ := renders_of_toText hr₂ hm₂ h₂
  have htree : tree₁ = tree₂ := Option.some.inj (hread₁.symm.trans hread₂)
  exact ⟨tree₁, tree₁.shown, hrenders₁, htree ▸ hrenders₂⟩

/-- A function with an operand that reads like an instruction. -/
def nopFunc : Func where
  name := "$f"
  body := some
    { counter := 0
      script := [{ action := .indexed .getLocal (.name "nop") }, { action := .bare .nop }] }

theorem readable_nopFunc : nopFunc.Readable where
  signature := nofun
  body := by
    intro body hb step hs
    cases hb
    rcases List.mem_pair.1 hs with rfl | rfl
    · show IsWord "nop"
      decide
    · trivial

theorem readable_of_values_eq {m : Module} (hi : m.imports.values = [])
    (he : m.exports.values = [nopFunc]) : m.Readable where
  imports := by rw [hi]; exact nofun
  exports := by rw [he]; simpa using readable_nopFunc

/-- A refused export, one that is replaced, and one that stays. -/
def nopCalls : List Call :=
  [.addExport "" (.func nopFunc), .addExport "f" (.func { name := "$g" }),
    .addExport "f" (.func nopFunc)]

def nopText : String :=
  "(module\n  (func \"$f\" get_local nop nop)\n  (export \"f\" (func \"$f\"))\n)"

/-- Two histories that end with the same exports, rendered under two layouts. -/
theorem renders_same_nopFunc :
    (replay ({}, {}) [.addExport "f" (.func nopFunc)]).1.Readable ∧
      (replay ({}, {}) nopCalls).1.Readable ∧
      ((replay ({}, {}) [.addExport "f" (.func nopFunc)]).1.toText {} {}).1 = .ok nopText ∧
      ((replay ({}, {}) nopCalls).1.toText { inlineHeight := 2, breakTags := [] } {}).1 =
        .ok nopText ∧
      ∃ tree shown, (replay ({}, {}) [.addExport "f" (.func nopFunc)]).1.Renders {} tree shown ∧
        (replay ({}, {}) nopCalls).1.Renders {} tree shown := by
  have hm₁ : (replay ({}, {}) [.addExport "f" (.func nopFunc)]).1.Readable :=
    readable_of_values_eq rfl rfl
  have hm₂ : (replay ({}, {}) nopCalls).1.Readable := readable_of_values_eq rfl rfl
  have h₁ : ((replay ({}, {}) [.addExport "f" (.func nopFunc)]).1.toText {} {}).1 =
      .ok nopText := rfl
  have h₂ : ((replay ({}, {}) nopCalls).1.toText { inlineHeight := 2, breakTags := [] } {}).1 =
      .ok nopText := rfl
  exact ⟨hm₁, hm₂, h₁, h₂,
    renders_same_of_toText_eq ⟨_, _, rfl⟩ ⟨_, _, rfl⟩ hm₁ hm₂ h₁ h₂⟩

end Module

end WatText
