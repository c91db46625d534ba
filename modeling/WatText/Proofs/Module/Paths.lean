import WatText.Proofs.Module.History
import WatText.Proofs.Text.Split

/-!
# Import paths

`Module.keepsPath_addImport`: an import under a name is accepted exactly if its path is one of names
with single dots between them (`DottedPath`), and the node it is shown as spells the path. So the
node determines the path.

Whether the path is good is seen from the whole of it by `Text.nil_mem_split_iff`, and that nothing
of it is lost is `Text.intercalate_splitString`.
-/

namespace WatText

/-- A path of names with single dots between them. -/
structure DottedPath (path : String) : Prop where
  ne_empty : path ≠ ""
  not_begins : path.toList.head? ≠ some '.'
  not_ends : path.toList.getLast? ≠ some '.'
  not_adjacent : ¬['.', '.'] <:+: path.toList

/-- Whether some segments are the names on a path, in order. -/
structure SpellsPath (path : String) (segments : List String) : Prop where
  ne_nil : segments ≠ []
  ne_empty : ∀ segment ∈ segments, segment ≠ ""
  not_dotted : ∀ segment ∈ segments, '.' ∉ segment.toList
  length_eq : segments.length = path.toList.count '.' + 1
  joined : ".".intercalate segments = path

theorem empty_not_mem_splitString_iff {path : String} :
    "" ∉ Text.splitString '.' path ↔ DottedPath path := by
  rw [Text.empty_mem_splitString_iff, Text.nil_mem_split_iff, not_or, not_or, not_or,
    String.toList_eq_nil_iff]
  exact ⟨fun ⟨he, hb, hl, ha⟩ => ⟨he, hb, hl, ha⟩, fun ⟨he, hb, hl, ha⟩ => ⟨he, hb, hl, ha⟩⟩

theorem DottedPath.spellsPath {path : String} (h : DottedPath path) :
    SpellsPath path (Text.splitString '.' path) where
  ne_nil := Text.splitString_ne_nil '.' path
  ne_empty := fun segment hs he => empty_not_mem_splitString_iff.2 h (he ▸ hs)
  not_dotted := fun segment hs => Text.not_mem_of_mem_splitString hs
  length_eq := by
    unfold Text.splitString
    rw [List.length_map, Text.length_split]
  joined := Text.intercalate_splitString '.' path

/-- The node of an import: a string for each segment of its path, and the function without a body. -/
def importNode (segments : List String) (name : String) (σ : Signature) : Node :=
  .list "import" (segments.map .string ++ [.list "func" (.string name :: σ.toNodes)])

theorem dropLast_children_importNode (segments : List String) (name : String) (σ : Signature) :
    (importNode segments name σ).children.dropLast = segments.map .string :=
  List.dropLast_concat

namespace Module

/-- Whether a module shows the import of a name as a node. -/
structure ShowsImport (m : Module) (name : String) (n : Node) : Prop where
  /-- The import is rendered to the node, whatever was rendered before. -/
  rendered : ∃ i, m.imports.get? name = some i ∧ ∀ j, (i.toNode j).1 = .ok n
  /-- The node stands in the tree of the module where the name stands in its table. -/
  placed : ∀ j tree, (m.toNode j).1 = .ok tree →
    ∃ k : Nat, m.imports.keys[k]? = some name ∧ tree.children[k]? = some n

/-! ## What an accepted import leaves -/

theorem addImport_eq_ok {m m' : Module} {path name : String} {σ : Signature} {j : Journal}
    (h : (addImport path name σ m j).1 = (.ok (), m')) :
    DottedPath path ∧ m' = { m with
      imports := m.imports.put name ⟨Text.splitString '.' path, { name, signature := σ }⟩ } := by
  rw [addImport_run] at h
  by_cases hp : "" ∈ Text.splitString '.' path
  · rw [if_pos hp] at h
    cases h
  · rw [if_neg hp] at h
    by_cases hn : name = ""
    · rw [if_pos hn] at h
      cases h
    · rw [if_neg hn] at h
      cases h
      exact ⟨empty_not_mem_splitString_iff.1 hp, rfl⟩

theorem get?_addImport {m m' : Module} {path name : String} {σ : Signature} {j : Journal}
    (h : (addImport path name σ m j).1 = (.ok (), m')) :
    m'.imports.get? name = some ⟨Text.splitString '.' path, { name, signature := σ }⟩ := by
  rw [(addImport_eq_ok h).2, Table.get?_put, if_pos rfl]

theorem importNode_eq_nodeOf (segments : List String) (name : String) (σ : Signature) :
    Import.nodeOf ⟨segments, { name, signature := σ }⟩ = importNode segments name σ := by
  rw [Import.nodeOf, Func.nodeOf, List.map_nil, List.append_nil]
  rfl

theorem showsImport_of_get? {cs : List Call} {j : Journal} {name : String} {i : Import}
    (h : (replay ({}, j) cs).1.imports.get? name = some i) :
    (replay ({}, j) cs).1.ShowsImport name i.nodeOf where
  rendered := by
    have hmem := Table.mem_of_find?_eq_some h
    have hbody := body_eq_none_of_mem_imports (List.mem_map_of_mem hmem)
    exact ⟨i, h, fun j' => by rw [importNode_run hbody]⟩
  placed := fun j' tree ht => by
    obtain ⟨bodies, -, rfl⟩ := exists_treeOf (fun i' hi' => body_eq_none_of_mem_imports hi') ht
    obtain ⟨k, hk⟩ := List.mem_iff_getElem?.1 (Table.mem_of_find?_eq_some h)
    refine ⟨k, ?_, getElem?_children_import hk⟩
    unfold Table.keys
    rw [List.getElem?_map, hk]
    rfl

/-! ## Importing from a path -/

/-- What importing from a path under a name does to a module. -/
structure KeepsPath (m : Module) (j : Journal) (path name : String) (σ : Signature) : Prop where
  accepted_iff : (addImport path name σ m j).1.1 = .ok () ↔ DottedPath path
  /-- An accepted import is shown as a node that spells the path and ends with the function. -/
  shown : ∀ m', (addImport path name σ m j).1 = (.ok (), m') →
    ∃ segments, SpellsPath path segments ∧ m'.ShowsImport name (importNode segments name σ)
  /-- No other path is shown as the same segments, under whatever name and in whatever module. -/
  unique : ∀ m' n, (addImport path name σ m j).1 = (.ok (), m') → m'.ShowsImport name n →
    ∀ (m₁ : Module) (j₁ : Journal) path₁ name₁ σ₁ m₁' n₁,
      (addImport path₁ name₁ σ₁ m₁ j₁).1 = (.ok (), m₁') → m₁'.ShowsImport name₁ n₁ →
        n₁.children.dropLast = n.children.dropLast → path₁ = path

/-- The call that imports is the last one of a history. -/
theorem replay_concat_addImport {cs : List Call} {j : Journal} {path name : String}
    {σ : Signature} {m' : Module}
    (h : (addImport path name σ (replay ({}, j) cs).1 (replay ({}, j) cs).2).1 = (.ok (), m')) :
    (replay ({}, j) (cs ++ [.addImport path name σ])).1 = m' := by
  have hlast : replay ({}, j) (cs ++ [.addImport path name σ]) =
      call (replay ({}, j) cs) (.addImport path name σ) := by
    unfold replay
    rw [List.foldl_append]
    rfl
  rw [hlast, call, Call.perform]
  exact congrArg Prod.snd h

/-- The node of an accepted import begins with the segments of its path. -/
theorem ShowsImport.dropLast_children {m m' : Module} {path name : String} {σ : Signature}
    {j : Journal} {n : Node} (h : (addImport path name σ m j).1 = (.ok (), m'))
    (hn : m'.ShowsImport name n) :
    n.children.dropLast = (Text.splitString '.' path).map .string := by
  obtain ⟨i, hi, hrendered⟩ := hn.rendered
  cases hi.symm.trans (get?_addImport h)
  have hnode := hrendered {}
  rw [importNode_run rfl, importNode_eq_nodeOf] at hnode
  cases hnode
  exact dropLast_children_importNode _ name σ

/-- **Import paths survive splitting.** After any calls, importing under a name that is not empty is
accepted exactly if the path is one of names with single dots between them, and it is shown as a
node that spells the path and no other one. -/
theorem keepsPath_addImport (cs : List Call) (j : Journal) (path : String) {name : String}
    (hname : name ≠ "") (σ : Signature) :
    KeepsPath (replay ({}, j) cs).1 (replay ({}, j) cs).2 path name σ := by
  refine ⟨?_, fun m' h => ?_, fun m' n h hn m₁ j₁ path₁ name₁ σ₁ m₁' n₁ h₁ hn₁ heq => ?_⟩
  · rw [import_accepted_iff, ← empty_not_mem_splitString_iff]
    exact ⟨fun ⟨hsegments, _⟩ hmem => hsegments "" hmem rfl,
      fun hmem => ⟨fun segment hs he => hmem (he ▸ hs), hname⟩⟩
  · have hget := get?_addImport h
    have hlast := replay_concat_addImport h
    rw [← hlast] at hget
    have hshows := showsImport_of_get? hget
    rw [hlast, importNode_eq_nodeOf] at hshows
    exact ⟨_, (addImport_eq_ok h).1.spellsPath, hshows⟩
  · rw [hn.dropLast_children h, hn₁.dropLast_children h₁] at heq
    have hinjective : Function.Injective Node.string := fun s t hst => Node.string.inj hst
    have hsegments := hinjective.list_map heq
    rw [← Text.intercalate_splitString '.' path₁, hsegments, Text.intercalate_splitString]

/-- The path of a nested name, after an import that is refused for two adjacent dots. -/
theorem keepsPath_nested :
    "$print" ≠ "" ∧ DottedPath "env.io.print" ∧ ¬DottedPath "env..print" ∧
      KeepsPath (replay ({}, {}) [.addImport "env..print" "$print" {}]).1
        (replay ({}, {}) [.addImport "env..print" "$print" {}]).2 "env.io.print" "$print" {} :=
  have hname : "$print" ≠ "" := by decide
  ⟨hname, empty_not_mem_splitString_iff.1 (by decide),
    fun h => empty_not_mem_splitString_iff.2 h (by decide),
    keepsPath_addImport _ {} "env.io.print" hname {}⟩

end Module

end WatText
