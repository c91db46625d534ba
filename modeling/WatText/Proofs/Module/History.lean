import WatText.Proofs.Module.Tree
import WatText.Proofs.Table

/-!
# What a history of calls makes of a module

`Module.assembled_replay`: after any imports and exports, accepted or refused, from the empty module,
the module renders as the reference tree of the accepted calls (`Module.referenceTree`): every name
at the place of its first accepted call, with what its last accepted call gave it.

`Call.perform_cases` says what one call does. A call works on the module and keeps it also when it
is refused, but every check comes before the first change, so a refused call changes neither the
module nor the journal (`Call.perform_of_error`); an accepted one is one put into one of the tables.
Along a history each table therefore takes the puts of the accepted calls (`Module.replay_fst`), and
`Table.entries_putAll` says what they come to.
-/

namespace WatText

/-- A call that may change a module. -/
inductive Call where
  | addImport (path name : String) (σ : Signature)
  | addExport (name : String) (item : Item)

namespace Call

def perform : Call → BuildOn Module Unit
  | addImport path name σ => Module.addImport path name σ
  | addExport name item => Module.addExport name item

/-- The import that a call registers, if it is an import that is accepted. -/
def import? : Call → Option (String × Import)
  | addImport path name σ =>
    if (∀ segment ∈ Text.splitString '.' path, segment ≠ "") ∧ name ≠ "" then
      some (name, { path := Text.splitString '.' path, func := { name, signature := σ } })
    else none
  | addExport _ _ => none

/-- The export that a call registers, if it is an export that is accepted. -/
def export? : Call → Option (String × Func)
  | addExport name (.func f) => if name ≠ "" then some (name, f) else none
  | addExport _ _ | addImport _ _ _ => none

end Call

namespace Module

def register (m : Module) (c : Call) : Module where
  imports := m.imports.putAll c.import?.toList
  exports := m.exports.putAll c.export?.toList

/-- The module and the journal after a call, whether it is accepted or refused. -/
def call (s : Module × Journal) (c : Call) : Module × Journal :=
  let ((_, m), j) := c.perform s.1 s.2
  (m, j)

def replay (s : Module × Journal) (cs : List Call) : Module × Journal :=
  cs.foldl call s

/-! ## One call -/

theorem addImport_run (path name : String) (σ : Signature) (m : Module) (j : Journal) :
    addImport path name σ m j =
      if "" ∈ Text.splitString '.' path then
        ((.error (.invalidArgument (.emptySegment path)), m), j)
      else if name = "" then ((.error (.invalidArgument .emptyFunctionName), m), j)
      else
        ((.ok (), { m with
            imports := m.imports.put name ⟨Text.splitString '.' path, { name, signature := σ }⟩ }),
          j.note [.imported path name]) := by
  unfold addImport
  dsimp only
  by_cases hp : "" ∈ Text.splitString '.' path
  · rw [if_pos hp, if_pos hp]
    rfl
  · rw [if_neg hp, if_neg hp, Func.create]
    by_cases hn : name = ""
    · rw [if_pos hn, if_pos hn]
      rfl
    · rw [if_neg hn, if_neg hn]
      rfl

theorem addExport_run_of_func?_eq_none (name : String) (item : Item)
    (h : item.func? = none) (m : Module) (j : Journal) :
    addExport name item m j = ((.error (.notAFunction item.kind), m), j) := by
  unfold addExport
  rw [h]
  rfl

theorem addExport_run (name : String) (f : Func) (m : Module) (j : Journal) :
    addExport name (.func f) m j =
      if name = "" then ((.error (.invalidArgument .emptyExportName), m), j)
      else ((.ok (), { m with exports := m.exports.put name f }),
        j.note [.exported name f.name]) := by
  show (if name = "" then _ else _ : BuildOn Module Unit) m j = _
  by_cases hn : name = ""
  · rw [if_pos hn, if_pos hn]
    rfl
  · rw [if_neg hn, if_neg hn]
    rfl

end Module

/-- **One call.** A refused call leaves the module and the journal as they were and has nothing to
register; an accepted one registers. -/
theorem Call.perform_cases (c : Call) (m : Module) (j : Journal) :
    (∃ e, c.perform m j = ((.error e, m), j) ∧ m.register c = m) ∨
      ∃ event, c.perform m j = ((.ok (), m.register c), j.note [event]) := by
  -- a refused call is seen from its arguments alone, before the module is looked at
  have hnone : c.import? = none → c.export? = none → m.register c = m := by
    intro hi he
    unfold Module.register
    rw [hi, he]
    rfl
  cases c with
  | addImport path name σ =>
    have hrun := Module.addImport_run path name σ m j
    by_cases hp : "" ∈ Text.splitString '.' path
    · rw [if_pos hp] at hrun
      exact .inl ⟨_, hrun, hnone (if_neg fun h => h.1 "" hp rfl) rfl⟩
    · rw [if_neg hp] at hrun
      by_cases hn : name = ""
      · rw [if_pos hn] at hrun
        exact .inl ⟨_, hrun, hnone (if_neg fun h => h.2 hn) rfl⟩
      · have hsome : (addImport path name σ).import? = some (name,
            { path := Text.splitString '.' path, func := { name, signature := σ } }) :=
          if_pos ⟨fun s hs he => hp (he ▸ hs), hn⟩
        rw [if_neg hn] at hrun
        refine .inr ⟨.imported path name, hrun.trans ?_⟩
        unfold Module.register
        rw [hsome]
        rfl
  | addExport name item =>
    cases item with
    | signature σ =>
      exact .inl ⟨_, Module.addExport_run_of_func?_eq_none name (.signature σ) rfl m j, hnone rfl rfl⟩
    | operand o =>
      exact .inl ⟨_, Module.addExport_run_of_func?_eq_none name (.operand o) rfl m j, hnone rfl rfl⟩
    | func f =>
      have hrun := Module.addExport_run name f m j
      by_cases hn : name = ""
      · rw [if_pos hn] at hrun
        exact .inl ⟨_, hrun, hnone rfl (if_neg fun h => h hn)⟩
      · have hsome : (addExport name (.func f)).export? = some (name, f) := if_pos hn
        rw [if_neg hn] at hrun
        refine .inr ⟨.exported name f.name, hrun.trans ?_⟩
        unfold Module.register
        rw [hsome]
        rfl

/-- **A refused call changes nothing.** -/
theorem Call.perform_of_error {c : Call} {m : Module} {j : Journal} {e : BuildError}
    (h : (c.perform m j).1.1 = .error e) : c.perform m j = ((.error e, m), j) := by
  rcases c.perform_cases m j with ⟨e', hrun, -⟩ | ⟨event, hrun⟩
  · rw [hrun] at h ⊢
    cases h
    rfl
  · rw [hrun] at h
    cases h

namespace Module

theorem call_fst (s : Module × Journal) (c : Call) : (call s c).1 = s.1.register c := by
  unfold call
  rcases c.perform_cases s.1 s.2 with ⟨e, hrun, hreg⟩ | ⟨event, hrun⟩
  · rw [hrun, hreg]
  · rw [hrun]

theorem call_of_error {s : Module × Journal} {c : Call} {e : BuildError}
    (h : (c.perform s.1 s.2).1.1 = .error e) : call s c = s := by
  unfold call
  rw [Call.perform_of_error h]

/-! ## A history -/

/-- The tables take the puts of the accepted calls in order. -/
theorem replay_fst (s : Module × Journal) (cs : List Call) :
    (replay s cs).1 =
      { imports := s.1.imports.putAll (cs.filterMap Call.import?)
        exports := s.1.exports.putAll (cs.filterMap Call.export?) } := by
  induction cs generalizing s with
  | nil => rfl
  | cons c cs ih =>
    show (replay (call s c) cs).1 = _
    rw [ih, call_fst]
    unfold register
    cases hi : c.import? <;> cases he : c.export? <;>
      simp only [List.filterMap_cons, hi, he] <;> rfl

theorem replay_fst_eq_foldl (s : Module × Journal) (cs : List Call) :
    (replay s cs).1 = cs.foldl register s.1 := by
  induction cs generalizing s with
  | nil => rfl
  | cons c cs ih =>
    show (replay (call s c) cs).1 = _
    rw [ih, call_fst]
    rfl

/-- The tree that some calls lead to, when the exported bodies are run on some counts: the imports,
the functions and the export entries, each name at the place of its first accepted call, with what
its last accepted call gave it. -/
def referenceTree (cs : List Call) (runs : Tally) : Except BuildError Node :=
  let imports := Table.latest (cs.filterMap Call.import?)
  let exports := Table.latest (cs.filterMap Call.export?)
  (Func.playEach (exports.map Prod.snd) runs).map fun bodies =>
    .list "module"
      (imports.map (fun e => .list "import" (e.2.path.map .string ++
        [.list "func" (.string e.1 :: e.2.func.signature.toNodes)])) ++
      List.zipWith Func.nodeOf (exports.map Prod.snd) bodies ++
      exports.map fun e => .list "export" [.string e.1, .list "func" [.string e.2.name]])

theorem import?_eq_some {c : Call} {e : String × Import} (h : c.import? = some e) :
    e.2.func = { name := e.1, signature := e.2.func.signature } := by
  cases c with
  | addExport name item => cases h
  | addImport path name σ =>
    unfold Call.import? at h
    dsimp only at h
    split at h
    · cases h
      rfl
    · cases h

theorem export?_eq_some {c : Call} {e : String × Func} (h : c.export? = some e) :
    c = .addExport e.1 (.func e.2) := by
  cases c with
  | addImport path name σ => cases h
  | addExport name item =>
    cases item with
    | func f =>
      unfold Call.export? at h
      dsimp only at h
      split at h
      · cases h
        rfl
      · cases h
    | signature σ => cases h
    | operand o => cases h

theorem imports_entries_replay (cs : List Call) (j : Journal) :
    (replay ({}, j) cs).1.imports.entries = Table.latest (cs.filterMap Call.import?) := by
  rw [replay_fst]
  exact Table.entries_putAll _

theorem exports_entries_replay (cs : List Call) (j : Journal) :
    (replay ({}, j) cs).1.exports.entries = Table.latest (cs.filterMap Call.export?) := by
  rw [replay_fst]
  exact Table.entries_putAll _

/-- An import is bound to a function without a body, under the name of the import. -/
theorem func_of_mem_imports {cs : List Call} {j : Journal} {e : String × Import}
    (h : e ∈ (replay ({}, j) cs).1.imports.entries) :
    e.2.func = { name := e.1, signature := e.2.func.signature } := by
  rw [imports_entries_replay] at h
  obtain ⟨c, -, hc⟩ := List.mem_filterMap.1 (Table.mem_of_mem_latest h)
  exact import?_eq_some hc

theorem body_eq_none_of_mem_imports {cs : List Call} {j : Journal} {i : Import}
    (h : i ∈ (replay ({}, j) cs).1.imports.values) : i.func.body = none := by
  obtain ⟨e, he, rfl⟩ := List.mem_map.1 h
  rw [func_of_mem_imports he]

/-- The tree of a history is its reference tree. -/
theorem toNode_replay_fst (cs : List Call) (j j' : Journal) :
    ((replay ({}, j) cs).1.toNode j').1 = referenceTree cs j'.runs := by
  rw [toNode_fst (fun i hi => body_eq_none_of_mem_imports hi)]
  unfold referenceTree
  dsimp only
  rw [← imports_entries_replay cs j, ← exports_entries_replay cs j]
  apply congrArg (Except.map · _)
  funext bodies
  unfold treeOf Table.values
  rw [List.map_map]
  have himports : ∀ e ∈ (replay ({}, j) cs).1.imports.entries, (Import.nodeOf ∘ Prod.snd) e =
      .list "import" (e.2.path.map .string ++
        [.list "func" (.string e.1 :: e.2.func.signature.toNodes)]) := by
    intro e he
    show Node.list "import" (e.2.path.map .string ++ [e.2.func.nodeOf []]) = _
    rw [func_of_mem_imports he, Func.nodeOf, List.map_nil, List.append_nil]
  rw [List.map_congr_left himports]
  rfl

/-- What a module is after some calls, and what the next call does to it. -/
structure Assembled (cs : List Call) (m : Module) (j : Journal) : Prop where
  /-- An import is accepted exactly if its path has no empty segment and its name is not empty. -/
  import_accepted : ∀ path name σ, (addImport path name σ m j).1.1 = .ok () ↔
    (∀ segment ∈ Text.splitString '.' path, segment ≠ "") ∧ name ≠ ""
  /-- A bad path is reported, whatever the name. -/
  bad_path : ∀ path name σ, "" ∈ Text.splitString '.' path →
    (addImport path name σ m j).1.1 = .error (.invalidArgument (.emptySegment path))
  /-- An empty name is reported after a good path. -/
  bad_import_name : ∀ path σ, "" ∉ Text.splitString '.' path →
    (addImport path "" σ m j).1.1 = .error (.invalidArgument .emptyFunctionName)
  /-- An export is accepted exactly if it is a function and its name is not empty. -/
  export_accepted : ∀ name item, (addExport name item m j).1.1 = .ok () ↔
    (∃ f, item = .func f) ∧ name ≠ ""
  /-- What is no function is reported, whatever the name. -/
  bad_item : ∀ name item, (∀ f, item ≠ .func f) →
    (addExport name item m j).1.1 = .error (.notAFunction item.kind)
  /-- An empty name is reported for a function. -/
  bad_export_name : ∀ f,
    (addExport "" (.func f) m j).1.1 = .error (.invalidArgument .emptyExportName)
  /-- A refused call leaves the module and the journal as they were. -/
  refused : ∀ (c : Call) e, (c.perform m j).1.1 = .error e → c.perform m j = ((.error e, m), j)
  /-- So after a refused call everything goes on as if it had not been made. -/
  goes_on : ∀ (c : Call) e, (c.perform m j).1.1 = .error e →
    ∀ rest, replay (m, j) (c :: rest) = replay (m, j) rest
  /-- Whatever runs there were, rendering gives the reference tree, or the failure of the first
  body that fails. -/
  tree : ∀ j' : Journal, (m.toNode j').1 = referenceTree cs j'.runs

theorem import_accepted_iff (path name : String) (σ : Signature) (m : Module) (j : Journal) :
    (addImport path name σ m j).1.1 = .ok () ↔
      (∀ segment ∈ Text.splitString '.' path, segment ≠ "") ∧ name ≠ "" := by
  rw [addImport_run]
  by_cases hp : "" ∈ Text.splitString '.' path
  · rw [if_pos hp]
    constructor
    · intro h
      cases h
    · rintro ⟨h, -⟩
      exact absurd rfl (h "" hp)
  · rw [if_neg hp]
    by_cases hn : name = ""
    · rw [if_pos hn]
      constructor
      · intro h
        cases h
      · rintro ⟨-, h⟩
        exact absurd hn h
    · rw [if_neg hn]
      exact ⟨fun _ => ⟨fun s hs he => hp (he ▸ hs), hn⟩, fun _ => rfl⟩

theorem export_accepted_iff (name : String) (item : Item) (m : Module) (j : Journal) :
    (addExport name item m j).1.1 = .ok () ↔ (∃ f, item = .func f) ∧ name ≠ "" := by
  cases item with
  | func f =>
    rw [addExport_run]
    by_cases hn : name = ""
    · rw [if_pos hn]
      constructor
      · intro h
        cases h
      · rintro ⟨-, h⟩
        exact absurd hn h
    · rw [if_neg hn]
      exact ⟨fun _ => ⟨⟨f, rfl⟩, hn⟩, fun _ => rfl⟩
  | signature σ =>
    rw [addExport_run_of_func?_eq_none name (.signature σ) rfl]
    constructor
    · intro h
      cases h
    · rintro ⟨⟨f, h⟩, -⟩
      cases h
  | operand o =>
    rw [addExport_run_of_func?_eq_none name (.operand o) rfl]
    constructor
    · intro h
      cases h
    · rintro ⟨⟨f, h⟩, -⟩
      cases h

theorem func?_eq_none {item : Item} (h : ∀ f, item ≠ .func f) : item.func? = none := by
  cases item with
  | func f => exact absurd rfl (h f)
  | signature σ => rfl
  | operand o => rfl

/-- **Module assembly.** After any calls from the empty module, the next call is accepted or refused
for the stated reasons, a refused one leaves no trace, and the module renders as the reference tree
of the calls. -/
theorem assembled_replay (cs : List Call) (j : Journal) :
    Assembled cs (replay ({}, j) cs).1 (replay ({}, j) cs).2 where
  import_accepted := fun path name σ => import_accepted_iff path name σ _ _
  bad_path := fun path name σ h => by rw [addImport_run, if_pos h]
  bad_import_name := fun path σ h => by rw [addImport_run, if_neg h, if_pos rfl]
  export_accepted := fun name item => export_accepted_iff name item _ _
  bad_item := fun name item h => by
    rw [addExport_run_of_func?_eq_none name item (func?_eq_none h)]
  bad_export_name := fun f => by rw [addExport_run, if_pos rfl]
  refused := fun _ _ h => Call.perform_of_error h
  goes_on := fun c e h rest => by
    show replay (call _ c) rest = _
    rw [call_of_error h]
  tree := fun j' => toNode_replay_fst cs j j'

end Module

end WatText
