import WatText.Proofs.Func.Counting
import WatText.Proofs.Module.History
import WatText.Proofs.Workspace.Questions

/-!
# What rendering a module runs and leaves behind

`Module.rendering_replay`: rendering a module runs the exported bodies, once for each entry that has
one, in the order of the table, up to the first run that fails; the counters grow by exactly these
runs, and nothing else about the module changes.

`toNode_run_complete` and `toNode_run_failed` give the whole journal that a rendering leaves, from
the laws for functions that are rendered one after another (`Func.mapM_toNode_run`).
-/

namespace WatText.Module

/-- The events of the imports of a module. -/
def importEvents (m : Module) : List Event :=
  m.imports.values.map fun i => i.func.declared

theorem toNode_run {m : Module} (himports : ∀ i ∈ m.imports.values, i.func.body = none)
    (j : Journal) :
    m.toNode j = match m.exports.values.mapM Func.toNode (j.note m.importEvents) with
      | (.ok funcs, j') =>
        (.ok (.list "module" (m.imports.values.map Import.nodeOf ++ funcs ++
            m.exports.entries.map fun e => exportEntry e.1 e.2.name)),
          j'.note [.moduleRendered m.imports.size m.exports.size])
      | (.error e, j') => (.error e, j') := by
  unfold toNode
  rw [bind_run, mapM_importNode_run himports]
  dsimp only
  rw [bind_run]
  unfold importEvents
  rcases m.exports.values.mapM Func.toNode (j.note _) with ⟨_ | funcs, j'⟩ <;> rfl

/-- A rendering in which no run fails. -/
theorem toNode_run_complete {m : Module} (himports : ∀ i ∈ m.imports.values, i.func.body = none)
    {j : Journal} (h : ∀ k, (Func.runAt m.exports.values j.runs k).1 = none) :
    m.toNode j =
      (.ok (m.treeOf ((List.range m.exports.size).map fun k =>
          (Func.runAt m.exports.values j.runs k).2)),
        (Func.journalAfter m.exports.values (j.note m.importEvents)).note
          [.moduleRendered m.imports.size m.exports.size]) := by
  rw [toNode_run himports,
    Func.mapM_toNode_run m.exports.values (j := j.note m.importEvents) fun k _ => h k,
    Table.length_values]
  rfl

/-- A rendering in which some run fails. -/
theorem toNode_run_failed {m : Module} (himports : ∀ i ∈ m.imports.values, i.func.body = none)
    {j : Journal} {k : Nat} {e : BuildError} (h : Func.FirstFailure m.exports.values j.runs k e)
    {f : Func} (hf : m.exports.values[k]? = some f) :
    m.toNode j =
      (.error e, f.afterRun (Func.journalAfter (m.exports.values.take k)
        (j.note m.importEvents))) := by
  rw [toNode_run himports, Func.mapM_toNode_run_of_failure (j := j.note m.importEvents) h hf]

/-- What is rendered depends on the runs so far only through their counts. -/
theorem toNode_fst_congr {m : Module} (himports : ∀ i ∈ m.imports.values, i.func.body = none)
    {j j' : Journal} (h : ∀ c, j.runs.count c = j'.runs.count c) :
    (m.toNode j).1 = (m.toNode j').1 := by
  rw [toNode_fst himports, toNode_fst himports, Func.playEach_congr h]

/-- What rendering a module does after some calls have built it. -/
structure Rendering (cs : List Call) (m : Module) (j : Journal) : Prop where
  /-- The exported functions are run in the order of the first registrations. -/
  order : m.exports.entries = Table.latest (cs.filterMap Call.export?)
  imports : ∀ i ∈ m.imports.values, ∀ j',
    (∃ node, (i.toNode j').1 = .ok node) ∧ (i.toNode j').2.runs = j'.runs
  /-- No run fails: all are made, and the tree is complete. -/
  complete : (¬∃ k e, Func.FirstFailure m.exports.values j.runs k e) →
    (m.toNode j).1 = .ok (m.treeOf ((List.range m.exports.size).map fun k =>
      (Func.runAt m.exports.values j.runs k).2)) ∧
    (∀ c, (m.toNode j).2.runs.count c =
      j.runs.count c + Func.holders m.exports.values c) ∧
    (m.toNode j).2.events = j.events ++ m.importEvents ++
      (List.range m.exports.size).flatMap (Func.eventsAt m.exports.values j.runs) ++
      [.moduleRendered m.imports.size m.exports.size]
  /-- A run fails: those up to the first one that does are made, and its failure is the answer. -/
  failed : ∀ k e, Func.FirstFailure m.exports.values j.runs k e →
    (m.toNode j).1 = .error e ∧
    (∀ c, (m.toNode j).2.runs.count c =
      j.runs.count c + Func.holders (m.exports.values.take (k + 1)) c) ∧
    (m.toNode j).2.events = j.events ++ m.importEvents ++
      (List.range k).flatMap (Func.eventsAt m.exports.values j.runs) ++
      (Func.runAt m.exports.values j.runs k).2.map .recorded
  text : ∀ l, m.toText l j = ((m.toNode j).1.map (Node.render l), (m.toNode j).2)
  /-- The tables stay as they are: what is asked next finds the workspace as it was. -/
  kept : ∀ (w : Workspace) l rest, w.module = m →
    w.run j (.render :: rest) = ((m.toNode j).1.map .node :: (w.run (m.toNode j).2 rest).1,
      (w.run (m.toNode j).2 rest).2) ∧
    w.run j (.text l :: rest) =
      ((m.toNode j).1.map (fun n => .text (n.render l)) :: (w.run (m.toNode j).2 rest).1,
        (w.run (m.toNode j).2 rest).2)
  /-- Another rendering differs only through the counters. -/
  again : ∀ j', (∀ c, j'.runs.count c = j.runs.count c) → (m.toNode j').1 = (m.toNode j).1

/-- **What rendering a module runs.** -/
theorem rendering_replay (cs : List Call) (j₀ j : Journal) :
    Rendering cs (replay ({}, j₀) cs).1 j := by
  have himports : ∀ i ∈ (replay ({}, j₀) cs).1.imports.values, i.func.body = none :=
    fun i hi => body_eq_none_of_mem_imports hi
  have horder := exports_entries_replay cs j₀
  generalize (replay ({}, j₀) cs).1 = m at himports horder ⊢
  refine ⟨horder, fun i hi j' => ?_, fun h => ?_, fun k e h => ?_, fun l => toText_run m l j, ?_,
    fun j' h => toNode_fst_congr himports h⟩
  · rw [importNode_run (himports i hi)]
    exact ⟨⟨_, rfl⟩, rfl⟩
  · rw [toNode_run_complete himports (Func.runAt_fst_eq_none h)]
    refine ⟨rfl, fun c => Func.count_countRuns _ _ c, ?_⟩
    rw [← Table.length_values]
    rfl
  · obtain ⟨f, hf⟩ := h.exists_getElem?
    have hlt := (List.getElem?_eq_some_iff.1 hf).1
    have htake : m.exports.values.take (k + 1) = m.exports.values.take k ++ [f] := by
      rw [List.take_add_one, hf]
      rfl
    rw [toNode_run_failed himports h hf]
    refine ⟨rfl, fun c => ?_, ?_⟩
    · show (f.countRun (Func.countRuns (m.exports.values.take k) j.runs)).count c = _
      rw [Func.count_countRun, Func.count_countRuns, htake, Func.holders_append, Nat.add_assoc]
    · unfold Func.afterRun
      dsimp only
      rw [Func.nextRun_journalAfter_take hf, Func.events_journalAfter_take _ (Nat.le_of_lt hlt)]
      rfl
  · rintro w l rest rfl
    exact ⟨w.run_render j rest, w.run_text l j rest⟩

end WatText.Module
