import WatText.Proofs.Module.Log
import WatText.Proofs.Workspace.Accounts

/-!
# Copies of functions

`Workspace.copied_history`: through any history, an export entry keeps the function that it was
given, and what it renders to is fixed by this function and the number of the run. The number is
shared: it counts the runs of the body through all functions that have it, whether they are stored
or exported, and whether the runs fail or not. A new body has a number of its own from one on.

`Accounted` is the invariant. It compares a state with the four lists that are made beside a history,
and `accounted_act` takes it over one deed.
-/

namespace WatText

namespace Func

/-- What a function with these parts renders to in the run with a number. -/
def renderedFrom (name : String) (σ : Signature) (caps : WidthCaps) (script : Option (List Step))
    (n : Nat) : Except BuildError Node :=
  let node instrs := Node.list "func" (.string name :: (σ.toNodes ++
    List.map (fun i : Instr => .symbol i.text) instrs))
  match script with
  | none => .ok (node [])
  | some steps =>
    let r : Recorder := { caps, run := n }
    match steps.findSome? r.failure? with
    | some e => .error e
    | none => .ok (node (r.accepted steps))

/-- What a function renders to in the run with a number. The counter of its body is left out. -/
def nodeInRun (f : Func) (n : Nat) : Except BuildError Node :=
  renderedFrom f.name f.signature f.caps (f.body.map Body.script) n

theorem nodeInRun_eq (f : Func) (n : Nat) :
    f.nodeInRun n = (f.result fun _ => n).map f.shownAs := by
  unfold nodeInRun renderedFrom result
  cases f.body with
  | none => rfl
  | some body =>
    dsimp only [Option.map_some]
    cases body.script.findSome? (Recorder.failure? { caps := f.caps, run := n }) <;> rfl

/-- How many of some runs are runs of the body of a function, whichever function was run. -/
def sharedRuns (f : Func) (fs : List Func) : Nat :=
  match f.body with
  | none => 0
  | some body => holders fs body.counter

/-- The number of a run is one more than the runs of the body before it. -/
theorem result_runNumber {runs : Tally} {past : List Func}
    (h : ∀ c, runs.count c = holders past c) (f : Func) (fs : List Func) :
    f.result (runNumber runs fs) = f.result fun _ => f.sharedRuns (past ++ fs) + 1 := by
  unfold result sharedRuns
  cases f.body with
  | none => rfl
  | some body =>
    have hnumber : runNumber runs fs body.counter = holders (past ++ fs) body.counter + 1 := by
      unfold runNumber
      rw [h, holders_append]
      omega
    dsimp only
    rw [hnumber]

theorem reply_runNumber {runs : Tally} {past : List Func}
    (h : ∀ c, runs.count c = holders past c) (f : Func) (i : Inspection) :
    f.reply (runNumber runs []) i = f.reply (fun _ => f.sharedRuns past + 1) i := by
  have hresult := f.result_runNumber h []
  rw [List.append_nil] at hresult
  cases i with
  | name | describe => rfl
  | record | render | text l =>
    unfold reply
    rw [hresult]

theorem shownAs_runAs (f : Func) (number : Nat → Nat) :
    f.shownAs (f.body.map fun _ => (f.runAs number).2) = f.nodeOf (f.runAs number).2 := by
  unfold shownAs nodeOf runAs
  cases f.body <;> rfl

/-! ## The run at a position, by its number -/

theorem nodeInRun_of_runAt_eq_none {runs : Tally} {past fs : List Func}
    (h : ∀ c, runs.count c = holders past c) {k : Nat} {f : Func} (hf : fs[k]? = some f)
    (hok : (runAt fs runs k).1 = none) :
    f.nodeInRun (f.sharedRuns (past ++ fs.take k) + 1) = .ok (f.nodeOf (runAt fs runs k).2) := by
  unfold runAt at hok ⊢
  rw [hf] at hok ⊢
  rw [nodeInRun_eq, ← f.result_runNumber h, result_of_runAs_eq_none hok, ← shownAs_runAs]
  rfl

theorem nodeInRun_of_runAt_eq_some {runs : Tally} {past fs : List Func}
    (h : ∀ c, runs.count c = holders past c) {k : Nat} {f : Func} (hf : fs[k]? = some f)
    {e : BuildError} (he : (runAt fs runs k).1 = some e) :
    f.nodeInRun (f.sharedRuns (past ++ fs.take k) + 1) = .error e := by
  unfold runAt at he
  rw [hf] at he
  rw [nodeInRun_eq, ← f.result_runNumber h, result_of_runAs_eq_some he]
  rfl

end Func

namespace Workspace

/-- The number of the next run of a function, when more runs are made after a history. -/
def nextNumber (ds : List Deed) (more : List Func) (f : Func) : Nat :=
  f.sharedRuns (along ran ({}, {}) ds ++ more) + 1

/-- The exports that were accepted, each with the function as it was then. -/
def exportsAlong (s : Workspace × Journal) (ds : List Deed) : List (String × Func) :=
  (along calls s ds).filterMap Call.export?

/-- What a new body makes of a stored function, in a state after it. The new counter is the number
of the bodies that were set up before. -/
structure Replaced (before : List Deed) (key : String) (script : List Step) (after : List Deed)
    (f : Func) (counter : Nat) (s : Workspace × Journal) : Prop where
  /-- No function of before has the new counter, so the runs of the new body are not theirs. -/
  counter_ne : ∀ g, (history ({}, {}) before).1.Holds g ∨ g ∈ along ran ({}, {}) before →
    ∀ body, g.body = some body → body.counter ≠ counter
  /-- The new counter starts from nothing. -/
  count : s.2.runs.count counter = Func.holders (along ran
    (history ({}, {}) (before ++ [.command (.extend key (.body script))])) after) counter
  /-- What runs the new body only advances no other counter, so not that of the old body. -/
  others : ∀ d, (∀ g ∈ ran s d, ∀ body, g.body = some body → body.counter = counter) →
    ∀ c, c ≠ counter → (act s d).2.runs.count c = s.2.runs.count c
  /-- As long as nothing else is stored under the key, the function has the new body, and asking it
  runs nothing else. -/
  function : key ∉ (along stored
      (history ({}, {}) (before ++ [.command (.extend key (.body script))])) after).map Prod.fst →
    s.1.funcs.get? key = some (f.withBody { counter, script }) ∧
    ∀ i, ∀ g ∈ ran s (.command (.inspect key i)), g = f.withBody { counter, script }

/-- What a history makes of functions and their copies. -/
structure Copied (ds : List Deed) (w : Workspace) (j : Journal) : Prop where
  /-- Without copies, the history is what the commands come to. -/
  commands : ∀ cs, ds = cs.map .command → (({} : Workspace).run {} cs).2 = j
  /-- A key holds what was last stored under it, whatever was done to other keys. -/
  stored : w.funcs.entries = Table.latest (along stored ({}, {}) ds)
  /-- An entry holds the function as it was when it was last exported under the name. -/
  exported : w.module.exports.entries = Table.latest (exportsAlong ({}, {}) ds)
  /-- An exported copy is a snapshot of the stored function. -/
  snapshot : ∀ before name key after f,
    ds = before ++ .command (.addExport name (.stored key)) :: after → name ≠ "" →
    (history ({}, {}) before).1.funcs.get? key = some f →
    name ∉ (exportsAlong (history ({}, {}) (before ++ [.command (.addExport name (.stored key))]))
      after).map Prod.fst →
    w.module.exports.get? name = some f
  /-- A rendering shows every entry as the parts of its function and the number of its run have
  it. -/
  rendered : ∀ tree, (w.module.toNode j).1 = .ok tree → ∀ (k : Nat) name f,
    w.module.exports.entries[k]? = some (name, f) → ∃ node,
      f.nodeInRun (nextNumber ds (w.module.exports.values.take k) f) = .ok node ∧
      tree.children[w.module.imports.size + k]? = some node ∧
      tree.children[w.module.imports.size + w.module.exports.size + k]? =
        some (exportEntry name f.name)
  /-- A rendering fails as the first entry does that fails in the run with its number. -/
  failed : ∀ e, (w.module.toNode j).1 = .error e → ∃ (k : Nat) (f : Func),
    w.module.exports.values[k]? = some f ∧
    f.nodeInRun (nextNumber ds (w.module.exports.values.take k) f) = .error e ∧
    ∀ i < k, ∀ g, w.module.exports.values[i]? = some g → ∃ node,
      g.nodeInRun (nextNumber ds (w.module.exports.values.take i) g) = .ok node
  asked : ∀ key f i, w.funcs.get? key = some f →
    (f.inspect i j).1 = f.reply (fun _ => nextNumber ds [] f) i
  /-- A counter tells the bodies apart: it is the position at which its body was set up. -/
  counters : ∀ f, w.Holds f ∨ f ∈ along ran ({}, {}) ds →
    f.SetUpIn (along setUp ({}, {}) ds)
  /-- A counter shows the runs of its body so far, through whichever function they were made. -/
  counts : ∀ c, j.runs.count c = Func.holders (along ran ({}, {}) ds) c
  replaced : ∀ before key script after f,
    ds = before ++ .command (.extend key (.body script)) :: after →
    (history ({}, {}) before).1.funcs.get? key = some f →
    Replaced before key script after f (along setUp ({}, {}) before).length (w, j)

/-- An entry that is not exported again keeps its function. -/
theorem get?_exports_history {ds before after : List Deed} {name key : String} {f : Func}
    (hds : ds = before ++ .command (.addExport name (.stored key)) :: after) (hname : name ≠ "")
    (hf : (history ({}, {}) before).1.funcs.get? key = some f)
    (hlast : name ∉ (exportsAlong
      (history ({}, {}) (before ++ [.command (.addExport name (.stored key))])) after).map
        Prod.fst) :
    (history ({}, {}) ds).1.module.exports.get? name = some f := by
  have hcalls : calls (history ({}, {}) before) (.command (.addExport name (.stored key))) =
      [.addExport name (.func f)] := by
    simp only [calls, offered, hf]
    rfl
  have hcall : (Call.addExport name (.func f)).export? = some (name, f) := if_pos hname
  have hexport : [Call.addExport name (.func f)].filterMap Call.export? = [(name, f)] :=
    List.filterMap_cons_some hcall
  rw [(accounted_history ds).exports, Table.get?_putAll, Table.find?_reverse_eq_some_iff, hds,
    along_split, hcalls, List.filterMap_append, List.filterMap_append, hexport]
  exact ⟨_, _, rfl, hlast⟩

/-- A stored function that is not stored again keeps its new body. -/
theorem get?_funcs_history {ds before after : List Deed} {key : String} {script : List Step}
    {f : Func} (hds : ds = before ++ .command (.extend key (.body script)) :: after)
    (hf : (history ({}, {}) before).1.funcs.get? key = some f)
    (hlast : key ∉ (along stored
      (history ({}, {}) (before ++ [.command (.extend key (.body script))])) after).map Prod.fst) :
    (history ({}, {}) ds).1.funcs.get? key =
      some (f.withBody { counter := (along setUp ({}, {}) before).length, script }) := by
  have hstored : stored (history ({}, {}) before) (.command (.extend key (.body script))) =
      [(key, f.withBody { counter := (along setUp ({}, {}) before).length, script })] := by
    simp only [stored, hf, (accounted_history before).fresh]
    rfl
  rw [(accounted_history ds).funcs, Table.get?_putAll, Table.find?_reverse_eq_some_iff, hds,
    along_split, hstored]
  exact ⟨_, _, rfl, hlast⟩

theorem replaced_history {ds before after : List Deed} {key : String} {script : List Step}
    {f : Func} (hds : ds = before ++ .command (.extend key (.body script)) :: after)
    (hf : (history ({}, {}) before).1.funcs.get? key = some f) :
    Replaced before key script after f (along setUp ({}, {}) before).length
      (history ({}, {}) ds) := by
  have hbefore := accounted_history before
  have h := accounted_history ds
  refine ⟨fun g hg body hbody => Nat.ne_of_lt ((hbefore.setUpIn hg).counter_lt hbody), ?_,
    fun d hran c hc => h.count_act_of_ran hran hc, fun hlast => ?_⟩
  · -- none of the runs before is a run of the new body
    have hnone := Func.holders_eq_zero_of_setUpIn hbefore.past (Nat.le_refl _)
    rw [h.counts, hds, along_split, Func.holders_append, hnone, Nat.zero_add]
    rfl
  · have hget := get?_funcs_history hds hf hlast
    exact ⟨hget, fun i g hg => eq_of_mem_ran_inspect hget hg⟩

/-- **Copies are snapshots, counters are shared.** -/
theorem copied_history (ds : List Deed) :
    Copied ds (history ({}, {}) ds).1 (history ({}, {}) ds).2 := by
  have h := accounted_history ds
  refine ⟨?_, ?_, ?_, ?_, fun tree htree k name f he => ?_, fun e he => ?_, fun key f i hf => ?_,
    fun f hf => h.setUpIn hf, h.counts, ?_⟩
  · rintro cs rfl
    exact run_snd {} {} cs
  · rw [h.funcs, Table.entries_putAll]
  · rw [h.exports, Table.entries_putAll]
    rfl
  · exact fun before name key after f hds hname hf hlast =>
      get?_exports_history hds hname hf hlast
  · obtain ⟨hnone, rfl⟩ := Module.eq_treeOf_bodiesAt h.imports htree
    have hf : (history ({}, {}) ds).1.module.exports.values[k]? = some f := by
      unfold Table.values
      rw [List.getElem?_map, he]
      rfl
    exact ⟨_, Func.nodeInRun_of_runAt_eq_none h.counts hf (hnone k),
      Module.getElem?_children_func hf (Module.getElem?_bodiesAt hf),
      Module.getElem?_children_entry (Module.length_bodiesAt _ _) he⟩
  · rcases Module.toNode_cases h.imports (history ({}, {}) ds).2 with
      ⟨-, hok⟩ | ⟨k, e', f, hfirst, hf, herror⟩
    · rw [hok] at he
      cases he
    · rw [herror] at he
      cases he
      exact ⟨k, f, hf, Func.nodeInRun_of_runAt_eq_some h.counts hf hfirst.1, fun i hi g hg =>
        ⟨_, Func.nodeInRun_of_runAt_eq_none h.counts hg (hfirst.2 i hi)⟩⟩
  · rw [Func.inspect_run, Func.reply_runNumber h.counts]
    unfold nextNumber
    rw [List.append_nil]
  · exact fun before key script after f hds hf => replaced_history hds hf

end Workspace

end WatText
