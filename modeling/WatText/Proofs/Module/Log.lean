import WatText.Proofs.Func.Answers
import WatText.Proofs.Module.Lossless
import WatText.Proofs.Module.Rendering
import WatText.Proofs.Signature.Params

/-!
# The log of a rendering and its tree

`Module.told_replay`: the log of a rendering can be read off its tree, and the other way round. The
lines of the log come in the order of the imports and the functions of the tree
(`Shown.log`), and the instructions that they show are those of the tree from left to right
(`Node.instructions`). A rendering that fails logs what the module up to the failing function logs
(`Module.upTo`), and then what this function recorded before it failed.

A log line shows less than its event: an instruction by its text only (`Event.line`).
-/

namespace WatText

/-- A line of the log. -/
inductive LogLine where
  | recorded (text : String)
  | functionRendered (name : String) (declarations instructions : Nat)
  | imported (source name : String)
  | exported (name function : String)
  | moduleRendered (imports exports : Nat)
  deriving DecidableEq

/-- The log line of an event. -/
def Event.line : Event → LogLine
  | recorded instr => .recorded instr.text
  | functionRendered name declarations instructions =>
    .functionRendered name declarations instructions
  | imported source name => .imported source name
  | exported name function => .exported name function
  | moduleRendered imports exports => .moduleRendered imports exports

/-- The instruction that a log line shows, if it is about one. -/
def LogLine.instruction? : LogLine → Option String
  | recorded text => some text
  | functionRendered _ _ _ | imported _ _ | exported _ _ | moduleRendered _ _ => none

/-! ## The log as the tree tells it -/

/-- The log of a function: its instructions one by one, then its name and its counts. -/
def funcLog (f : String × List Node × List String) : List LogLine :=
  f.2.2.map .recorded ++ [.functionRendered f.1 f.2.1.length f.2.2.length]

/-- The log of the imports and the functions of a tree. -/
def Shown.funcsLog (s : Shown) : List LogLine :=
  s.imports.map (fun i => .functionRendered i.2.1 i.2.2.length 0) ++ s.funcs.flatMap funcLog

/-- The log of a tree. -/
def Shown.log (s : Shown) : List LogLine :=
  s.funcsLog ++ [.moduleRendered s.imports.length s.entries.length]

namespace Node

mutual

/-- The symbols that stand directly in a function, from left to right through the tree. -/
def instructions : Node → List String
  | symbol _ | string _ => []
  | list tag children => instructionsEach (tag = "func") children

/-- The same for some nodes, whose own symbols count if they stand in a function. -/
def instructionsEach (inFunc : Bool) : List Node → List String
  | [] => []
  | node :: nodes =>
    (if inFunc then node.symbol?.toList else []) ++ instructions node ++
      instructionsEach inFunc nodes

end

theorem instructionsEach_append (inFunc : Bool) (ns ms : List Node) :
    instructionsEach inFunc (ns ++ ms) = instructionsEach inFunc ns ++ instructionsEach inFunc ms := by
  induction ns with
  | nil => rw [instructionsEach]; rfl
  | cons n ns ih => rw [List.cons_append, instructionsEach, instructionsEach, ih]; simp

/-- Outside functions only what stands in the lists counts. -/
theorem instructionsEach_false (ns : List Node) :
    instructionsEach false ns = ns.flatMap instructions := by
  induction ns with
  | nil => rw [instructionsEach]; rfl
  | cons n ns ih => rw [instructionsEach, ih, List.flatMap_cons]; rfl

theorem instructionsEach_eq_nil {inFunc : Bool} {ns : List Node}
    (h : ∀ n ∈ ns, n.symbol? = none ∧ n.instructions = []) : instructionsEach inFunc ns = [] := by
  induction ns with
  | nil => rw [instructionsEach]
  | cons n ns ih =>
    obtain ⟨hsymbol, hinside⟩ := h n List.mem_cons_self
    rw [instructionsEach, ih fun m hm => h m (List.mem_cons_of_mem n hm), hsymbol, hinside]
    cases inFunc <;> rfl

theorem instructionsEach_symbols (texts : List String) :
    instructionsEach true (texts.map symbol) = texts := by
  induction texts with
  | nil => rw [List.map_nil, instructionsEach]
  | cons t texts ih =>
    rw [List.map_cons, instructionsEach, ih, instructions]
    rfl

theorem instructions_eq_nil_of_symbols {tag : String} (ht : tag ≠ "func") {ns : List Node}
    (h : ∀ n ∈ ns, ∃ text, n = symbol text) : (list tag ns).instructions = [] := by
  rw [instructions, decide_eq_false ht, instructionsEach_false]
  apply List.flatMap_eq_nil_iff.2
  intro n hn
  obtain ⟨text, rfl⟩ := h n hn
  rw [instructions]

end Node

theorem Operand.instructions_toNode (o : Operand) : o.toNode.instructions = [] := by
  apply Node.instructions_eq_nil_of_symbols
  · cases o.role <;> decide
  · intro n hn
    rcases List.mem_append.1 hn with hn | hn
    · obtain ⟨name, -, rfl⟩ := Option.map_eq_some_iff.1 (Option.mem_toList.1 hn)
      exact ⟨name, rfl⟩
    · exact ⟨_, List.mem_singleton.1 hn⟩

/-- A function shows its instructions. -/
theorem Func.instructions_nodeOf (f : Func) (instrs : List Instr) :
    (f.nodeOf instrs).instructions = instrs.map Instr.text := by
  have hdecls : ∀ n ∈ f.signature.toNodes, n.symbol? = none ∧ n.instructions = [] := by
    intro n hn
    obtain ⟨e, -, rfl⟩ := List.mem_map.1 hn
    exact ⟨rfl, Operand.instructions_toNode _⟩
  have htexts : (instrs.map fun i => Node.symbol i.text) = (instrs.map Instr.text).map .symbol := by
    rw [List.map_map]
    rfl
  unfold nodeOf
  rw [Node.instructions, decide_eq_true rfl, Node.instructionsEach, Node.instructions,
    Node.instructionsEach_append, Node.instructionsEach_eq_nil hdecls, htexts,
    Node.instructionsEach_symbols]
  rfl

theorem Import.instructions_nodeOf (i : Import) : i.nodeOf.instructions = [] := by
  unfold nodeOf
  rw [Node.instructions, decide_eq_false (by decide), Node.instructionsEach_false]
  apply List.flatMap_eq_nil_iff.2
  intro n hn
  rcases List.mem_append.1 hn with hn | hn
  · obtain ⟨segment, -, rfl⟩ := List.mem_map.1 hn
    rw [Node.instructions]
  · rw [List.mem_singleton.1 hn, Func.instructions_nodeOf]
    rfl

theorem instructions_exportEntry (name func : String) :
    (exportEntry name func).instructions = [] := by
  unfold exportEntry
  simp [Node.instructions, Node.instructionsEach, Node.symbol?]

namespace Module

/-- The instructions of a module's tree, function by function. -/
theorem instructions_treeOf (m : Module) (bodies : List (List Instr)) :
    (m.treeOf bodies).instructions = (m.shown bodies).funcs.flatMap fun f => f.2.2 := by
  have himports : (m.imports.values.map Import.nodeOf).flatMap Node.instructions = [] := by
    rw [List.flatMap_map]
    exact List.flatMap_eq_nil_iff.2 fun i _ => i.instructions_nodeOf
  have hentries : (m.exports.entries.map fun e => exportEntry e.1 e.2.name).flatMap
      Node.instructions = [] := by
    rw [List.flatMap_map]
    exact List.flatMap_eq_nil_iff.2 fun e _ => instructions_exportEntry e.1 e.2.name
  unfold treeOf shown
  rw [Node.instructions, decide_eq_false (by decide), Node.instructionsEach_false,
    List.flatMap_append, List.flatMap_append, himports, hentries, List.append_nil, List.nil_append,
    ← List.map_uncurry_zip_eq_zipWith, ← List.map_uncurry_zip_eq_zipWith, List.flatMap_map,
    List.flatMap_map]
  exact List.flatMap_congr fun p _ => Func.instructions_nodeOf p.1 p.2

end Module

/-- The log shows the instructions that stand in the tree. -/
theorem Shown.instructions_log (s : Shown) :
    s.log.filterMap LogLine.instruction? = s.funcs.flatMap fun f => f.2.2 := by
  have himports : (s.imports.map fun i =>
      LogLine.functionRendered i.2.1 i.2.2.length 0).filterMap LogLine.instruction? = [] := by
    rw [List.filterMap_map]
    exact List.filterMap_eq_nil_iff.2 fun i _ => rfl
  have hfunc : ∀ f ∈ s.funcs, (funcLog f).filterMap LogLine.instruction? = f.2.2 := by
    intro f _
    unfold funcLog
    rw [List.filterMap_append, List.filterMap_map]
    show f.2.2.filterMap (some ∘ id) ++ [] = _
    simp
  unfold log funcsLog
  rw [List.filterMap_append, List.filterMap_append, himports, List.filterMap_flatMap,
    List.flatMap_congr hfunc]
  exact List.append_nil _

/-! ## What renderings note -/

namespace Module

/-- The log of some functions that are rendered one after another. -/
theorem log_eventsAt (fs : List Func) (runs : Tally) :
    ((List.range fs.length).flatMap (Func.eventsAt fs runs)).map Event.line =
      (List.zipWith (fun f instrs => (f.name, f.signature.toNodes, instrs.map Instr.text)) fs
        ((List.range fs.length).map fun k => (Func.runAt fs runs k).2)).flatMap funcLog := by
  induction fs generalizing runs with
  | nil => rfl
  | cons f fs ih =>
    have hfirst : (Func.eventsAt (f :: fs) runs 0).map Event.line =
        funcLog (f.name, f.signature.toNodes, (Func.runAt (f :: fs) runs 0).2.map Instr.text) := by
      unfold Func.eventsAt funcLog
      simp [Event.line, Signature.length_toNodes, Signature.size, Table.size]
    -- the positions behind the first are those of the others after one run of the first
    have hevents : (List.range fs.length).flatMap (fun k => Func.eventsAt (f :: fs) runs k.succ) =
        (List.range fs.length).flatMap (Func.eventsAt fs (f.countRun runs)) :=
      List.flatMap_congr fun k _ => Func.eventsAt_succ f fs runs k
    have hbodies : (List.range fs.length).map
          ((fun k => (Func.runAt (f :: fs) runs k).2) ∘ Nat.succ) =
        (List.range fs.length).map fun k => (Func.runAt fs (f.countRun runs) k).2 :=
      List.map_congr_left fun k _ => congrArg Prod.snd (Func.runAt_succ f fs runs k)
    rw [List.length_cons, List.range_succ_eq_map, List.flatMap_cons, List.flatMap_map,
      List.map_append, hfirst, hevents, ih, List.map_cons, List.map_map, hbodies,
      List.zipWith_cons_cons, List.flatMap_cons]

/-- The instructions of the exported functions when all are run. -/
def bodiesAt (m : Module) (runs : Tally) : List (List Instr) :=
  (List.range m.exports.size).map fun k => (Func.runAt m.exports.values runs k).2

theorem length_bodiesAt (m : Module) (runs : Tally) : (m.bodiesAt runs).length = m.exports.size := by
  unfold bodiesAt
  rw [List.length_map, List.length_range]

theorem getElem?_bodiesAt {m : Module} {runs : Tally} {k : Nat} {f : Func}
    (hf : m.exports.values[k]? = some f) :
    (m.bodiesAt runs)[k]? = some (Func.runAt m.exports.values runs k).2 := by
  have hk : k < m.exports.size := by
    rw [← Table.length_values]
    exact (List.getElem?_eq_some_iff.1 hf).1
  unfold bodiesAt
  rw [List.getElem?_map, List.getElem?_range hk]
  rfl

/-- The log of the imports and the functions of a module, if none fails. -/
theorem log_journalAfter (m : Module) (j : Journal) :
    ∃ events, (Func.journalAfter m.exports.values (j.note m.importEvents)).events =
        j.events ++ events ∧
      events.map Event.line = (m.shown (m.bodiesAt j.runs)).funcsLog := by
  refine ⟨m.importEvents ++
    (List.range m.exports.values.length).flatMap (Func.eventsAt m.exports.values j.runs), ?_, ?_⟩
  · unfold Func.journalAfter
    rw [Journal.events_note, List.append_assoc]
    rfl
  · have himports : m.importEvents.map Event.line =
        (m.shown (m.bodiesAt j.runs)).imports.map
          fun i => .functionRendered i.2.1 i.2.2.length 0 := by
      unfold importEvents shown
      rw [List.map_map, List.map_map]
      apply List.map_congr_left
      intro i _
      show LogLine.functionRendered _ i.func.signature.size 0 = .functionRendered _ _ 0
      rw [Signature.length_toNodes]
      rfl
    rw [List.map_append, himports, log_eventsAt, Table.length_values]
    rfl

/-- The module with the exports before a position only. -/
def upTo (m : Module) (k : Nat) : Module :=
  { m with exports := ⟨m.exports.entries.take k⟩ }

theorem values_upTo (m : Module) (k : Nat) :
    (m.upTo k).exports.values = m.exports.values.take k :=
  List.map_take

/-- The runs before the first that fails go well. -/
theorem runAt_upTo {m : Module} {runs : Tally} {k : Nat} {e : BuildError}
    (h : Func.FirstFailure m.exports.values runs k e) (i : Nat) :
    (Func.runAt (m.upTo k).exports.values runs i).1 = none := by
  rw [values_upTo]
  by_cases hi : i < k
  · rw [Func.runAt_take hi]
    exact h.2 i hi
  · have hnone : (m.exports.values.take k)[i]? = none :=
      List.getElem?_eq_none (Nat.le_trans (List.length_take_le _ _) (Nat.le_of_not_lt hi))
    unfold Func.runAt
    rw [hnone]

/-- The recorder that the run at a position starts with. -/
def recorderAt (m : Module) (runs : Tally) (k : Nat) (f : Func) (body : Body) : Recorder where
  caps := f.caps
  run := Func.runNumber runs (m.exports.values.take k) body.counter

/-- How a step of the function at a position ends a rendering, and what is logged by then. -/
structure CutShort (m : Module) (j : Journal) (e : BuildError) (k : Nat) (f : Func) (body : Body)
    (before : List Step) (step : Step) (after : List Step) : Prop where
  exported : m.exports.values[k]? = some f
  runs_body : f.body = some body
  script_eq : body.script = before ++ step :: after
  fails : (m.recorderAt j.runs k f body).instr? step.action = .error e
  not_caught : step.caught = false
  /-- The log is that of the module up to the function, and then the instructions of the steps
  before the failing one that did not fail. -/
  log : ∃ tree events, ((m.upTo k).toNode j).1 = .ok tree ∧
    (m.toNode j).2.events = j.events ++ events ∧
    events.map Event.line = tree.shown.funcsLog ++
      ((m.recorderAt j.runs k f body).accepted before).map fun i => .recorded i.text

/-- The log of a rendering, beside its tree. -/
structure Told (m : Module) (j : Journal) : Prop where
  /-- A rendering that goes well logs what stands in its tree. -/
  complete : ∀ tree, (m.toNode j).1 = .ok tree → ∃ events,
    (m.toNode j).2.events = j.events ++ events ∧ events.map Event.line = tree.shown.log ∧
      (events.map Event.line).filterMap LogLine.instruction? = tree.instructions
  /-- The tree has one node for each import, function and export. The instructions of a function are
  those of the steps that did not fail, so a failure that is caught is not logged. -/
  nodes : ∀ tree, (m.toNode j).1 = .ok tree → tree.shown.imports.length = m.imports.size ∧
    tree.shown.entries.length = m.exports.size ∧ tree.shown.funcs.length = m.exports.size ∧
    ∀ (k : Nat) f, m.exports.values[k]? = some f → ∃ texts,
      tree.shown.funcs[k]? = some (f.name, f.signature.toNodes, texts) ∧
      ∀ body, f.body = some body →
        texts = ((m.recorderAt j.runs k f body).accepted body.script).map Instr.text
  /-- The counts that are logged with a function come, with its name, to the children of its
  node. -/
  counts : ∀ tree, (m.toNode j).1 = .ok tree → ∀ n ∈ tree.children, ∀ f, n.func? = some f →
    n.children.length = 1 + f.2.1.length + f.2.2.length
  /-- A rendering that fails is ended by a step of some exported function. -/
  failed : ∀ e, (m.toNode j).1 = .error e → ∃ k f body before step after,
    CutShort m j e k f body before step after
  text : ∀ l, (m.toText l j).2 = (m.toNode j).2

theorem counts_of_mem_children {m : Module} {bodies : List (List Instr)} {n : Node}
    (hn : n ∈ (m.treeOf bodies).children) {f : String × List Node × List String}
    (hf : n.func? = some f) : n.children.length = 1 + f.2.1.length + f.2.2.length := by
  rcases mem_children_treeOf hn with ⟨i, -, rfl⟩ | ⟨g, -, instrs, -, rfl⟩ | ⟨e, -, rfl⟩
  · cases hf
  · rw [Node.func?_nodeOf] at hf
    cases hf
    unfold Func.nodeOf Node.children
    simp
    omega
  · cases hf

/-- What the tree shows of the function at a position. -/
theorem funcs_bodiesAt {m : Module} {runs : Tally} {k : Nat} {f : Func}
    (hf : m.exports.values[k]? = some f) :
    (m.shown (m.bodiesAt runs)).funcs[k]? = some (f.name, f.signature.toNodes,
      (Func.runAt m.exports.values runs k).2.map Instr.text) := by
  unfold shown
  rw [List.getElem?_zipWith, hf, getElem?_bodiesAt hf]

/-- A run at a position that goes well records what is accepted of its script. -/
theorem instrs_runAt {m : Module} {runs : Tally} {k : Nat} {f : Func} {body : Body}
    (hf : m.exports.values[k]? = some f) (hbody : f.body = some body)
    (hok : (Func.runAt m.exports.values runs k).1 = none) :
    (Func.runAt m.exports.values runs k).2 =
      (m.recorderAt runs k f body).accepted body.script := by
  unfold Func.runAt Func.runAs at hok ⊢
  rw [hf] at hok ⊢
  dsimp only at hok ⊢
  rw [hbody] at hok ⊢
  exact Recorder.instrs_play_of_fst_eq_none hok

/-- The step that ends the run at a position. -/
theorem exists_step_of_runAt {m : Module} {runs : Tally} {k : Nat} {f : Func} {e : BuildError}
    (hf : m.exports.values[k]? = some f) (he : (Func.runAt m.exports.values runs k).1 = some e) :
    ∃ body before step after, f.body = some body ∧ body.script = before ++ step :: after ∧
      (m.recorderAt runs k f body).failure? step = some e ∧
      (Func.runAt m.exports.values runs k).2 =
        (m.recorderAt runs k f body).accepted before := by
  unfold Func.runAt Func.runAs at he ⊢
  rw [hf] at he ⊢
  dsimp only at he ⊢
  cases hbody : f.body with
  | none => rw [hbody] at he; cases he
  | some body =>
    rw [hbody] at he
    have hplay : ((m.recorderAt runs k f body).play body.script).1 = some e := he
    rw [Recorder.play_fst] at hplay
    obtain ⟨before, step, after, hscript, hstep, hbefore⟩ := List.findSome?_eq_some_iff.1 hplay
    refine ⟨body, before, step, after, rfl, hscript, hstep, ?_⟩
    show ((m.recorderAt runs k f body).play body.script).2.instrs = _
    rw [Recorder.instrs_play, hscript, Recorder.reached_eq_of_failure? hbefore hstep]
    exact List.nil_append _

/-- Either no run fails and the rendering goes well, or the rendering ends with the first failure. -/
theorem toNode_cases {m : Module} (himports : ∀ i ∈ m.imports.values, i.func.body = none)
    (j : Journal) :
    ((∀ k, (Func.runAt m.exports.values j.runs k).1 = none) ∧
      (m.toNode j).1 = .ok (m.treeOf (m.bodiesAt j.runs))) ∨
    ∃ k e f, Func.FirstFailure m.exports.values j.runs k e ∧ m.exports.values[k]? = some f ∧
      (m.toNode j).1 = .error e := by
  by_cases h : ∃ k e, Func.FirstFailure m.exports.values j.runs k e
  · obtain ⟨k, e, hfirst⟩ := h
    obtain ⟨f, hf⟩ := hfirst.exists_getElem?
    exact .inr ⟨k, e, f, hfirst, hf, by rw [toNode_run_failed himports hfirst hf]⟩
  · have hnone := Func.runAt_fst_eq_none h
    exact .inl ⟨hnone, by rw [toNode_run_complete himports hnone]; rfl⟩

/-- A rendering that goes well. -/
theorem eq_treeOf_bodiesAt {m : Module} (himports : ∀ i ∈ m.imports.values, i.func.body = none)
    {j : Journal} {tree : Node} (h : (m.toNode j).1 = .ok tree) :
    (∀ k, (Func.runAt m.exports.values j.runs k).1 = none) ∧
      tree = m.treeOf (m.bodiesAt j.runs) := by
  rcases toNode_cases himports j with ⟨hnone, hok⟩ | ⟨k, e, f, -, -, herror⟩
  · exact ⟨hnone, Except.ok.inj (h.symm.trans hok)⟩
  · rw [herror] at h
    cases h

/-- The log of a rendering that fails. -/
theorem exists_cutShort {m : Module} (himports : ∀ i ∈ m.imports.values, i.func.body = none)
    {j : Journal} {e : BuildError} (h : (m.toNode j).1 = .error e) :
    ∃ k f body before step after, CutShort m j e k f body before step after := by
  rcases toNode_cases himports j with ⟨-, hok⟩ | ⟨k, e', f, hfirst, hf, herror⟩
  · rw [hok] at h
    cases h
  · rw [herror] at h
    cases h
    obtain ⟨body, before, step, after, hbody, hscript, hstep, hinstrs⟩ :=
      exists_step_of_runAt hf hfirst.1
    have hfails : (m.recorderAt j.runs k f body).instr? step.action = .error e ∧
        step.caught = false := by
      unfold Recorder.failure? at hstep
      cases hi : (m.recorderAt j.runs k f body).instr? step.action <;> rw [hi] at hstep
      · cases hc : step.caught <;> rw [hc] at hstep <;> cases hstep
        exact ⟨rfl, rfl⟩
      · cases hstep
    -- the module up to the failing function renders from the same journal
    have hupTo := toNode_run_complete (m := m.upTo k) himports (runAt_upTo hfirst)
    obtain ⟨events, hevents, hlog⟩ := (m.upTo k).log_journalAfter j
    refine ⟨k, f, body, before, step, after, hf, hbody, hscript, hfails.1, hfails.2,
      (m.upTo k).treeOf ((m.upTo k).bodiesAt j.runs),
      events ++ (Func.runAt m.exports.values j.runs k).2.map .recorded, ?_, ?_, ?_⟩
    · rw [hupTo]
      rfl
    · rw [toNode_run_failed himports hfirst hf]
      unfold Func.afterRun
      rw [Func.nextRun_journalAfter_take hf, ← List.append_assoc, ← hevents, values_upTo]
      rfl
    · rw [List.map_append, hlog, shown_treeOf, hinstrs, List.map_map]
      rfl

/-- **The log and the tree.** -/
theorem told_replay (cs : List Call) (j₀ j : Journal) : Told (replay ({}, j₀) cs).1 j := by
  have himports : ∀ i ∈ (replay ({}, j₀) cs).1.imports.values, i.func.body = none :=
    fun i hi => body_eq_none_of_mem_imports hi
  generalize (replay ({}, j₀) cs).1 = m at himports ⊢
  refine ⟨fun tree htree => ?_, fun tree htree => ?_, fun tree htree n hn f hf => ?_,
    fun e he => exists_cutShort himports he, fun l => by rw [toText_run]⟩
  · obtain ⟨hnone, rfl⟩ := eq_treeOf_bodiesAt himports htree
    obtain ⟨events, hevents, hlog⟩ := m.log_journalAfter j
    have hline : (events ++ [Event.moduleRendered m.imports.size m.exports.size]).map Event.line =
        (m.treeOf (m.bodiesAt j.runs)).shown.log := by
      rw [List.map_append, hlog, shown_treeOf]
      unfold Shown.log shown
      simp [Event.line, Table.values, Table.size]
    refine ⟨events ++ [.moduleRendered m.imports.size m.exports.size], ?_, hline, ?_⟩
    · rw [toNode_run_complete himports hnone, ← List.append_assoc, ← hevents]
      rfl
    · rw [hline, Shown.instructions_log, instructions_treeOf, shown_treeOf]
  · obtain ⟨hnone, rfl⟩ := eq_treeOf_bodiesAt himports htree
    rw [shown_treeOf]
    refine ⟨by simp [shown, Table.values, Table.size], by simp [shown, Table.size], ?_,
      fun k f hf => ⟨_, funcs_bodiesAt hf, fun body hbody => ?_⟩⟩
    · simp [shown, bodiesAt, Table.values, Table.size]
    · rw [instrs_runAt hf hbody (hnone k)]
  · obtain ⟨-, rfl⟩ := eq_treeOf_bodiesAt himports htree
    exact counts_of_mem_children hn hf

end Module

end WatText
