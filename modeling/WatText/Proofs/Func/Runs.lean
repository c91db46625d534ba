import WatText.Func.Basic
import WatText.Proofs.Recorder

/-!
# Functions rendered one after another

`mapM_toNode_fst`: rendering some functions from a journal gives what their bodies do when they are
run one after another on the counts of the journal (`Func.playEach`), up to the first run that
fails.

`Func.toNode_run` says all that one rendering does: the run counts at its start, the instructions
that it recorded are noted also when it fails (`Recorder.Logs.play`), and the rendering is noted only
when it succeeds.
-/

namespace WatText

/-! ## Building actions, run from a journal -/

section BuildM

variable {α β : Type}

theorem bind_run (x : BuildM α) (g : α → BuildM β) (j : Journal) :
    (x >>= g) j = match x j with
      | (.ok a, j') => g a j'
      | (.error e, j') => (.error e, j') := by
  show ExceptT.bindCont g (x j).1 (x j).2 = _
  rcases x j with ⟨_ | _, _⟩ <;> rfl

theorem noteEvents_run (events : List Event) (j : Journal) :
    noteEvents events j = (.ok (), j.note events) := rfl

variable {σ : Type}

theorem bindOn_run (x : BuildOn σ α) (g : α → BuildOn σ β) (s : σ) (j : Journal) :
    (x >>= g) s j = match x s j with
      | ((.ok a, s'), j') => g a s' j'
      | ((.error e, s'), j') => ((.error e, s'), j') := by
  show ExceptT.bindCont g (x s j).1.1 (x s j).1.2 (x s j).2 = _
  rcases x s j with ⟨⟨_ | _, _⟩, _⟩ <;> rfl

/-- A building action leaves a state as it is. -/
theorem liftOn_run (x : BuildM α) (s : σ) (j : Journal) :
    (liftM x : BuildOn σ α) s j = (((x j).1, s), (x j).2) := rfl

theorem made_run (x : BuildOn σ Unit) (s : σ) (j : Journal) :
    x.made s j = ((x s j).1.1.map fun _ => (x s j).1.2, (x s j).2) := rfl

end BuildM

namespace Func

/-! ## One function -/

/-- What the next run of the body does, given the runs so far: the failure that ends it, if one
does, and the instructions recorded by then. -/
def nextRun (f : Func) (runs : Tally) : Option BuildError × List Instr :=
  match f.body with
  | none => (none, [])
  | some body => f.outcome body (runs.count body.counter + 1)

/-- The runs after one more run of the body. -/
def countRun (f : Func) (runs : Tally) : Tally :=
  match f.body with
  | none => runs
  | some body => runs.bump body.counter

/-- The journal after one more run of the body. -/
def afterRun (f : Func) (j : Journal) : Journal :=
  { runs := f.countRun j.runs, events := j.events ++ (f.nextRun j.runs).2.map .recorded }

/-- The recorder that a run of a body starts with, in the journal where the run is counted. -/
def startOf (f : Func) (body : Body) (j : Journal) : Recorder where
  caps := f.caps
  run := j.runs.count body.counter + 1
  journal := j.countRun body.counter

theorem record_run_body {f : Func} {body : Body} (h : f.body = some body) (j : Journal) :
    f.record j = (match ((f.startOf body j).play body.script).1 with
      | some e => throw e
      | none => pure (some ((f.startOf body j).play body.script).2.instrs) :
        BuildM (Option (List Instr))) ((f.startOf body j).play body.script).2.journal := by
  unfold record
  rw [h]
  rfl

theorem record_run (f : Func) (j : Journal) :
    f.record j = match f.nextRun j.runs with
      | (some e, _) => (.error e, f.afterRun j)
      | (none, instrs) => (.ok (f.body.map fun _ => instrs), f.afterRun j) := by
  cases hbody : f.body with
  | none =>
    unfold record nextRun afterRun nextRun countRun
    rw [hbody]
    show (Except.ok none, j) = (Except.ok none, { j with events := j.events ++ [] })
    rw [List.append_nil]
  | some body =>
    let alone : Recorder := { caps := f.caps, run := j.runs.count body.counter + 1 }
    obtain ⟨hfailure, hinstrs⟩ := (f.startOf body j).play_congr alone rfl rfl rfl body.script
    have hlogs : ((f.startOf body j).play body.script).2.journal =
        (j.countRun body.counter).note
          (((f.startOf body j).play body.script).2.instrs.map .recorded) :=
      (Recorder.logs_of_instrs_eq_nil (r := f.startOf body j) rfl).play body.script
    rw [record_run_body hbody, hlogs, hfailure, hinstrs]
    unfold nextRun afterRun nextRun countRun outcome
    rw [hbody]
    dsimp only
    rcases alone.play body.script with ⟨_ | e, recorder⟩ <;> rfl

theorem getD_map_body {f : Func} {runs : Tally} {instrs : List Instr}
    (h : f.nextRun runs = (none, instrs)) : (f.body.map fun _ => instrs).getD [] = instrs := by
  unfold nextRun at h
  cases hb : f.body with
  | none => rw [hb] at h; cases h; rfl
  | some body => rfl

/-- **Rendering a function.** -/
theorem toNode_run (f : Func) (j : Journal) :
    f.toNode j = match f.nextRun j.runs with
      | (some e, _) => (.error e, f.afterRun j)
      | (none, instrs) => (.ok (f.nodeOf instrs),
          (f.afterRun j).note [.functionRendered f.name f.signature.size instrs.length]) := by
  unfold toNode
  rw [bind_run, record_run]
  cases h : f.nextRun j.runs with
  | mk failure instrs =>
    cases failure with
    | some e => rfl
    | none =>
      show (noteEvents _ >>= _) (f.afterRun j) = _
      rw [getD_map_body h, bind_run, noteEvents_run]
      rfl

/-- A function without a body renders without a run. -/
theorem toNode_run_of_body_eq_none {f : Func} (h : f.body = none) (j : Journal) :
    f.toNode j = (.ok (f.nodeOf []), j.note [.functionRendered f.name f.signature.size 0]) := by
  have hnext : f.nextRun j.runs = (none, []) := by unfold nextRun; rw [h]
  have hafter : f.afterRun j = j := by
    unfold afterRun countRun
    rw [hnext, h]
    show { j with events := j.events ++ [] } = j
    rw [List.append_nil]
  rw [toNode_run, hnext, hafter]
  rfl

/-! ## Several functions -/

/-- The instructions of one run of each function, one after another, or the first failure. -/
def playEach : List Func → Tally → Except BuildError (List (List Instr))
  | [], _ => .ok []
  | f :: fs, runs =>
    match f.nextRun runs with
    | (some e, _) => .error e
    | (none, instrs) => (playEach fs (f.countRun runs)).map (instrs :: ·)

/-- If none fails, the first one did not and the others did not after it. -/
theorem playEach_cons_eq_ok {f : Func} {fs : List Func} {runs : Tally} {bodies : List (List Instr)}
    (h : playEach (f :: fs) runs = .ok bodies) :
    ∃ instrs rest, f.nextRun runs = (none, instrs) ∧ playEach fs (f.countRun runs) = .ok rest ∧
      bodies = instrs :: rest := by
  rw [playEach] at h
  rcases hn : f.nextRun runs with ⟨_ | e, instrs⟩
  · rw [hn] at h
    cases hp : playEach fs (f.countRun runs) with
    | error e => rw [hp] at h; cases h
    | ok rest =>
      rw [hp] at h
      cases h
      exact ⟨instrs, rest, rfl, rfl, rfl⟩
  · rw [hn] at h
    cases h

theorem length_playEach {fs : List Func} {runs : Tally} {bodies : List (List Instr)}
    (h : playEach fs runs = .ok bodies) : bodies.length = fs.length := by
  induction fs generalizing runs bodies with
  | nil => cases h; rfl
  | cons f fs ih =>
    obtain ⟨instrs, rest, -, hrest, rfl⟩ := playEach_cons_eq_ok h
    exact congrArg (· + 1) (ih hrest)

/-- **Rendering several functions.** -/
theorem mapM_toNode_fst (fs : List Func) (j : Journal) :
    (fs.mapM toNode j).1 = (playEach fs j.runs).map (List.zipWith nodeOf fs) := by
  induction fs generalizing j with
  | nil => rfl
  | cons f fs ih =>
    rw [List.mapM_cons, bind_run, toNode_run, playEach]
    cases h : f.nextRun j.runs with
    | mk failure instrs =>
      cases failure with
      | some e => rfl
      | none =>
        -- the others are rendered from the journal that this rendering leaves behind
        have ih' := ih ((f.afterRun j).note
          [.functionRendered f.name f.signature.size instrs.length])
        rw [show ((f.afterRun j).note _).runs = f.countRun j.runs from rfl] at ih'
        dsimp only
        rw [bind_run]
        rcases hm : fs.mapM toNode ((f.afterRun j).note
          [.functionRendered f.name f.signature.size instrs.length]) with ⟨_ | nodes, j'⟩
        all_goals
          rw [hm] at ih'
          cases hp : playEach fs (f.countRun j.runs) <;> rw [hp] at ih' <;> cases ih'
          rfl

end Func

end WatText
