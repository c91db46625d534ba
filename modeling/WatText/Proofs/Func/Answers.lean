import WatText.Proofs.Func.Counting
import WatText.Proofs.Recorder
import WatText.Workspace

/-!
# What a function answers

`Func.inspect_run`: a question to a function that has to run its body makes one run, whatever the
run comes to, and answers from this run alone (`Func.reply`). The other questions make none.

A run comes to its first failure that is not caught, or to the instructions that were accepted
(`Func.result`). It leaves the events of what it recorded, up to the failure (`Func.noted`).
-/

namespace WatText

/-- Whether a question is answered from a run of the body. -/
def Inspection.runsBody : Inspection → Bool
  | .record | .render | .text _ => true
  | .name | .describe => false

namespace Func

/-- What a run comes to when the runs of the counters have the given numbers; `none` without a
body. -/
def result (f : Func) (number : Nat → Nat) : Except BuildError (Option (List Instr)) :=
  match f.body with
  | none => .ok none
  | some body =>
    let r : Recorder := { caps := f.caps, run := number body.counter }
    match body.script.findSome? r.failure? with
    | some e => .error e
    | none => .ok (some (r.accepted body.script))

/-- What a run records, until it fails if it does. -/
def recordedAs (f : Func) (number : Nat → Nat) : List Instr :=
  match f.body with
  | none => []
  | some body =>
    let r : Recorder := { caps := f.caps, run := number body.counter }
    r.accepted (r.reached body.script)

/-- The node of a function: its name, its declarations and the instructions of a run. -/
def shownAs (f : Func) (instrs : Option (List Instr)) : Node :=
  .list "func" (.string f.name :: (f.signature.toNodes ++
    (instrs.getD []).map fun i => .symbol i.text))

/-- The answer to a question when the runs of the counters have the given numbers. -/
def reply (f : Func) (number : Nat → Nat) : Inspection → Except BuildError Answer
  | .name => .ok (.text f.name)
  | .record => (f.result number).map .recorded
  | .render => (f.result number).map fun instrs => .node (f.shownAs instrs)
  | .text l => (f.result number).map fun instrs => .text ((f.shownAs instrs).render l)
  | .describe => .ok (.text f.describe)

/-- The event of a rendering, if it goes well. -/
def renderedAs (f : Func) (number : Nat → Nat) : List Event :=
  match f.result number with
  | .ok instrs => [.functionRendered f.name f.signature.size (instrs.getD []).length]
  | .error _ => []

/-- The events of a question. -/
def noted (f : Func) (number : Nat → Nat) : Inspection → List Event
  | .name | .describe => []
  | .record => (f.recordedAs number).map .recorded
  | .render | .text _ => (f.recordedAs number).map .recorded ++ f.renderedAs number

/-! ## One run -/

theorem runAs_snd (f : Func) (number : Nat → Nat) : (f.runAs number).2 = f.recordedAs number := by
  unfold runAs recordedAs
  cases f.body with
  | none => rfl
  | some body =>
    show ((Recorder.play _ _).2).instrs = _
    rw [Recorder.instrs_play]
    exact List.nil_append _

theorem result_eq (f : Func) (number : Nat → Nat) :
    f.result number = match f.runAs number with
      | (some e, _) => .error e
      | (none, instrs) => .ok (f.body.map fun _ => instrs) := by
  have hsnd := f.runAs_snd number
  unfold result
  unfold runAs recordedAs at *
  cases hb : f.body with
  | none => rfl
  | some body =>
    rw [hb] at hsnd
    dsimp only at hsnd ⊢
    have hfst : (f.outcome body (number body.counter)).1 =
        body.script.findSome? (Recorder.failure? { caps := f.caps, run := number body.counter }) :=
      Recorder.play_fst _ _
    rcases hrun : f.outcome body (number body.counter) with ⟨failure, instrs⟩
    rw [hrun] at hfst hsnd
    dsimp only at hfst hsnd
    subst hfst hsnd
    cases hfind : body.script.findSome?
        (Recorder.failure? { caps := f.caps, run := number body.counter }) with
    | some e => rfl
    | none => rw [Recorder.reached_eq_self hfind]; rfl

theorem result_of_runAs_eq_none {f : Func} {number : Nat → Nat} (h : (f.runAs number).1 = none) :
    f.result number = .ok (f.body.map fun _ => (f.runAs number).2) := by
  rw [result_eq]
  rcases hrun : f.runAs number with ⟨_ | e, instrs⟩
  · rfl
  · rw [hrun] at h
    cases h

theorem result_of_runAs_eq_some {f : Func} {number : Nat → Nat} {e : BuildError}
    (h : (f.runAs number).1 = some e) : f.result number = .error e := by
  rw [result_eq]
  rcases hrun : f.runAs number with ⟨_ | e', instrs⟩
  · rw [hrun] at h
    cases h
  · rw [hrun] at h
    cases h
    rfl

/-- Without a body every question is answered. -/
theorem exists_reply_of_body_eq_none {f : Func} (h : f.body = none) (number : Nat → Nat)
    (i : Inspection) : ∃ a, f.reply number i = .ok a ∧ (i = .record → a = .recorded none) := by
  have hresult : f.result number = .ok none := by unfold result; rw [h]
  cases i with
  | name | describe => exact ⟨_, rfl, nofun⟩
  | record | render | text l =>
    unfold reply
    rw [hresult]
    exact ⟨_, rfl, by simp⟩

theorem record_run_eq (f : Func) (j : Journal) :
    f.record j = (f.result (runNumber j.runs []),
      { runs := f.countRun j.runs
        events := j.events ++ (f.recordedAs (runNumber j.runs [])).map .recorded }) := by
  rw [record_run, nextRun_eq, result_eq, ← runAs_snd]
  unfold afterRun
  rw [nextRun_eq]
  rcases f.runAs (runNumber j.runs []) with ⟨_ | e, instrs⟩ <;> rfl

theorem toNode_run_eq (f : Func) (j : Journal) :
    f.toNode j = ((f.result (runNumber j.runs [])).map f.shownAs,
      { runs := f.countRun j.runs
        events := j.events ++ f.noted (runNumber j.runs []) .render }) := by
  unfold toNode
  rw [bind_run, record_run_eq]
  unfold noted renderedAs
  cases f.result (runNumber j.runs []) with
  | error e => rw [List.append_nil]; rfl
  | ok instrs => rw [← List.append_assoc]; rfl

/-- The text of a function is its node's text. -/
theorem toText_run (f : Func) (l : Layout) (j : Journal) :
    f.toText l j = ((f.toNode j).1.map (Node.render l), (f.toNode j).2) := by
  unfold toText
  rw [bind_run]
  rcases f.toNode j with ⟨_ | n, j'⟩ <;> rfl

/-! ## One question -/

/-- The runs after a question. -/
def countInspection (f : Func) (i : Inspection) (runs : Tally) : Tally :=
  if i.runsBody then f.countRun runs else runs

/-- **One question, one fresh run.** -/
theorem inspect_run (f : Func) (i : Inspection) (j : Journal) :
    f.inspect i j = (f.reply (runNumber j.runs []) i,
      { runs := f.countInspection i j.runs
        events := j.events ++ f.noted (runNumber j.runs []) i }) := by
  cases i with
  | name | describe =>
    unfold noted
    rw [List.append_nil]
    rfl
  | record =>
    show (f.record >>= fun instrs => pure (Answer.recorded instrs)) j = _
    rw [bind_run, record_run_eq]
    unfold reply
    cases f.result (runNumber j.runs []) <;> rfl
  | render =>
    show (f.toNode >>= fun n => pure (Answer.node n)) j = _
    rw [bind_run, toNode_run_eq]
    unfold reply
    cases f.result (runNumber j.runs []) <;> rfl
  | text l =>
    show (f.toText l >>= fun s => pure (Answer.text s)) j = _
    rw [bind_run, toText_run, toNode_run_eq]
    unfold reply
    cases f.result (runNumber j.runs []) <;> rfl

end Func

end WatText
