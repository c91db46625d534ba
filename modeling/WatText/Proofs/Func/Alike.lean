import WatText.Proofs.Func.Answers
import WatText.Proofs.Workspace.Questions

/-!
# Functions that answer alike

Functions are alike if they have the same name, show the same declarations and run the same script
under the same limits (`Func.Alike`). Their bodies may have different counters, and what the slots
overrule in their operands may differ.

`Alike.inspect`: alike functions that have been run equally often give the same answer to a
question, unless it asks for their descriptions and these differ, and note the same events. They
have then been run equally often again, so this goes on for any number of questions
(`Alike.run_inspections`).
-/

namespace WatText.Func

/-- The runs of the body of a function so far, none without a body. -/
def runsSoFar (f : Func) (runs : Tally) : Nat :=
  match f.body with
  | none => 0
  | some body => runs.count body.counter

/-- The number of the run of a function when the runs of the counters have the given numbers. -/
def ownNumber (f : Func) (number : Nat → Nat) : Option Nat :=
  f.body.map fun body => number body.counter

/-- Whether two functions have the same name, declarations as shown, limits and script. -/
structure Alike (f f' : Func) : Prop where
  name : f.name = f'.name
  declarations : f.signature.toNodes = f'.signature.toNodes
  caps : f.caps = f'.caps
  script : f.body.map Body.script = f'.body.map Body.script

theorem Alike.refl (f : Func) : f.Alike f := ⟨rfl, rfl, rfl, rfl⟩

theorem Alike.symm {f f' : Func} (h : f.Alike f') : f'.Alike f :=
  ⟨h.name.symm, h.declarations.symm, h.caps.symm, h.script.symm⟩

section Alike

variable {f f' : Func} (h : f.Alike f')

include h

/-- Alike functions both have no body, or both have one, with the same script. -/
theorem Alike.body_cases :
    (f.body = none ∧ f'.body = none) ∨
      ∃ body body', f.body = some body ∧ f'.body = some body' ∧ body.script = body'.script := by
  have hscript := h.script
  cases hb : f.body with
  | none =>
    rw [hb] at hscript
    exact .inl ⟨rfl, Option.map_eq_none_iff.1 hscript.symm⟩
  | some body =>
    rw [hb] at hscript
    obtain ⟨body', hb', hs⟩ := Option.map_eq_some_iff.1 hscript.symm
    exact .inr ⟨body, body', rfl, hb', hs.symm⟩

theorem Alike.size_eq : f.signature.size = f'.signature.size := by
  have hlength := congrArg List.length h.declarations
  unfold Signature.toNodes at hlength
  rwa [List.length_map, List.length_map] at hlength

theorem Alike.nodeOf_eq (instrs : List Instr) : f.nodeOf instrs = f'.nodeOf instrs := by
  unfold nodeOf
  rw [h.name, h.declarations]

theorem Alike.shownAs_eq : f.shownAs = f'.shownAs := by
  funext instrs
  unfold shownAs
  rw [h.name, h.declarations]

/-! ## One run -/

section Number

variable {number number' : Nat → Nat} (hn : f.ownNumber number = f'.ownNumber number')

include hn

theorem Alike.runAs_eq : f.runAs number = f'.runAs number' := by
  rcases h.body_cases with ⟨hb, hb'⟩ | ⟨body, body', hb, hb', hs⟩
  · simp only [runAs, hb, hb']
  · simp only [ownNumber, hb, hb', Option.map_some, Option.some.injEq] at hn
    simp only [runAs, outcome, hb, hb', hs, hn, h.caps]

theorem Alike.result_eq : f.result number = f'.result number' := by
  rcases h.body_cases with ⟨hb, hb'⟩ | ⟨body, body', hb, hb', hs⟩
  · simp only [result, hb, hb']
  · simp only [ownNumber, hb, hb', Option.map_some, Option.some.injEq] at hn
    simp only [result, hb, hb', hs, hn, h.caps]

theorem Alike.recordedAs_eq : f.recordedAs number = f'.recordedAs number' := by
  rw [← runAs_snd, ← runAs_snd, h.runAs_eq hn]

theorem Alike.reply_eq {i : Inspection} (hi : i = .describe → f.describe = f'.describe) :
    f.reply number i = f'.reply number' i := by
  cases i with
  | describe => simp only [reply, hi]
  | name => simp only [reply, h.name]
  | record | render | text l => simp only [reply, h.result_eq hn, h.shownAs_eq]

theorem Alike.noted_eq (i : Inspection) : f.noted number i = f'.noted number' i := by
  cases i with
  | name | describe => rfl
  | record | render | text l =>
    simp only [noted, renderedAs, h.recordedAs_eq hn, h.result_eq hn, h.name, h.size_eq]

end Number

/-! ## One body -/

/-- With one body, alike functions do the same when they are recorded. -/
theorem Alike.record_eq (hbody : f.body = f'.body) : f.record = f'.record := by
  funext j
  have hn : f.ownNumber (runNumber j.runs []) = f'.ownNumber (runNumber j.runs []) := by
    unfold ownNumber
    rw [hbody]
  have hcount : f.countRun j.runs = f'.countRun j.runs := by
    unfold countRun
    rw [hbody]
  rw [record_run_eq, record_run_eq, h.result_eq hn, h.recordedAs_eq hn, hcount]

/-- With one body, alike functions do the same when they are rendered. -/
theorem Alike.toNode_eq (hbody : f.body = f'.body) : f.toNode = f'.toNode := by
  unfold toNode
  rw [h.record_eq hbody, h.name, h.size_eq, funext h.nodeOf_eq]

/-! ## One question after another -/

theorem Alike.ownNumber_eq {runs runs' : Tally} (hr : f.runsSoFar runs = f'.runsSoFar runs') :
    f.ownNumber (runNumber runs []) = f'.ownNumber (runNumber runs' []) := by
  rcases h.body_cases with ⟨hb, hb'⟩ | ⟨body, body', hb, hb', -⟩
  · simp only [ownNumber, hb, hb', Option.map_none]
  · simp only [runsSoFar, hb, hb'] at hr
    simp [ownNumber, runNumber, holders, hb, hb', hr]

/-- **One question.** -/
theorem Alike.inspect {j j' : Journal} (hr : f.runsSoFar j.runs = f'.runsSoFar j'.runs)
    {i : Inspection} (hi : i = .describe → f.describe = f'.describe) :
    (f.inspect i j).1 = (f'.inspect i j').1 ∧
      ∃ events, (f.inspect i j).2.events = j.events ++ events ∧
        (f'.inspect i j').2.events = j'.events ++ events := by
  have hn := h.ownNumber_eq hr
  rw [inspect_run, inspect_run, h.reply_eq hn hi, h.noted_eq hn]
  exact ⟨rfl, _, rfl, rfl⟩

omit h in
theorem runsSoFar_countRun (f : Func) (runs : Tally) :
    f.runsSoFar (f.countRun runs) = f.runsSoFar runs + if f.body.isSome then 1 else 0 := by
  unfold runsSoFar countRun
  cases f.body with
  | none => rfl
  | some body => simp [Tally.count_bump]

theorem Alike.runsSoFar_inspect {j j' : Journal}
    (hr : f.runsSoFar j.runs = f'.runsSoFar j'.runs) (i : Inspection) :
    f.runsSoFar (f.inspect i j).2.runs = f'.runsSoFar (f'.inspect i j').2.runs := by
  have hsome : f.body.isSome = f'.body.isSome := by
    simpa using congrArg Option.isSome h.script
  rw [inspect_run, inspect_run]
  unfold countInspection
  cases i.runsBody with
  | false => exact hr
  | true =>
    show f.runsSoFar (f.countRun j.runs) = f'.runsSoFar (f'.countRun j'.runs)
    rw [runsSoFar_countRun, runsSoFar_countRun, hr, hsome]

/-- **One question after another.** -/
theorem Alike.run_inspections {w w' : Workspace} {key key' : String}
    (hf : w.funcs.get? key = some f) (hf' : w'.funcs.get? key' = some f') (is : List Inspection)
    (his : ∀ i ∈ is, i = .describe → f.describe = f'.describe) {j j' : Journal}
    (hr : f.runsSoFar j.runs = f'.runsSoFar j'.runs) :
    (w.run j (is.map (.inspect key))).1 = (w'.run j' (is.map (.inspect key'))).1 := by
  induction is generalizing j j' with
  | nil => rfl
  | cons i is ih =>
    have hhead := (h.inspect hr (his i List.mem_cons_self)).1
    have htail := ih (fun i' hi' => his i' (List.mem_cons_of_mem i hi'))
      (h.runsSoFar_inspect hr i)
    rw [List.map_cons, List.map_cons, w.run_inspect hf, w'.run_inspect hf', hhead, htail]

end Alike

end WatText.Func
