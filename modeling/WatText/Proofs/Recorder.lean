import WatText.Recorder
import WatText.Proofs.Instr.Words

/-!
# What a run of a body records

`Recorder.instrs_play`: a run records, in order, the instructions of the steps that it reaches and
that are accepted. It reaches the steps before the first failure that is not caught, and ends with
this failure (`Recorder.play_fst`).

Each instruction is noted in the journal as it is recorded. That the journal has noted just what is
recorded is kept by every step (`Recorder.Logs.perform`), and so by a run however it ends
(`Recorder.Logs.play`).

What an action asks for depends on the width limits and on the number of the run, and neither
changes during a run (`instr?_push`). An instruction is readable if the name or the text that its
action hands on is a word (`Action.readable_of_instr?`): the positions and the numbers are words
anyway.
-/

namespace WatText

namespace Recorder

/-! ## The steps of a run -/

/-- Recording changes nothing about what can be recorded. -/
theorem instr?_push (r : Recorder) (i : Instr) : (r.push i).instr? = r.instr? := by
  funext a
  cases a <;> rfl

/-- The instructions of the steps that are accepted, in order. -/
def accepted (r : Recorder) (steps : List Step) : List Instr :=
  steps.filterMap fun step => (r.instr? step.action).toOption

theorem accepted_push (r : Recorder) (i : Instr) : (r.push i).accepted = r.accepted := by
  unfold accepted
  rw [instr?_push]

theorem accepted_cons_ok {r : Recorder} {step : Step} {i : Instr}
    (h : r.instr? step.action = .ok i) (rest : List Step) :
    r.accepted (step :: rest) = i :: r.accepted rest := by
  unfold accepted
  rw [List.filterMap_cons, h]
  rfl

theorem accepted_cons_error {r : Recorder} {step : Step} {e : BuildError}
    (h : r.instr? step.action = .error e) (rest : List Step) :
    r.accepted (step :: rest) = r.accepted rest := by
  unfold accepted
  rw [List.filterMap_cons, h]
  rfl

/-- The failure that a step ends a run with, if it does. -/
def failure? (r : Recorder) (step : Step) : Option BuildError :=
  match r.instr? step.action with
  | .ok _ => none
  | .error e => if step.caught then none else some e

theorem failure?_push (r : Recorder) (i : Instr) : (r.push i).failure? = r.failure? := by
  funext step
  unfold failure?
  rw [instr?_push]

/-- The steps of a script before the first one that ends the run. -/
def reached (r : Recorder) (steps : List Step) : List Step :=
  steps.takeWhile fun step => (r.failure? step).isNone

/-- The first failure that is not caught ends a run. -/
theorem play_fst (r : Recorder) (steps : List Step) :
    (r.play steps).1 = steps.findSome? r.failure? := by
  induction steps generalizing r with
  | nil => rfl
  | cons step rest ih =>
    rw [play, perform, List.findSome?_cons, failure?]
    cases r.instr? step.action with
    | ok i => exact (ih _).trans (by rw [failure?_push])
    | error e =>
      by_cases hc : step.caught = true
      · simp only [hc, if_true]
        exact ih r
      · simp only [hc]
        rfl

/-- **What a run records.** -/
theorem instrs_play (r : Recorder) (steps : List Step) :
    (r.play steps).2.instrs = r.instrs ++ r.accepted (r.reached steps) := by
  induction steps generalizing r with
  | nil => exact (List.append_nil _).symm
  | cons step rest ih =>
    unfold reached at ih ⊢
    rw [play, perform, List.takeWhile_cons]
    cases h : r.instr? step.action with
    | ok i =>
      have hnone : r.failure? step = none := by unfold failure?; rw [h]
      dsimp only
      rw [hnone, ih, failure?_push, accepted_push, instrs_push, List.append_assoc]
      exact congrArg (r.instrs ++ ·) (accepted_cons_ok h _).symm
    | error e =>
      by_cases hc : step.caught = true
      · have hnone : r.failure? step = none := by unfold failure?; rw [h]; exact if_pos hc
        simp only [hc, hnone, if_true, Option.isNone_none, ih, accepted_cons_error h]
      · have hsome : r.failure? step = some e := by unfold failure?; rw [h]; exact if_neg hc
        simp only [hc, hsome]
        exact (List.append_nil _).symm

theorem reached_eq_self {r : Recorder} {steps : List Step} (h : steps.findSome? r.failure? = none) :
    r.reached steps = steps := by
  have hall : ∀ step ∈ steps, (r.failure? step).isNone = true := by
    intro step hs
    rw [List.findSome?_eq_none_iff.1 h step hs]
    rfl
  have htake : (steps ++ []).takeWhile _ = steps ++ [] := List.takeWhile_append_of_pos hall
  rwa [List.append_nil] at htake

/-- The steps before the one that ends the run are reached. -/
theorem reached_eq_of_failure? {r : Recorder} {before after : List Step} {step : Step}
    {e : BuildError} (hbefore : ∀ s ∈ before, r.failure? s = none)
    (hstep : r.failure? step = some e) : r.reached (before ++ step :: after) = before := by
  have hall : ∀ s ∈ before, (r.failure? s).isNone = true := by
    intro s hs
    rw [hbefore s hs]
    rfl
  unfold reached
  rw [List.takeWhile_append_of_pos hall, List.takeWhile_cons, hstep]
  exact List.append_nil _

/-- A run that no failure ends records what is accepted of all its steps. -/
theorem instrs_play_of_fst_eq_none {r : Recorder} {steps : List Step}
    (h : (r.play steps).1 = none) :
    (r.play steps).2.instrs = r.instrs ++ r.accepted steps := by
  rw [play_fst] at h
  rw [instrs_play, reached_eq_self h]

/-- Every recorded instruction is one that was there or what some step asks for. -/
theorem mem_instrs_play {r : Recorder} {steps : List Step} {i : Instr}
    (h : i ∈ (r.play steps).2.instrs) :
    i ∈ r.instrs ∨ ∃ step ∈ steps, r.instr? step.action = .ok i := by
  rw [instrs_play] at h
  rcases List.mem_append.1 h with h | h
  · exact .inl h
  · obtain ⟨step, hstep, hi⟩ := List.mem_filterMap.1 h
    refine .inr ⟨step, (List.takeWhile_sublist _).mem hstep, ?_⟩
    cases hr : r.instr? step.action with
    | ok i' => rw [hr] at hi; cases hi; rfl
    | error e => rw [hr] at hi; cases hi

/-! ## The journal of a run -/

/-- Whether a recorder has noted just what it recorded, one event for each instruction, since its
journal was `start`. -/
def Logs (r : Recorder) (start : Journal) : Prop :=
  r.journal = start.note (r.instrs.map .recorded)

section Logs

variable {r : Recorder} {start : Journal}

theorem logs_of_instrs_eq_nil (h : r.instrs = []) : r.Logs r.journal := by
  unfold Logs Journal.note
  rw [h, List.map_nil, List.append_nil]

theorem Logs.push (h : r.Logs start) (i : Instr) : (r.push i).Logs start := by
  unfold Logs at h ⊢
  rw [journal_push, h, Journal.note_note, instrs_push, List.map_append]
  rfl

/-- **One step.** A step that is accepted notes its instruction, and one that fails notes nothing. -/
theorem Logs.perform (h : r.Logs start) (a : Action) : (r.perform a).2.Logs start := by
  unfold Recorder.perform
  cases r.instr? a with
  | ok i => exact h.push i
  | error e => exact h

/-- **The journal of a run.** -/
theorem Logs.play (h : r.Logs start) (steps : List Step) : (r.play steps).2.Logs start := by
  induction steps generalizing r with
  | nil => exact h
  | cons step rest ih =>
    have hstep := h.perform step.action
    rw [Recorder.play]
    rcases hperform : r.perform step.action with ⟨_ | _, r'⟩
    all_goals rw [hperform] at hstep
    · -- a failure ends the run or is caught, and neither is noted
      by_cases hc : step.caught = true
      · simp only [hc, if_true]
        exact ih hstep
      · simp only [hc]
        exact hstep
    · exact ih hstep

end Logs

/-- A run goes on in the same way whatever its journal holds. -/
theorem instr?_congr {r r' : Recorder} (hcaps : r.caps = r'.caps) (hrun : r.run = r'.run) :
    r.instr? = r'.instr? := by
  funext a
  unfold instr?
  rw [hcaps, hrun]

theorem play_congr (r r' : Recorder) (hcaps : r.caps = r'.caps) (hrun : r.run = r'.run)
    (hinstrs : r.instrs = r'.instrs) (steps : List Step) :
    (r.play steps).1 = (r'.play steps).1 ∧ (r.play steps).2.instrs = (r'.play steps).2.instrs := by
  have hinstr? := instr?_congr hcaps hrun
  have hfailure : r.failure? = r'.failure? := by
    funext step
    unfold failure?
    rw [hinstr?]
  constructor
  · rw [play_fst, play_fst, hfailure]
  · rw [instrs_play, instrs_play, hinstrs]
    unfold accepted reached
    rw [hinstr?, hfailure]

end Recorder

/-! ## Readable instructions -/

theorem Literal.isWord_text : {l : Literal} → (∀ text, l ≠ .verbatim text) → IsWord l.text
  | verbatim text, h => absurd rfl (h text)
  | bool true, _ => by decide
  | bool false, _ => by decide
  | int (.ofNat n), _ => isWord_repr n
  | int (.negSucc n), _ =>
    isWord_append (v := "-") (by decide) (isWord_repr (n + 1)).2

/-- Whether the name or the text that an action hands on as it is, if it does, is one word. -/
def Action.Readable : Action → Prop
  | .indexed _ (.name text) => IsWord text
  | .numeric _ (.const (.verbatim text)) => IsWord text
  | .indexed _ (.position _) | .bare _ | .numeric _ _ | .runNumber _ => True

/-- A computation that goes well went well at each of its two steps. -/
theorem eq_ok_of_bind {ε α β : Type} {x : Except ε α} {g : α → Except ε β} {b : β}
    (h : x >>= g = .ok b) : ∃ a, x = .ok a ∧ g a = .ok b := by
  cases x with
  | ok a => exact ⟨a, rfl, h⟩
  | error e => cases h

/-- A loading request never gives a constant. -/
theorem Request.resolveLoad_ne_const (ty : NumType) (caps : WidthCaps) (bits : Option UInt32)
    (sign : Option Sign) (v : Literal) : resolveLoad ty caps bits sign ≠ .ok (.const v) := by
  intro h
  cases bits <;> cases sign
  · cases h
  · cases h
  · cases h
  · obtain ⟨-, -, h⟩ := eq_ok_of_bind h
    cases h

/-- A request for a constant is the only one that gives it. -/
theorem Request.eq_const_of_resolve {ty : NumType} {caps : WidthCaps} {request : Request}
    {v : Literal} (h : request.resolve ty caps = .ok (.const v)) : request = .const v := by
  cases request with
  | add | sub | mul => cases h
  | const value => cases h; rfl
  | div flag =>
    obtain ⟨sign, -, h⟩ := eq_ok_of_bind h
    obtain ⟨-, -, h⟩ := eq_ok_of_bind h
    cases h
  | rem flag =>
    obtain ⟨-, -, h⟩ := eq_ok_of_bind h
    obtain ⟨sign, -, h⟩ := eq_ok_of_bind h
    cases h
  | load bits flag =>
    cases flag with
    | none => exact absurd h (resolveLoad_ne_const ty caps bits none v)
    | some flag =>
      obtain ⟨sign, -, h⟩ := eq_ok_of_bind h
      exact absurd h (resolveLoad_ne_const ty caps bits (some sign) v)
  | store bits =>
    cases bits with
    | none => cases h
    | some bits =>
      obtain ⟨-, -, h⟩ := eq_ok_of_bind h
      cases h

/-- Readable actions ask for readable instructions. -/
theorem Action.readable_of_instr? {a : Action} (ha : a.Readable) {r : Recorder} {i : Instr}
    (h : r.instr? a = .ok i) : i.Readable := by
  cases a with
  | indexed op index =>
    cases h
    cases index with
    | position n => exact isWord_repr n.toNat
    | name text => exact ha
  | bare op => cases h; trivial
  | runNumber ty => cases h; exact isWord_repr r.run
  | numeric ty request =>
    have hmap : (request.resolve ty r.caps).map (Instr.numeric ty) = .ok i := h
    cases hr : request.resolve ty r.caps with
    | error e => rw [hr] at hmap; cases hmap
    | ok n =>
      rw [hr] at hmap
      cases hmap
      cases n with
      | const v =>
        rw [Request.eq_const_of_resolve hr] at ha
        cases v with
        | verbatim text => exact ha
        | bool b => exact Literal.isWord_text nofun
        | int n => exact Literal.isWord_text nofun
      | _ => trivial

end WatText
