import WatText.Proofs.Recorder

/-!
# Recorders keep exactly what is accepted

`exact_performEach`: over any calls, a recorder answers as a standalone operand does and holds, in
order, the instructions of the calls that it accepted.

What a call asks for does not depend on what was recorded before (`instr?_perform`), so the answers
to many calls are the answers to each alone (`performEach_fst`), and the recorded instructions only
grow at the end (`instrs_performEach`).
-/

namespace WatText.Recorder

/-- The answers to some calls, and the recorder after them. A call that is refused is passed
over. -/
def performEach (r : Recorder) : List Action → List (Except BuildError Instr) × Recorder
  | [] => ([], r)
  | a :: as =>
    ((r.perform a).1 :: ((r.perform a).2.performEach as).1, ((r.perform a).2.performEach as).2)

/-! ## One call -/

theorem perform_fst (r : Recorder) (a : Action) : (r.perform a).1 = r.instr? a := by
  unfold perform
  cases r.instr? a <;> rfl

theorem instr?_perform (r : Recorder) (a : Action) : (r.perform a).2.instr? = r.instr? := by
  unfold perform
  cases r.instr? a with
  | ok i => exact instr?_push r i
  | error e => rfl

theorem instrs_perform (r : Recorder) (a : Action) :
    (r.perform a).2.instrs = r.instrs ++ (r.instr? a).toOption.toList := by
  unfold perform
  cases r.instr? a with
  | ok i => exact instrs_push r i
  | error e => exact (List.append_nil _).symm

/-! ## Many calls -/

theorem performEach_fst (r : Recorder) (as : List Action) :
    (r.performEach as).1 = as.map r.instr? := by
  induction as generalizing r with
  | nil => rfl
  | cons a as ih =>
    show (r.perform a).1 :: ((r.perform a).2.performEach as).1 = _
    rw [ih, instr?_perform, perform_fst, List.map_cons]

theorem instrs_performEach (r : Recorder) (as : List Action) :
    (r.performEach as).2.instrs = r.instrs ++ as.filterMap fun a => (r.instr? a).toOption := by
  induction as generalizing r with
  | nil => exact (List.append_nil _).symm
  | cons a as ih =>
    show ((r.perform a).2.performEach as).2.instrs = _
    rw [ih, instr?_perform, instrs_perform, List.append_assoc]
    cases h : (r.instr? a).toOption <;> simp [h]

theorem instrs_performEach_append (r : Recorder) (as bs : List Action) :
    (r.performEach (as ++ bs)).2.instrs =
      (r.performEach as).2.instrs ++ bs.filterMap fun a => (r.instr? a).toOption := by
  rw [instrs_performEach, instrs_performEach, List.filterMap_append, List.append_assoc]

/-- What a new recorder answers to some calls, and what it holds after them. -/
structure Exact (caps : WidthCaps) (run : Nat) (as : List Action)
    (answers : List (Except BuildError Instr)) (r : Recorder) : Prop where
  length : answers.length = as.length
  /-- A numeric call returns what it returns on a standalone operand. -/
  numeric : ∀ (n : Nat) ty request, as[n]? = some (.numeric ty request) → ∀ role name,
    answers[n]? = some (Operand.instr? { ty, role, name, caps } request)
  runNumber : ∀ (n : Nat) ty, as[n]? = some (.runNumber ty) → ∀ role name,
    answers[n]? = some (Operand.instr? { ty, role, name, caps } (.const (.int run)))
  indexed : ∀ (n : Nat) op index, as[n]? = some (.indexed op index) →
    answers[n]? = some (.ok (.indexed op index))
  bare : ∀ (n : Nat) op, as[n]? = some (.bare op) → answers[n]? = some (.ok (.bare op))
  /-- A call that is accepted adds the instruction that it returns at the end, and one that is
  refused changes nothing. -/
  step : ∀ before a after, as = before ++ a :: after → ∃ answer,
    answers[before.length]? = some answer ∧
      (performEach { caps, run } (before ++ [a])).2.instrs =
        match answer with
        | .ok i => (performEach { caps, run } before).2.instrs ++ [i]
        | .error _ => (performEach { caps, run } before).2.instrs
  /-- The accepted calls in order, and nothing else. -/
  log : r.instrs = answers.filterMap Except.toOption
  earlier : ∀ before after, as = before ++ after →
    (performEach { caps, run } before).2.instrs <+: r.instrs

/-- **Recording is exact.** -/
theorem exact_performEach (caps : WidthCaps) (run : Nat) (as : List Action) :
    Exact caps run as (performEach { caps, run } as).1 (performEach { caps, run } as).2 := by
  have hanswer : ∀ (n : Nat) a, as[n]? = some a →
      (performEach { caps, run } as).1[n]? = some (instr? { caps, run } a) := by
    intro n a h
    rw [performEach_fst, List.getElem?_map, h]
    rfl
  refine ⟨?_, fun n ty request h role name => hanswer n _ h,
    fun n ty h role name => hanswer n _ h, fun n op index h => hanswer n _ h,
    fun n op h => hanswer n _ h, ?_, ?_, ?_⟩
  · rw [performEach_fst, List.length_map]
  · rintro before a after rfl
    refine ⟨instr? { caps, run } a, hanswer _ a (by simp), ?_⟩
    rw [instrs_performEach_append]
    cases h : instr? { caps, run } a with
    | ok i => simp [h, Except.toOption]
    | error e => simp [h, Except.toOption]
  · rw [instrs_performEach, performEach_fst, List.filterMap_map]
    rfl
  · rintro before after rfl
    rw [instrs_performEach_append]
    exact List.prefix_append _ _

end WatText.Recorder
