import Mathlib.Data.List.Basic
import WatText.Proofs.Func.Runs
import WatText.Proofs.Recorder

/-!
# Runs under wider limits

`Func.widened_outcome`: raising the width limits never takes anything from a run. What went well
goes well again and records at least the same, a failure that is not about a limit stays the same
failure, and a failure about a limit is that of a width which is in order but for the limit.

The limits are looked at in one place only, after every other check of a width
(`WidthCaps.widens_requireWidth`). So an answer under wider limits differs from the one before only
if that was a width above its limit (`Widens`), and this is kept by all that is built on the check:
requests, actions and whole runs.
-/

namespace WatText

/-- Limits are at most others if both of them are. -/
instance : LE WidthCaps :=
  ⟨fun c c' => c.i32 ≤ c'.i32 ∧ c.i64 ≤ c'.i64⟩

namespace BuildError

/-- Whether an error is about a limit. -/
def IsOutOfRange : BuildError → Prop
  | outOfRange _ _ _ _ => True
  | invalidArgument _ | invalidOperand _ _ | unsupported _ _ | notAFunction _ => False

/-- Whether an error is that of a width which only the limit of its type refuses. -/
def TooWide (c : WidthCaps) : BuildError → Prop
  | outOfRange _ ty bits max =>
    ty.isInteger = true ∧ 0 < bits ∧ bits % 8 = 0 ∧ c.maxBits? ty = some max ∧ max < bits
  | invalidArgument _ | invalidOperand _ _ | unsupported _ _ | notAFunction _ => False

theorem TooWide.isOutOfRange {c : WidthCaps} {e : BuildError} (h : e.TooWide c) :
    e.IsOutOfRange := by
  cases e with
  | outOfRange op ty bits max => trivial
  | _ => exact h

end BuildError

/-- What an answer under the limits `c` may become under wider ones. -/
inductive Widens (c : WidthCaps) {α : Type} : Except BuildError α → Except BuildError α → Prop where
  | ok (a : α) : Widens c (.ok a) (.ok a)
  | error (e : BuildError) (h : ¬e.IsOutOfRange) : Widens c (.error e) (.error e)
  | tooWide (e : BuildError) (h : e.TooWide c) (y : Except BuildError α) : Widens c (.error e) y

namespace Widens

variable {c : WidthCaps} {α β : Type}

theorem bind {x y : Except BuildError α} (h : Widens c x y) {g g' : α → Except BuildError β}
    (hg : ∀ a, Widens c (g a) (g' a)) : Widens c (x >>= g) (y >>= g') := by
  cases h with
  | ok a => exact hg a
  | error e h => exact .error e h
  | tooWide e h y => exact .tooWide e h _

theorem map {x y : Except BuildError α} (h : Widens c x y) (g : α → β) :
    Widens c (x.map g) (y.map g) := by
  cases h with
  | ok a => exact .ok (g a)
  | error e h => exact .error e h
  | tooWide e h y => exact .tooWide e h _

end Widens

/-! ## Checks that look at no limit -/

theorem SignFlag.widens_resolve (c : WidthCaps) (site : OperandSite) (flag : SignFlag) :
    Widens c (flag.resolve site) (flag.resolve site) := by
  cases flag with
  | sign s => exact .ok s
  | text t =>
    unfold resolve
    dsimp only
    cases Sign.ofText? t with
    | some s => exact .ok s
    | none => exact .error _ id

theorem NumType.widens_requireOp (c : WidthCaps) (ty : NumType) (op : NumOp) :
    Widens c (ty.requireOp op) (ty.requireOp op) := by
  unfold requireOp
  split
  · exact .ok ()
  · exact .error _ id

/-! ## The check of a width -/

theorem WidthCaps.maxBits?_le {c c' : WidthCaps} (h : c ≤ c') {ty : NumType} {max : UInt32}
    (hmax : c.maxBits? ty = some max) : ∃ max', c'.maxBits? ty = some max' ∧ max ≤ max' := by
  cases ty with
  | i32 => cases hmax; exact ⟨_, rfl, h.1⟩
  | i64 => cases hmax; exact ⟨_, rfl, h.2⟩
  | f32 | f64 => cases hmax

/-- The limit is looked at last. -/
theorem WidthCaps.widens_requireWidth {c c' : WidthCaps} (h : c ≤ c') (ty : NumType) (op : NumOp)
    (bits : UInt32) : Widens c (c.requireWidth ty op bits) (c'.requireWidth ty op bits) := by
  unfold requireWidth
  refine (ty.widens_requireOp c op).bind fun _ => ?_
  by_cases hbits : bits = 0 ∨ bits % 8 ≠ 0
  · simp only [hbits, if_true]
    exact .error _ id
  · simp only [hbits, if_false]
    cases hmax : c.maxBits? ty with
    | none =>
      have hmax' : c'.maxBits? ty = none := by
        rw [← Option.isNone_iff_eq_none, ← Option.not_isSome, isSome_maxBits?, ← c.isSome_maxBits?,
          hmax]
        rfl
      rw [hmax']
      exact .error _ id
    | some max =>
      obtain ⟨max', hmax', hle⟩ := maxBits?_le h hmax
      rw [hmax']
      by_cases hfit : bits ≤ max
      · have hfit' : bits ≤ max' := UInt32.le_trans hfit hle
        simp only [hfit, hfit', if_true]
        exact .ok ()
      · simp only [hfit, if_false]
        rw [not_or, Decidable.not_not] at hbits
        have hint : ty.isInteger = true := by rw [← c.isSome_maxBits?, hmax]; rfl
        have hwide : (BuildError.outOfRange op ty bits max).TooWide c :=
          ⟨hint, UInt32.pos_iff_ne_zero.2 hbits.1, hbits.2, hmax, UInt32.not_le.1 hfit⟩
        exact .tooWide _ hwide _

/-! ## Requests and actions -/

theorem Request.widens_resolveLoad {c c' : WidthCaps} (h : c ≤ c') (ty : NumType)
    (bits : Option UInt32) (sign : Option Sign) :
    Widens c (resolveLoad ty c bits sign) (resolveLoad ty c' bits sign) := by
  cases bits with
  | none =>
    cases sign with
    | none => exact .ok _
    | some sign => exact .error _ id
  | some bits =>
    cases sign with
    | none => exact .error _ id
    | some sign => exact (c.widens_requireWidth h ty .sizedLoad bits).bind fun _ => .ok _

theorem Request.widens_resolve {c c' : WidthCaps} (h : c ≤ c') (ty : NumType) (request : Request) :
    Widens c (request.resolve ty c) (request.resolve ty c') := by
  cases request with
  | add | sub | mul => exact .ok _
  | const value => exact .ok _
  | div flag =>
    exact (flag.widens_resolve c _).bind fun _ => (ty.widens_requireOp c _).bind fun _ => .ok _
  | rem flag =>
    exact (ty.widens_requireOp c _).bind fun _ => (flag.widens_resolve c _).bind fun _ => .ok _
  | load bits flag =>
    cases flag with
    | none => exact widens_resolveLoad h ty bits none
    | some flag =>
      exact (flag.widens_resolve c _).bind fun sign => widens_resolveLoad h ty bits (some sign)
  | store bits =>
    cases bits with
    | none => exact .ok _
    | some bits => exact (WidthCaps.widens_requireWidth h ty .sizedStore bits).bind fun _ => .ok _

namespace Recorder

theorem widens_instr? {c c' : WidthCaps} (h : c ≤ c') (run : Nat) (a : Action) :
    Widens c (instr? { caps := c, run } a) (instr? { caps := c', run } a) := by
  cases a with
  | indexed op index => exact .ok _
  | bare op => exact .ok _
  | numeric ty request => exact (request.widens_resolve h ty).map _
  | runNumber ty => exact .ok _

/-! ## Whole runs -/

section Runs

variable {c c' : WidthCaps} (h : c ≤ c') (run : Nat)

include h

theorem accepted_sublist (steps : List Step) :
    (accepted { caps := c, run } steps).Sublist (accepted { caps := c', run } steps) := by
  unfold accepted
  induction steps with
  | nil => exact List.Sublist.slnil
  | cons step steps ih =>
    have hw := widens_instr? h run step.action
    rw [List.filterMap_cons, List.filterMap_cons]
    generalize instr? { caps := c, run } step.action = x at hw ⊢
    generalize instr? { caps := c', run } step.action = y at hw ⊢
    cases hw with
    | ok i => exact ih.cons_cons i
    | error e _ => exact ih
    | tooWide e _ y =>
      -- what was caught may be recorded now
      cases y with
      | ok i => exact ih.cons i
      | error e' => exact ih

/-- Steps that were all accepted ask for the same as before. -/
theorem accepted_eq {steps : List Step}
    (hall : ∀ step ∈ steps, ∃ i, instr? { caps := c, run } step.action = .ok i) :
    accepted { caps := c', run } steps = accepted { caps := c, run } steps := by
  unfold accepted
  apply List.filterMap_congr
  intro step hs
  obtain ⟨i, hi⟩ := hall step hs
  have hw := widens_instr? h run step.action
  rw [hi] at hw ⊢
  generalize instr? { caps := c', run } step.action = y at hw ⊢
  cases hw
  rfl

theorem failure?_eq_none {step : Step} (hs : failure? { caps := c, run } step = none) :
    failure? { caps := c', run } step = none := by
  have hw := widens_instr? h run step.action
  unfold failure? at hs ⊢
  generalize instr? { caps := c, run } step.action = x at hw hs
  generalize instr? { caps := c', run } step.action = y at hw ⊢
  cases hw with
  | ok i => rfl
  | error e _ => exact hs
  | tooWide e _ y =>
    cases y with
    | ok i => rfl
    | error e' =>
      -- the step is caught, because its failure did not end the run before
      cases hc : step.caught with
      | true => rfl
      | false => rw [hc] at hs; cases hs

theorem failure?_eq_some {step : Step} {e : BuildError}
    (hs : failure? { caps := c, run } step = some e) :
    e.TooWide c ∨ ¬e.IsOutOfRange ∧ failure? { caps := c', run } step = some e := by
  have hw := widens_instr? h run step.action
  unfold failure? at hs ⊢
  generalize instr? { caps := c, run } step.action = x at hw hs
  generalize instr? { caps := c', run } step.action = y at hw ⊢
  cases hc : step.caught with
  | true =>
    rw [hc] at hs
    cases x <;> cases hs
  | false =>
    rw [hc] at hs
    cases hw with
    | ok i => cases hs
    | error e' he => cases hs; exact .inr ⟨he, rfl⟩
    | tooWide e' he y => cases hs; exact .inl he

theorem play_fst_eq_none {steps : List Step}
    (hs : (play { caps := c, run } steps).1 = none) :
    (play { caps := c', run } steps).1 = none := by
  rw [play_fst] at hs ⊢
  rw [List.findSome?_eq_none_iff] at hs ⊢
  exact fun step hstep => failure?_eq_none h run (hs step hstep)

theorem play_fst_eq_some {steps : List Step} {e : BuildError}
    (hs : (play { caps := c, run } steps).1 = some e) :
    e.TooWide c ∨ ¬e.IsOutOfRange ∧ (play { caps := c', run } steps).1 = some e := by
  rw [play_fst] at hs ⊢
  obtain ⟨before, step, after, rfl, hstep, hbefore⟩ := List.findSome?_eq_some_iff.1 hs
  rcases failure?_eq_some h run hstep with hwide | ⟨he, hstep'⟩
  · exact .inl hwide
  · -- the steps before the failing one still do not end the run
    refine .inr ⟨he, List.findSome?_eq_some_iff.2 ⟨before, step, after, rfl, hstep', ?_⟩⟩
    exact fun s hs => failure?_eq_none h run (hbefore s hs)

end Runs

end Recorder

namespace Func

/-- What a run of a body does under some limits and under wider ones. -/
structure Widened (f : Func) (body : Body) (run : Nat) (c c' : WidthCaps) : Prop where
  /-- A run that goes well goes well again and records at least the same in the same order, and
  nothing else unless a failure was caught. -/
  succeeds : ∀ instrs, (f.withCaps c).outcome body run = (none, instrs) →
    ∃ instrs', (f.withCaps c').outcome body run = (none, instrs') ∧ instrs.Sublist instrs' ∧
      ((∀ step ∈ body.script, ∃ i, Recorder.instr? { caps := c, run } step.action = .ok i) →
        instrs' = instrs)
  /-- A failure that is about no limit stays. -/
  fails : ∀ e, ((f.withCaps c).outcome body run).1 = some e → ¬e.IsOutOfRange →
    ((f.withCaps c').outcome body run).1 = some e
  /-- A failure about a limit is that of a width which is in order but for the limit. -/
  outOfRange : ∀ op ty bits max,
    ((f.withCaps c).outcome body run).1 = some (.outOfRange op ty bits max) →
    ty.isInteger = true ∧ 0 < bits ∧ bits % 8 = 0 ∧ c.maxBits? ty = some max ∧ max < bits
  /-- The run with this number is what recording the function comes to. -/
  record : ∀ caps j, f.body = some body → j.runs.count body.counter + 1 = run →
    ((f.withCaps caps).record j).1 = match (f.withCaps caps).outcome body run with
      | (none, instrs) => .ok (some instrs)
      | (some e, _) => .error e

/-- **Raising the limits.** -/
theorem widened_outcome (f : Func) (body : Body) (run : Nat) {c c' : WidthCaps} (h : c ≤ c') :
    Widened f body run c c' where
  succeeds := by
    intro instrs hrun
    have hfst : (Recorder.play { caps := c, run } body.script).1 = none := congrArg Prod.fst hrun
    have hfst' := Recorder.play_fst_eq_none h run hfst
    -- both runs reach every step
    have hsnd : instrs = Recorder.accepted { caps := c, run } body.script :=
      (congrArg Prod.snd hrun).symm.trans (Recorder.instrs_play_of_fst_eq_none hfst)
    subst hsnd
    refine ⟨Recorder.accepted { caps := c', run } body.script, ?_,
      Recorder.accepted_sublist h run body.script, Recorder.accepted_eq h run⟩
    exact Prod.ext hfst' (Recorder.instrs_play_of_fst_eq_none hfst')
  fails := by
    intro e hrun he
    rcases Recorder.play_fst_eq_some h run hrun with hwide | ⟨-, hrun'⟩
    · exact absurd hwide.isOutOfRange he
    · exact hrun'
  outOfRange := by
    intro op ty bits max hrun
    rcases Recorder.play_fst_eq_some h run hrun with hwide | ⟨he, -⟩
    · exact hwide
    · exact absurd trivial he
  record := by
    rintro caps j hbody rfl
    have hnext : (f.withCaps caps).nextRun j.runs =
        (f.withCaps caps).outcome body (j.runs.count body.counter + 1) := by
      unfold nextRun withCaps
      rw [hbody]
    rw [record_run, hnext]
    rcases (f.withCaps caps).outcome body _ with ⟨_ | e, instrs⟩
    · show Except.ok (f.body.map fun _ => instrs) = .ok (some instrs)
      rw [hbody]
      rfl
    · rfl

/-- A load that may be too wide, where the body goes on in any case. -/
def wideBody : Body where
  counter := 0
  script := [
    { action := .numeric .i32 (.load (some 24) (some (.sign .signed))), caught := true },
    { action := .runNumber .i64 }]

/-- A failure that was caught becomes an instruction. -/
theorem widened_wideBody :
    ({} : WidthCaps) ≤ { i32 := 32, i64 := 64 } ∧
      (withCaps { name := "$f", body := some wideBody } {}).outcome wideBody 1 =
        (none, [.numeric .i64 (.const (.int 1))]) ∧
      (withCaps { name := "$f", body := some wideBody } { i32 := 32, i64 := 64 }).outcome
        wideBody 1 =
        (none, [.numeric .i32 (.sizedLoad 24 .signed), .numeric .i64 (.const (.int 1))]) ∧
      Widened { name := "$f", body := some wideBody } wideBody 1 {} { i32 := 32, i64 := 64 } := by
  have hle : ({} : WidthCaps) ≤ { i32 := 32, i64 := 64 } := ⟨by decide, by decide⟩
  exact ⟨hle, rfl, rfl, widened_outcome _ wideBody 1 hle⟩

end Func

end WatText
