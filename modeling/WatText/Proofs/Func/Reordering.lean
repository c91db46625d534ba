import WatText.Proofs.Func.Alike
import WatText.Proofs.Func.Growth

/-!
# Building steps in another order

`FuncPlan.reordered_build`: what is built depends on the declaring steps in their order, on the last
limits and on the last body, and not on how they stand among each other. Two plans that agree in
these build functions with one signature, one set of limits and one script, which have not been run
and answer every question alike from then on.

A body is stored when it is set and run when the function is asked, so a step acts only on the part
of the function that it is about (`Func.signature_grownBy`, `Func.caps_grownBy`,
`Func.script_grownBy`).
-/

namespace WatText

namespace Extension

/-- The declaring step, if it is one. -/
def declaration? : Extension → Option Declaration
  | declare d => some d
  | caps _ | body _ => none

/-- The limits that a step sets, if it does. -/
def caps? : Extension → Option WidthCaps
  | caps c => some c
  | declare _ | body _ => none

/-- The body that a step sets, if it does. -/
def script? : Extension → Option (List Step)
  | body script => some script
  | declare _ | caps _ => none

/-- The declaring steps, in order. -/
def declarations (es : List Extension) : List Declaration :=
  es.filterMap declaration?

/-- The limits that were set last. -/
def lastCaps? (es : List Extension) : Option WidthCaps :=
  (es.filterMap caps?).getLast?

/-- The body that was set last. -/
def lastScript? (es : List Extension) : Option (List Step) :=
  (es.filterMap script?).getLast?

/-- A later choice overrules an earlier one. -/
theorem getLast?_filterMap_cons {β : Type} (g : Extension → Option β) (e : Extension)
    (es : List Extension) :
    ((e :: es).filterMap g).getLast? = (es.filterMap g).getLast?.or (g e) := by
  cases he : g e with
  | none => simp [he]
  | some b => cases hes : (es.filterMap g).getLast? <;> simp [he, List.getLast?_cons, hes]

end Extension

/-! ## What some steps come to -/

namespace Func

theorem signature_grownBy (f : Func) (counter : Nat) (es : List Extension) :
    (f.grownBy counter es).signature =
      (Extension.declarations es).foldl Signature.declare f.signature := by
  induction es generalizing f counter with
  | nil => rfl
  | cons e es ih =>
    rw [grownBy, ih]
    cases e <;> rfl

theorem caps_grownBy (f : Func) (counter : Nat) (es : List Extension) :
    (f.grownBy counter es).caps = (Extension.lastCaps? es).getD f.caps := by
  induction es generalizing f counter with
  | nil => rfl
  | cons e es ih =>
    have hone : (f.grown counter e).caps = e.caps?.getD f.caps := by cases e <;> rfl
    unfold Extension.lastCaps? at ih ⊢
    rw [grownBy, ih, hone, Extension.getLast?_filterMap_cons, Option.getD_or]

theorem script_grownBy (f : Func) (counter : Nat) (es : List Extension) :
    (f.grownBy counter es).body.map Body.script =
      (Extension.lastScript? es).or (f.body.map Body.script) := by
  induction es generalizing f counter with
  | nil => rfl
  | cons e es ih =>
    have hone : (f.grown counter e).body.map Body.script =
        e.script?.or (f.body.map Body.script) := by cases e <;> rfl
    unfold Extension.lastScript? at ih ⊢
    rw [grownBy, ih, hone, Extension.getLast?_filterMap_cons, Option.or_assoc]

/-- New bodies get counters that were not handed out. -/
theorem counter_grownBy {f : Func} {counter : Nat} {es : List Extension} {body : Body}
    (h : (f.grownBy counter es).body = some body) :
    f.body = some body ∨ counter ≤ body.counter := by
  induction es generalizing f counter with
  | nil => exact .inl h
  | cons e es ih =>
    rcases ih h with hone | hlater
    · cases e with
      | declare d => exact .inl hone
      | caps c => exact .inl hone
      | body script =>
        cases hone
        exact .inr (Nat.le_refl counter)
    · exact .inr (Nat.le_trans (Nat.le_add_right _ _) hlater)

end Func

/-- What recording the function of a plan comes to in the run with a number: the last body is run
under the last limits. -/
def FuncPlan.recording (p : FuncPlan) (run : Nat) : Except BuildError (Option (List Instr)) :=
  match Extension.lastScript? p.extensions with
  | none => .ok none
  | some script =>
    match Recorder.play { caps := (Extension.lastCaps? p.extensions).getD {}, run } script with
    | (none, r) => .ok (some r.instrs)
    | (some e, _) => .error e

/-- What the function of a plan is, with the journal that building it left. -/
structure FuncPlan.Makes (p : FuncPlan) (f : Func) (last : Journal) : Prop where
  name : f.name = p.name
  signature : f.signature = (Extension.declarations p.extensions).foldl Signature.declare
    (.ofDeclarations p.declarations)
  caps : f.caps = (Extension.lastCaps? p.extensions).getD {}
  script : f.body.map Body.script = Extension.lastScript? p.extensions
  /-- Nothing is run to build it. -/
  unused : f.runsSoFar last.runs = 0

namespace FuncPlan

variable {p p' : FuncPlan} {f : Func} {last : Journal}

theorem makes_of_build {j : Journal} (h : p.build j = (.ok f, last)) : p.Makes f last := by
  rw [build_eq] at h
  split at h
  · cases h
  · cases h
    refine ⟨Func.name_grownBy _ _ _, Func.signature_grownBy _ _ _, Func.caps_grownBy _ _ _, ?_, ?_⟩
    · rw [Func.script_grownBy]
      exact Option.or_none
    · unfold Func.runsSoFar
      split
      · rfl
      · next body hbody =>
        show (Tally.reserve^[_] j.runs).count body.counter = 0
        rw [Tally.count_iterate_reserve]
        rcases Func.counter_grownBy hbody with hold | hfresh
        · cases hold
        · exact Tally.count_eq_zero_of_fresh_le hfresh

/-- The limits of the function govern its body, whether they were set before or after it. -/
theorem Makes.record_fst (h : p.Makes f last) (j : Journal) :
    (f.record j).1 = p.recording (f.runsSoFar j.runs + 1) := by
  have hscript := h.script
  rw [Func.record_run]
  unfold recording Func.nextRun Func.runsSoFar Func.outcome
  rw [← hscript, ← h.caps]
  cases f.body with
  | none => rfl
  | some body =>
    dsimp only [Option.map_some]
    rcases Recorder.play _ body.script with ⟨_ | e, r⟩ <;> rfl

end FuncPlan

/-! ## Steps in another order -/

/-- Whether two plans declare the same in the same order and set the same limits and the same body
last, wherever these steps stand. -/
structure FuncPlan.Reordered (p p' : FuncPlan) : Prop where
  name : p.name = p'.name
  signature : Signature.ofDeclarations p.declarations = .ofDeclarations p'.declarations
  declarations : Extension.declarations p.extensions = Extension.declarations p'.extensions
  caps : Extension.lastCaps? p.extensions = Extension.lastCaps? p'.extensions
  script : Extension.lastScript? p.extensions = Extension.lastScript? p'.extensions

/-- What two functions have in common that cannot be told apart, with the journals that building
them left. -/
structure Func.Interchangeable (f f' : Func) (last last' : Journal) : Prop where
  name : f.name = f'.name
  signature : f.signature = f'.signature
  caps : f.caps = f'.caps
  script : f.body.map Body.script = f'.body.map Body.script
  unused : f.runsSoFar last.runs = 0 ∧ f'.runsSoFar last'.runs = 0
  /-- After equally many runs every question has the same answer and notes the same events, and
  there have been equally many runs again. -/
  inspect : ∀ (i : Inspection) (j j' : Journal), f.runsSoFar j.runs = f'.runsSoFar j'.runs →
    (f.inspect i j).1 = (f'.inspect i j').1 ∧
    (∃ events, (f.inspect i j).2.events = j.events ++ events ∧
      (f'.inspect i j').2.events = j'.events ++ events) ∧
    f.runsSoFar (f.inspect i j).2.runs = f'.runsSoFar (f'.inspect i j').2.runs
  /-- So it is for any number of questions one after another. -/
  run : ∀ (w w' : Workspace) (key key' : String) (is : List Inspection) (j j' : Journal),
    w.funcs.get? key = some f → w'.funcs.get? key' = some f' →
    f.runsSoFar j.runs = f'.runsSoFar j'.runs →
    (w.run j (is.map (.inspect key))).1 = (w'.run j' (is.map (.inspect key'))).1

theorem Func.describe_eq {f f' : Func} (hname : f.name = f'.name)
    (hsignature : f.signature = f'.signature) (hcaps : f.caps = f'.caps)
    (hscript : f.body.map Body.script = f'.body.map Body.script) : f.describe = f'.describe := by
  have hsome : f.body.isSome = f'.body.isSome := by
    simpa using congrArg Option.isSome hscript
  unfold describe
  rw [hname, hsignature, hcaps, hsome]

namespace FuncPlan

variable {p p' : FuncPlan} {f f' : Func} {last last' : Journal}

theorem Reordered.interchangeable (h : p.Reordered p') (hf : p.Makes f last)
    (hf' : p'.Makes f' last') : f.Interchangeable f' last last' := by
  have hname : f.name = f'.name := by rw [hf.name, hf'.name, h.name]
  have hsignature : f.signature = f'.signature := by
    rw [hf.signature, hf'.signature, h.declarations, h.signature]
  have hcaps : f.caps = f'.caps := by rw [hf.caps, hf'.caps, h.caps]
  have hscript : f.body.map Body.script = f'.body.map Body.script := by
    rw [hf.script, hf'.script, h.script]
  have halike : f.Alike f' := ⟨hname, by rw [hsignature], hcaps, hscript⟩
  have hdescribe := Func.describe_eq hname hsignature hcaps hscript
  refine ⟨hname, hsignature, hcaps, hscript, ⟨hf.unused, hf'.unused⟩, fun i j j' hr => ?_,
    fun w w' key key' is j j' hw hw' hr => ?_⟩
  · obtain ⟨hanswer, hevents⟩ := halike.inspect hr fun _ => hdescribe
    exact ⟨hanswer, hevents, halike.runsSoFar_inspect hr i⟩
  · exact halike.run_inspections hw hw' is (fun _ _ _ => hdescribe) hr

/-- **The order of unrelated steps is irrelevant.** Plans that agree in the declaring steps, in the
last limits and in the last body are both refused for want of a name, or they build functions that
cannot be told apart, where the last limits govern what the last body records. -/
theorem reordered_build (h : p.Reordered p') (j j' : Journal) :
    (p.name = "" ∧ p.build j = (.error (.invalidArgument .emptyFunctionName), j) ∧
      p'.build j' = (.error (.invalidArgument .emptyFunctionName), j')) ∨
    ∃ f f' last last', p.build j = (.ok f, last) ∧ p'.build j' = (.ok f', last') ∧
      f.Interchangeable f' last last' ∧
      ∀ k, (f.record k).1 = p.recording (f.runsSoFar k.runs + 1) := by
  by_cases hname : p.name = ""
  · have hname' : p'.name = "" := by rw [← h.name, hname]
    rw [build_eq, build_eq, if_pos hname, if_pos hname']
    exact .inl ⟨hname, rfl, rfl⟩
  · have hname' : p'.name ≠ "" := by rwa [← h.name]
    have hbuild := build_eq p j
    have hbuild' := build_eq p' j'
    rw [if_neg hname] at hbuild
    rw [if_neg hname'] at hbuild'
    have hmakes := makes_of_build hbuild
    exact .inr ⟨_, _, _, _, hbuild, hbuild', h.interchangeable hmakes (makes_of_build hbuild'),
      hmakes.record_fst⟩

/-- A body with a load that the default limits refuse. -/
def sizedScript : List Step :=
  [{ action := .numeric .i32 (.load (some 24) (some (.sign .signed))) },
    { action := .runNumber .i64 }]

/-- A plan that sets the limits before the body. -/
def capsFirst : FuncPlan where
  name := "$f"
  extensions := [.caps { i32 := 8, i64 := 8 }, .declare (.param { ty := .i32 }),
    .caps { i32 := 32, i64 := 32 }, .declare (.result { ty := .i64 }), .body sizedScript]

/-- A plan that sets a body, another one in its place, and the limits at the end. -/
def capsLast : FuncPlan where
  name := "$f"
  extensions := [.body [], .declare (.param { ty := .i32 }), .body sizedScript,
    .declare (.result { ty := .i64 }), .caps { i32 := 32, i64 := 32 }]

/-- Limits that are set after the body let its load through. -/
theorem reordered_capsLast :
    capsLast.Reordered capsFirst ∧
      ∃ f f' last last', capsLast.build {} = (.ok f, last) ∧ capsFirst.build {} = (.ok f', last') ∧
        f.Interchangeable f' last last' ∧
        (f.record last).1 = .ok (some
          [.numeric .i32 (.sizedLoad 24 .signed), .numeric .i64 (.const (.int 1))]) := by
  have hreordered : capsLast.Reordered capsFirst := ⟨rfl, rfl, rfl, rfl, rfl⟩
  refine ⟨hreordered, ?_⟩
  rcases reordered_build hreordered {} {} with ⟨hname, -, -⟩ | ⟨f, f', last, last', hf, hf', h, hr⟩
  · exact absurd hname (by decide)
  · refine ⟨f, f', last, last', hf, hf', h, ?_⟩
    rw [hr, h.unused.1]
    rfl

end FuncPlan

end WatText
