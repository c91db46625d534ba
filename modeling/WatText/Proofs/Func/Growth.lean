import Mathlib.Logic.Function.Iterate
import WatText.Proofs.Func.Counting

/-!
# Functions that are extended

Extending a function makes a new value and sets up a counter for each new body. The counter of a
body is the position at which the body was set up (`Func.SetUpIn`), so that bodies set up at
different times never share a counter, whatever their scripts are.

`Func.extend_run` and `FuncPlan.build_eq` say what extending and building come to from a journal,
and `Func.SetUpIn.grown` that the positions are kept.
-/

namespace WatText

namespace Tally

theorem fresh_reserve (t : Tally) : t.reserve.fresh = t.fresh + 1 := by
  unfold reserve fresh
  rw [List.length_append]
  rfl

theorem fresh_iterate_reserve (t : Tally) (n : Nat) :
    (reserve^[n] t).fresh = t.fresh + n := by
  induction n generalizing t with
  | zero => rfl
  | succ n ih =>
    rw [Function.iterate_succ_apply, ih, fresh_reserve]
    omega

theorem count_iterate_reserve (t : Tally) (n i : Nat) :
    (reserve^[n] t).count i = t.count i := by
  induction n generalizing t with
  | zero => rfl
  | succ n ih => rw [Function.iterate_succ_apply, ih, count_reserve]

theorem count_eq_zero_of_fresh_le {t : Tally} {k : Nat} (h : t.fresh ≤ k) : t.count k = 0 := by
  unfold count
  rw [List.getD_eq_getElem?_getD, List.getElem?_eq_none h]
  rfl

theorem length_bumpAt {k : Nat} {counts : List Nat} (h : k < counts.length) :
    (bumpAt k counts).length = counts.length := by
  induction k generalizing counts with
  | zero =>
    cases counts with
    | nil => cases h
    | cons n rest => rfl
  | succ k ih =>
    cases counts with
    | nil => cases h
    | cons n rest => exact congrArg (· + 1) (ih (Nat.lt_of_succ_lt_succ h))

/-- Counting a number that was handed out hands out nothing. -/
theorem fresh_bump {t : Tally} {k : Nat} (h : k < t.fresh) : (t.bump k).fresh = t.fresh :=
  length_bumpAt h

end Tally

/-- The journal after that many bodies were set up. -/
def Journal.setUp (j : Journal) (n : Nat) : Journal :=
  { j with runs := Tally.reserve^[n] j.runs }

theorem Journal.fresh_runs_setUp (j : Journal) (n : Nat) :
    (j.setUp n).runs.fresh = j.runs.fresh + n :=
  Tally.fresh_iterate_reserve j.runs n

theorem Journal.setUp_setUp (j : Journal) (m n : Nat) :
    (j.setUp m).setUp n = j.setUp (m + n) := by
  unfold setUp
  rw [Nat.add_comm m n, Function.iterate_add_apply]

/-- The bodies that an extension sets up. -/
def Extension.scripts : Extension → List (List Step)
  | .declare _ | .caps _ => []
  | .body script => [script]

/-- The bodies that building a function sets up. A function without a name is not built. -/
def FuncPlan.scripts (p : FuncPlan) : List (List Step) :=
  if p.name = "" then [] else p.extensions.flatMap Extension.scripts

namespace Func

/-- The extended function, where a new body gets the given counter. -/
def grown (f : Func) (counter : Nat) : Extension → Func
  | .declare d => f.declare d
  | .caps caps => f.withCaps caps
  | .body script => f.withBody { counter, script }

/-- The function with several extensions, where new bodies get counters from the given one on. -/
def grownBy (f : Func) (counter : Nat) : List Extension → Func
  | [] => f
  | e :: es => (f.grown counter e).grownBy (counter + e.scripts.length) es

/-- Whether the body of a function, if it has one, was set up at the position of its counter. -/
def SetUpIn (scripts : List (List Step)) (f : Func) : Prop :=
  ∀ body, f.body = some body → scripts[body.counter]? = some body.script

end Func

/-- The function that a plan builds, where its bodies get counters from the given one on. -/
def FuncPlan.built? (p : FuncPlan) (counter : Nat) : Option Func :=
  if p.name = "" then none
  else some (Func.grownBy { name := p.name, signature := .ofDeclarations p.declarations }
    counter p.extensions)

/-! ## What extending and building come to -/

namespace Func

theorem extend_run (f : Func) (e : Extension) (j : Journal) :
    f.extend e j = (.ok (f.grown j.runs.fresh e), j.setUp e.scripts.length) := by
  cases e <;> rfl

theorem foldlM_extend_run (f : Func) (es : List Extension) (j : Journal) :
    es.foldlM extend f j = (.ok (f.grownBy j.runs.fresh es),
      j.setUp (es.flatMap Extension.scripts).length) := by
  induction es generalizing f j with
  | nil => rfl
  | cons e es ih =>
    rw [List.foldlM_cons, bind_run, extend_run]
    dsimp only
    rw [ih, Journal.fresh_runs_setUp, Journal.setUp_setUp, List.flatMap_cons, List.length_append]
    rfl

end Func

/-- **Building a function.** -/
theorem FuncPlan.build_eq (p : FuncPlan) (j : Journal) :
    p.build j = if p.name = "" then (.error (.invalidArgument .emptyFunctionName), j)
      else (.ok (Func.grownBy { name := p.name, signature := .ofDeclarations p.declarations }
        j.runs.fresh p.extensions), j.setUp (p.extensions.flatMap Extension.scripts).length) := by
  unfold build Func.create
  by_cases h : p.name = ""
  · rw [if_pos h, if_pos h]
    rfl
  · rw [if_neg h, if_neg h]
    exact Func.foldlM_extend_run _ p.extensions j

/-- A plan is refused before anything is set up, or it builds its function. -/
theorem FuncPlan.build_cases (p : FuncPlan) (j : Journal) :
    (p.built? j.runs.fresh = none ∧ p.scripts = [] ∧ ∃ e, p.build j = (.error e, j)) ∨
      ∃ f, p.built? j.runs.fresh = some f ∧ p.build j = (.ok f, j.setUp p.scripts.length) := by
  rw [build_eq]
  unfold built? scripts
  by_cases h : p.name = ""
  · rw [if_pos h, if_pos h, if_pos h]
    exact .inl ⟨rfl, rfl, _, rfl⟩
  · rw [if_neg h, if_neg h, if_neg h]
    exact .inr ⟨_, rfl, rfl⟩

namespace Func

/-! ## What extending keeps -/

theorem name_grown (f : Func) (counter : Nat) (e : Extension) :
    (f.grown counter e).name = f.name := by
  cases e <;> rfl

theorem name_grownBy (f : Func) (counter : Nat) (es : List Extension) :
    (f.grownBy counter es).name = f.name := by
  induction es generalizing f counter with
  | nil => rfl
  | cons e es ih => rw [grownBy, ih, name_grown]

/-! ## Counters are positions -/

theorem SetUpIn.append {scripts : List (List Step)} {f : Func} (h : f.SetUpIn scripts)
    (more : List (List Step)) : f.SetUpIn (scripts ++ more) := by
  intro body hbody
  have hat := h body hbody
  rw [List.getElem?_append_left (List.getElem?_eq_some_iff.1 hat).1, hat]

theorem SetUpIn.counter_lt {scripts : List (List Step)} {f : Func} (h : f.SetUpIn scripts)
    {body : Body} (hbody : f.body = some body) : body.counter < scripts.length :=
  (List.getElem?_eq_some_iff.1 (h body hbody)).1

theorem SetUpIn.grown {scripts : List (List Step)} {f : Func} (h : f.SetUpIn scripts)
    (e : Extension) : (f.grown scripts.length e).SetUpIn (scripts ++ e.scripts) := by
  cases e with
  | declare d => exact h.append []
  | caps caps => exact h.append []
  | body script =>
    rintro body ⟨⟩
    exact List.getElem?_concat_length

theorem SetUpIn.grownBy {scripts : List (List Step)} {f : Func} (h : f.SetUpIn scripts)
    (es : List Extension) :
    (f.grownBy scripts.length es).SetUpIn (scripts ++ es.flatMap Extension.scripts) := by
  induction es generalizing f scripts with
  | nil => exact h.append []
  | cons e es ih =>
    have htail := ih (h.grown e)
    rw [List.length_append, List.append_assoc] at htail
    exact htail

end Func

theorem FuncPlan.setUpIn_of_built? {p : FuncPlan} {scripts : List (List Step)} {f : Func}
    (h : p.built? scripts.length = some f) : f.SetUpIn (scripts ++ p.scripts) := by
  unfold built? at h
  unfold FuncPlan.scripts
  split at h
  · cases h
  · next hname =>
    cases h
    rw [if_neg hname]
    exact Func.SetUpIn.grownBy (fun _ hnone => nomatch (show none = some _ from hnone)) p.extensions

/-- Running functions whose bodies were set up sets up none. -/
theorem Func.fresh_countRuns {fs : List Func} {scripts : List (List Step)} {runs : Tally}
    (hruns : runs.fresh = scripts.length) (h : ∀ f ∈ fs, f.SetUpIn scripts) :
    (countRuns fs runs).fresh = scripts.length := by
  induction fs generalizing runs with
  | nil => exact hruns
  | cons f fs ih =>
    suffices hcount : (f.countRun runs).fresh = scripts.length from
      ih hcount fun g hg => h g (List.mem_cons_of_mem f hg)
    unfold countRun
    cases hbody : f.body with
    | none => exact hruns
    | some body =>
      have hlt : body.counter < runs.fresh := hruns ▸ (h f List.mem_cons_self).counter_lt hbody
      exact (Tally.fresh_bump hlt).trans hruns

/-- A function whose body is set up does not have a counter that is still to come. -/
theorem Func.holders_eq_zero_of_setUpIn {fs : List Func} {scripts : List (List Step)}
    (h : ∀ f ∈ fs, f.SetUpIn scripts) {c : Nat} (hc : scripts.length ≤ c) : holders fs c = 0 :=
  holders_eq_zero fun f hf _ hbody =>
    Nat.ne_of_lt (Nat.lt_of_lt_of_le ((h f hf).counter_lt hbody) hc)

end WatText
