import WatText.Proofs.Func.Answers
import WatText.Proofs.Workspace.Questions

/-!
# Many questions to functions

`Workspace.inspected_run`: whatever is asked of the functions of a workspace, in whatever order,
every answer comes from one fresh run, and the questions before it show only in the number of this
run. The number counts the runs of the body through whichever functions have it, so copies of a
function take part in one count.
-/

namespace WatText.Workspace

/-- The functions that some questions run, in order. -/
def runners (w : Workspace) (qs : List (String × Inspection)) : List Func :=
  qs.filterMap fun q => if q.2.runsBody then w.funcs.get? q.1 else none

/-- The answer to the question at a position, and its events. -/
def replyAt (w : Workspace) (runs : Tally) (qs : List (String × Inspection)) (p : Nat) :
    Except BuildError Answer × List Event :=
  match qs[p]?.bind fun q => (w.funcs.get? q.1).map (·, q.2) with
  | none => (.ok .unknown, [])
  | some (f, i) =>
    let number := Func.runNumber runs (w.runners (qs.take p))
    (f.reply number i, f.noted number i)

theorem runners_cons (w : Workspace) (q : String × Inspection) (qs : List (String × Inspection)) :
    w.runners (q :: qs) = w.runners [q] ++ w.runners qs :=
  List.filterMap_append (l := [q])

theorem replyAt_succ (w : Workspace) (runs : Tally) (q : String × Inspection)
    (qs : List (String × Inspection)) (p : Nat) :
    w.replyAt runs (q :: qs) (p + 1) = w.replyAt (Func.countRuns (w.runners [q]) runs) qs p := by
  unfold replyAt
  rw [List.getElem?_cons_succ, List.take_succ_cons, runners_cons, Func.runNumber_countRuns]

/-- The journal after one question. -/
def journalAfter (w : Workspace) (q : String × Inspection) (j : Journal) : Journal where
  runs := Func.countRuns (w.runners [q]) j.runs
  events := j.events ++ (w.replyAt j.runs [q] 0).2

theorem run_cons_inspect (w : Workspace) (q : String × Inspection) (j : Journal)
    (rest : List Command) :
    w.run j (.inspect q.1 q.2 :: rest) =
      ((w.replyAt j.runs [q] 0).1 :: (w.run (w.journalAfter q j) rest).1,
        (w.run (w.journalAfter q j) rest).2) := by
  obtain ⟨key, i⟩ := q
  unfold journalAfter replyAt runners
  cases h : w.funcs.get? key with
  | none =>
    rw [run_inspect_unknown w h]
    cases hi : i.runsBody <;> simp [h, hi, Func.countRuns]
  | some f =>
    have hruns : f.countInspection i j.runs =
        Func.countRuns ([(key, i)].filterMap fun q =>
          if q.2.runsBody then w.funcs.get? q.1 else none) j.runs := by
      unfold Func.countInspection
      cases hi : i.runsBody <;> simp [h, hi, Func.countRuns]
    rw [run_inspect w h, Func.inspect_run, hruns]
    simp [h]

theorem run_inspections (w : Workspace) (j : Journal) (qs : List (String × Inspection)) :
    w.run j (qs.map fun q => .inspect q.1 q.2) =
      ((List.range qs.length).map fun p => (w.replyAt j.runs qs p).1,
        { runs := Func.countRuns (w.runners qs) j.runs
          events := j.events ++ (List.range qs.length).flatMap fun p =>
            (w.replyAt j.runs qs p).2 }) := by
  induction qs generalizing j with
  | nil =>
    show ([], j) = ([], { j with events := j.events ++ [] })
    rw [List.append_nil]
  | cons q qs ih =>
    have hruns : Func.countRuns (w.runners (q :: qs)) j.runs =
        Func.countRuns (w.runners qs) (w.journalAfter q j).runs := by
      rw [runners_cons]
      exact List.foldl_append
    have hreply : ∀ p, w.replyAt (w.journalAfter q j).runs qs p =
        w.replyAt j.runs (q :: qs) (p + 1) := fun p => (w.replyAt_succ j.runs q qs p).symm
    rw [List.map_cons, run_cons_inspect, ih, hruns, List.length_cons, List.range_succ_eq_map,
      List.map_cons, List.map_map, List.flatMap_cons, List.flatMap_map, ← List.append_assoc]
    simp only [hreply]
    rfl

/-- Functions with one body take part in one count. -/
theorem holders_runners {w : Workspace} {qs : List (String × Inspection)} {body : Body}
    (h : ∀ q ∈ qs, ∃ f, w.funcs.get? q.1 = some f ∧ f.body = some body) :
    Func.holders (w.runners qs) body.counter = qs.countP fun q => q.2.runsBody := by
  induction qs with
  | nil => rfl
  | cons q qs ih =>
    obtain ⟨f, hf, hbody⟩ := h q List.mem_cons_self
    rw [runners_cons, Func.holders_append, ih fun q' hq' => h q' (List.mem_cons_of_mem q hq'),
      List.countP_cons, Nat.add_comm]
    congr 1
    unfold runners Func.holders
    cases hq : q.2.runsBody <;> simp [hf, hq, hbody]

/-- What some questions are answered, and the journal after them. -/
structure Inspected (w : Workspace) (j : Journal) (qs : List (String × Inspection))
    (answers : List (Except BuildError Answer)) (last : Journal) : Prop where
  length : answers.length = qs.length
  /-- Every answer is that of one fresh run, of which the questions before it give the number. -/
  answer : ∀ (p : Nat) key i f, qs[p]? = some (key, i) → w.funcs.get? key = some f →
    answers[p]? = some (f.reply (Func.runNumber j.runs (w.runners (qs.take p))) i)
  /-- Without a body no question fails, and there is nothing to record. -/
  bodyless : ∀ (p : Nat) key i f, qs[p]? = some (key, i) → w.funcs.get? key = some f →
    f.body = none → ∃ a, answers[p]? = some (.ok a) ∧ (i = .record → a = .recorded none)
  /-- Every question that has to run a body runs it once, and the others run none. -/
  counts : ∀ c, last.runs.count c = j.runs.count c + Func.holders (w.runners qs) c
  events : last.events = j.events ++
    (List.range qs.length).flatMap fun p => (w.replyAt j.runs qs p).2
  /-- If all that is asked has one body, the runs are numbered one after another. -/
  numbered : ∀ body, (∀ q ∈ qs, ∃ f, w.funcs.get? q.1 = some f ∧ f.body = some body) →
    (∀ p, Func.runNumber j.runs (w.runners (qs.take p)) body.counter =
      j.runs.count body.counter + 1 + (qs.take p).countP fun q => q.2.runsBody) ∧
    last.runs.count body.counter =
      j.runs.count body.counter + qs.countP fun q => q.2.runsBody

/-- **Every answer is one fresh run.** -/
theorem inspected_run (w : Workspace) (j : Journal) (qs : List (String × Inspection)) :
    Inspected w j qs (w.run j (qs.map fun q => .inspect q.1 q.2)).1
      (w.run j (qs.map fun q => .inspect q.1 q.2)).2 := by
  rw [run_inspections]
  have hanswer : ∀ (p : Nat) key i f, qs[p]? = some (key, i) → w.funcs.get? key = some f →
      ((List.range qs.length).map fun p => (w.replyAt j.runs qs p).1)[p]? =
        some (f.reply (Func.runNumber j.runs (w.runners (qs.take p))) i) := by
    intro p key i f hq hf
    have hp : p < qs.length := (List.getElem?_eq_some_iff.1 hq).1
    rw [List.getElem?_map, List.getElem?_range hp]
    unfold replyAt
    simp [hq, hf]
  have hcounts : ∀ c, (Func.countRuns (w.runners qs) j.runs).count c =
      j.runs.count c + Func.holders (w.runners qs) c :=
    fun c => Func.count_countRuns _ _ c
  refine ⟨by simp, hanswer, fun p key i f hq hf hbody => ?_, hcounts, rfl,
    fun body h => ⟨fun p => ?_, ?_⟩⟩
  · obtain ⟨a, ha, hrecord⟩ := Func.exists_reply_of_body_eq_none hbody
      (Func.runNumber j.runs (w.runners (qs.take p))) i
    exact ⟨a, by rw [hanswer p key i f hq hf, ha], hrecord⟩
  · unfold Func.runNumber
    rw [holders_runners fun q hq => h q (List.mem_of_mem_take hq)]
  · exact (hcounts body.counter).trans (by rw [holders_runners h])

end WatText.Workspace
