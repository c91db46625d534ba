import Mathlib.Data.List.Basic
import WatText.Proofs.Func.Runs

/-!
# Runs that are counted

When functions are run one after another, the run at a position has the number that its counter
gives: the runs before all of them, one, and the functions before it that have the same body
(`Func.runNumber`). `Func.runAt` is what it does.

`Func.mapM_toNode_run` renders functions of which none fails, `Func.mapM_toNode_run_of_failure`
renders functions up to the first that fails. Either way the journal is that of exactly the runs
that were made, in the order of the functions.
-/

namespace WatText.Func

/-- How many of some functions have the body with a counter. -/
def holders (fs : List Func) (counter : Nat) : Nat :=
  fs.countP fun f => f.body.any fun body => body.counter == counter

/-- The number that the next run of a counter has, after some functions were run. -/
def runNumber (runs : Tally) (fs : List Func) (counter : Nat) : Nat :=
  runs.count counter + 1 + holders fs counter

/-- What a run of the body does when the runs of the counters have the given numbers: the failure
that ends it, if one does, and the instructions recorded by then. -/
def runAs (f : Func) (number : Nat → Nat) : Option BuildError × List Instr :=
  match f.body with
  | none => (none, [])
  | some body => f.outcome body (number body.counter)

/-- What the run at a position does when some functions are run one after another. -/
def runAt (fs : List Func) (runs : Tally) (k : Nat) : Option BuildError × List Instr :=
  match fs[k]? with
  | none => (none, [])
  | some f => f.runAs (runNumber runs (fs.take k))

/-! ## Counts -/

theorem holders_append (fs gs : List Func) (c : Nat) :
    holders (fs ++ gs) c = holders fs c + holders gs c :=
  List.countP_append

theorem holders_cons (f : Func) (fs : List Func) (c : Nat) :
    holders (f :: fs) c = holders [f] c + holders fs c :=
  holders_append [f] fs c

/-- Functions that all have other counters do not have this one. -/
theorem holders_eq_zero {fs : List Func} {c : Nat}
    (h : ∀ f ∈ fs, ∀ body, f.body = some body → body.counter ≠ c) : holders fs c = 0 := by
  unfold holders
  rw [List.countP_eq_zero]
  intro f hf hany
  cases hbody : f.body with
  | none => rw [hbody] at hany; cases hany
  | some body =>
    rw [hbody] at hany
    exact h f hf body hbody (beq_iff_eq.1 hany)

theorem count_countRun (f : Func) (runs : Tally) (c : Nat) :
    (f.countRun runs).count c = runs.count c + holders [f] c := by
  unfold countRun holders
  cases hb : f.body with
  | none => simp [hb]
  | some body =>
    rw [Tally.count_bump]
    by_cases h : c = body.counter
    · simp [hb, h]
    · simp [hb, h, Ne.symm h]

/-- The runs after one more run of each of some functions. -/
def countRuns (fs : List Func) (runs : Tally) : Tally :=
  fs.foldl (fun runs f => f.countRun runs) runs

theorem count_countRuns (fs : List Func) (runs : Tally) (c : Nat) :
    (countRuns fs runs).count c = runs.count c + holders fs c := by
  induction fs generalizing runs with
  | nil => rfl
  | cons f fs ih =>
    show (countRuns fs (f.countRun runs)).count c = _
    rw [ih, count_countRun, holders_cons f fs]
    omega

theorem runNumber_countRuns (fs gs : List Func) (runs : Tally) :
    runNumber (countRuns fs runs) gs = runNumber runs (fs ++ gs) := by
  funext c
  unfold runNumber
  rw [count_countRuns, holders_append]
  omega

theorem runNumber_congr {runs runs' : Tally} (h : ∀ c, runs.count c = runs'.count c)
    (fs : List Func) : runNumber runs fs = runNumber runs' fs := by
  funext c
  unfold runNumber
  rw [h]

/-- What some functions do, one after another, depends on the runs so far only through their
counts. -/
theorem playEach_congr {runs runs' : Tally} (h : ∀ c, runs.count c = runs'.count c)
    (fs : List Func) : playEach fs runs = playEach fs runs' := by
  induction fs generalizing runs runs' with
  | nil => rfl
  | cons f fs ih =>
    have hnext : f.nextRun runs = f.nextRun runs' := congrArg f.runAs (runNumber_congr h [])
    have hfs : playEach fs (f.countRun runs) = playEach fs (f.countRun runs') :=
      ih fun c => by rw [count_countRun, count_countRun, h]
    rw [playEach, playEach, hnext, hfs]

/-! ## One position after another -/

theorem nextRun_eq (f : Func) (runs : Tally) : f.nextRun runs = f.runAs (runNumber runs []) := rfl

theorem runAt_succ (f : Func) (fs : List Func) (runs : Tally) (k : Nat) :
    runAt (f :: fs) runs (k + 1) = runAt fs (f.countRun runs) k := by
  have hnumber : runNumber (f.countRun runs) (fs.take k) = runNumber runs (f :: fs.take k) :=
    runNumber_countRuns [f] (fs.take k) runs
  unfold runAt
  rw [List.getElem?_cons_succ, List.take_succ_cons, hnumber]

/-- The functions behind a position do not matter to it. -/
theorem runAt_take {fs : List Func} {k n : Nat} (h : k < n) (runs : Tally) :
    runAt (fs.take n) runs k = runAt fs runs k := by
  unfold runAt
  rw [List.getElem?_take_of_lt h, List.take_take, Nat.min_eq_left (Nat.le_of_lt h)]

/-- The events of the rendering at a position, if it does not fail. -/
def eventsAt (fs : List Func) (runs : Tally) (k : Nat) : List Event :=
  match fs[k]? with
  | none => []
  | some f => (runAt fs runs k).2.map .recorded ++
      [.functionRendered f.name f.signature.size (runAt fs runs k).2.length]

theorem eventsAt_succ (f : Func) (fs : List Func) (runs : Tally) (k : Nat) :
    eventsAt (f :: fs) runs (k + 1) = eventsAt fs (f.countRun runs) k := by
  unfold eventsAt
  rw [List.getElem?_cons_succ, runAt_succ]

theorem eventsAt_take {fs : List Func} {k n : Nat} (h : k < n) (runs : Tally) :
    eventsAt (fs.take n) runs k = eventsAt fs runs k := by
  unfold eventsAt
  rw [List.getElem?_take_of_lt h, runAt_take h]

/-! ## Renderings one after another -/

/-- The journal after some functions were rendered and did not fail. -/
def journalAfter (fs : List Func) (j : Journal) : Journal where
  runs := countRuns fs j.runs
  events := j.events ++ (List.range fs.length).flatMap (eventsAt fs j.runs)

theorem journalAfter_singleton (f : Func) (j : Journal) :
    journalAfter [f] j =
      { runs := f.countRun j.runs, events := j.events ++ eventsAt [f] j.runs 0 } := by
  unfold journalAfter
  simp [countRuns]

theorem journalAfter_cons (f : Func) (fs : List Func) (j : Journal) :
    journalAfter (f :: fs) j = journalAfter fs (journalAfter [f] j) := by
  have htail : ∀ k ∈ List.range fs.length,
      eventsAt (f :: fs) j.runs (k + 1) = eventsAt fs (f.countRun j.runs) k :=
    fun k _ => eventsAt_succ f fs j.runs k
  rw [journalAfter_singleton]
  unfold journalAfter
  rw [List.length_cons, List.range_succ_eq_map, List.flatMap_cons, List.flatMap_map,
    List.flatMap_congr htail, List.append_assoc]
  rfl

theorem events_journalAfter_take (fs : List Func) {n : Nat} (h : n ≤ fs.length) (j : Journal) :
    (journalAfter (fs.take n) j).events =
      j.events ++ (List.range n).flatMap (eventsAt fs j.runs) := by
  unfold journalAfter
  rw [List.length_take_of_le h]
  exact congrArg (j.events ++ ·) (List.flatMap_congr fun k hk =>
    eventsAt_take (List.mem_range.1 hk) j.runs)

/-- The run after some others is the one at the position behind them. -/
theorem nextRun_journalAfter_take {fs : List Func} {k : Nat} {f : Func} (h : fs[k]? = some f)
    (j : Journal) : f.nextRun (journalAfter (fs.take k) j).runs = runAt fs j.runs k := by
  unfold runAt
  rw [h, nextRun_eq]
  show f.runAs (runNumber (countRuns (fs.take k) j.runs) []) = _
  rw [runNumber_countRuns, List.append_nil]

/-- One rendering that does not fail. -/
theorem toNode_run_ok {f : Func} {j : Journal} (h : (f.nextRun j.runs).1 = none) :
    f.toNode j = (.ok (f.nodeOf (f.nextRun j.runs).2), journalAfter [f] j) := by
  rw [toNode_run, journalAfter_singleton]
  rcases hn : f.nextRun j.runs with ⟨_ | e, instrs⟩
  · have hrun : runAt [f] j.runs 0 = (none, instrs) := hn
    unfold afterRun eventsAt
    simp [hn, hrun, Journal.note]
  · rw [hn] at h
    cases h

/-- One rendering that fails. -/
theorem toNode_run_error {f : Func} {j : Journal} {e : BuildError}
    (h : (f.nextRun j.runs).1 = some e) : f.toNode j = (.error e, f.afterRun j) := by
  rw [toNode_run]
  rcases hn : f.nextRun j.runs with ⟨_ | e', instrs⟩
  · rw [hn] at h
    cases h
  · rw [hn] at h
    cases h
    rfl

/-- **Renderings of which none fails.** -/
theorem mapM_toNode_run (fs : List Func) {j : Journal}
    (h : ∀ k < fs.length, (runAt fs j.runs k).1 = none) :
    fs.mapM toNode j = (.ok (List.zipWith nodeOf fs
      ((List.range fs.length).map fun k => (runAt fs j.runs k).2)), journalAfter fs j) := by
  induction fs generalizing j with
  | nil =>
    show (Except.ok [], j) = (Except.ok [], { j with events := j.events ++ [] })
    rw [List.append_nil]
  | cons f fs ih =>
    have hf : (f.nextRun j.runs).1 = none := h 0 (Nat.succ_pos _)
    -- the others are rendered from the journal that this rendering leaves behind
    have hruns : (journalAfter [f] j).runs = f.countRun j.runs := rfl
    have hfs := ih (j := journalAfter [f] j) fun k hk => by
      rw [hruns, ← runAt_succ]
      exact h (k + 1) (Nat.succ_lt_succ hk)
    have hbodies : ∀ k ∈ List.range fs.length,
        (runAt fs (f.countRun j.runs) k).2 = (runAt (f :: fs) j.runs (k + 1)).2 :=
      fun k _ => by rw [runAt_succ]
    rw [hruns, List.map_congr_left hbodies] at hfs
    rw [List.mapM_cons, bind_run, toNode_run_ok hf]
    dsimp only
    rw [bind_run, hfs, journalAfter_cons f fs, List.length_cons, List.range_succ_eq_map,
      List.map_cons, List.map_map]
    rfl

/-- Whether the run at a position is the first that fails. -/
def FirstFailure (fs : List Func) (runs : Tally) (k : Nat) (e : BuildError) : Prop :=
  (runAt fs runs k).1 = some e ∧ ∀ i < k, (runAt fs runs i).1 = none

/-- If there is no first failure, there is none. -/
theorem runAt_fst_eq_none {fs : List Func} {runs : Tally}
    (h : ¬∃ k e, FirstFailure fs runs k e) (k : Nat) : (runAt fs runs k).1 = none := by
  induction k using Nat.strongRecOn with
  | ind k ih =>
    cases hk : (runAt fs runs k).1 with
    | none => rfl
    | some e => exact absurd ⟨k, e, hk, ih⟩ h

theorem FirstFailure.exists_getElem? {fs : List Func} {runs : Tally} {k : Nat} {e : BuildError}
    (h : FirstFailure fs runs k e) : ∃ f, fs[k]? = some f := by
  cases hk : fs[k]? with
  | some f => exact ⟨f, rfl⟩
  | none =>
    have hfail := h.1
    unfold runAt at hfail
    rw [hk] at hfail
    cases hfail

/-- **Renderings up to the first that fails.** -/
theorem mapM_toNode_run_of_failure {fs : List Func} {j : Journal} {k : Nat} {e : BuildError}
    (h : FirstFailure fs j.runs k e) {f : Func} (hf : fs[k]? = some f) :
    fs.mapM toNode j = (.error e, f.afterRun (journalAfter (fs.take k) j)) := by
  obtain ⟨hk, rfl⟩ := List.getElem?_eq_some_iff.1 hf
  have hlength : (fs.take k).length = k := List.length_take_of_le (Nat.le_of_lt hk)
  have hbefore := mapM_toNode_run (fs.take k) (j := j) fun i hi => by
    rw [hlength] at hi
    rw [runAt_take hi]
    exact h.2 i hi
  have hfail := toNode_run_error (f := fs[k]) (j := journalAfter (fs.take k) j)
    (by rw [nextRun_journalAfter_take hf]; exact h.1)
  have hsplit : fs = fs.take k ++ fs[k] :: fs.drop (k + 1) := by
    rw [← List.drop_eq_getElem_cons hk, List.take_append_drop]
  conv => lhs; rw [hsplit]
  rw [List.mapM_append, bind_run, hbefore]
  dsimp only
  rw [List.mapM_cons, bind_run, bind_run, hfail]

end WatText.Func
