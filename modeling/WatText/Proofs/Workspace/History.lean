import WatText.Proofs.Func.Answers
import WatText.Proofs.Func.Growth
import WatText.Proofs.Module.Rendering

/-!
# Histories of a workspace

A history is any sequence of commands and of copies that are made of stored functions
(`Workspace.history`). Beside it go four lists that are made deed by deed (`Workspace.along`): the
functions that were stored, the calls that the module got, the bodies that were set up and the
functions whose bodies were run.

`takes_act` says what one deed can do: the functions and the module take what the deed stores and
calls, and the runs take what it sets up and runs. Nothing else about a deed is used later.

`snd_step_of_error`: a command works on the workspace and keeps it also when it fails, but every
failure comes before the first change.
-/

namespace WatText

/-- A step of a history: a command, or a copy of a stored function under another key. -/
inductive Deed where
  | command (c : Command)
  | copy (key key' : String)

/-! ## The runs of a rendering -/

namespace Func

/-- The functions that are run when some functions are to be run one after another: none comes
after one that fails. -/
def started : List Func → Tally → List Func
  | [], _ => []
  | f :: fs, runs =>
    match f.result (runNumber runs []) with
    | .error _ => [f]
    | .ok _ => f :: started fs (f.countRun runs)

theorem started_of_runAt_eq_none {fs : List Func} {runs : Tally}
    (h : ∀ k, (runAt fs runs k).1 = none) : started fs runs = fs := by
  induction fs generalizing runs with
  | nil => rfl
  | cons f fs ih =>
    have hfirst : (f.runAs (runNumber runs [])).1 = none := h 0
    rw [started, result_of_runAs_eq_none hfirst]
    exact congrArg (f :: ·) (ih fun k => by rw [← runAt_succ]; exact h (k + 1))

theorem started_of_firstFailure {fs : List Func} {runs : Tally} {k : Nat} {e : BuildError}
    (h : FirstFailure fs runs k e) : started fs runs = fs.take (k + 1) := by
  induction fs generalizing runs k with
  | nil => exact absurd h.1 nofun
  | cons f fs ih =>
    cases k with
    | zero =>
      have hfirst : (f.runAs (runNumber runs [])).1 = some e := h.1
      rw [started, result_of_runAs_eq_some hfirst]
      rfl
    | succ k =>
      have hfirst : (f.runAs (runNumber runs [])).1 = none := h.2 0 (Nat.succ_pos k)
      have hnext : FirstFailure fs (f.countRun runs) k e := by
        refine ⟨?_, fun i hi => ?_⟩
        · rw [← runAt_succ]
          exact h.1
        · rw [← runAt_succ]
          exact h.2 (i + 1) (Nat.succ_lt_succ hi)
      rw [started, result_of_runAs_eq_none hfirst, List.take_succ_cons]
      exact congrArg (f :: ·) (ih hnext)

theorem mem_of_mem_started {fs : List Func} {runs : Tally} {f : Func} (h : f ∈ started fs runs) :
    f ∈ fs := by
  induction fs generalizing runs with
  | nil => cases h
  | cons g fs ih =>
    rw [started] at h
    cases hr : g.result (runNumber runs []) with
    | error e =>
      rw [hr] at h
      exact List.mem_cons.2 (.inl (List.mem_singleton.1 h))
    | ok instrs =>
      rw [hr] at h
      rcases List.mem_cons.1 h with rfl | h
      · exact List.mem_cons_self
      · exact List.mem_cons_of_mem g (ih h)

end Func

/-- **The runs of a rendering.** -/
theorem Module.runs_toNode {m : Module} (himports : ∀ i ∈ m.imports.values, i.func.body = none)
    (j : Journal) :
    (m.toNode j).2.runs = Func.countRuns (Func.started m.exports.values j.runs) j.runs := by
  by_cases h : ∃ k e, Func.FirstFailure m.exports.values j.runs k e
  · obtain ⟨k, e, hfirst⟩ := h
    obtain ⟨f, hf⟩ := hfirst.exists_getElem?
    have htake : m.exports.values.take (k + 1) = m.exports.values.take k ++ [f] := by
      rw [List.take_add_one, hf]
      rfl
    rw [toNode_run_failed himports hfirst hf, Func.started_of_firstFailure hfirst, htake]
    unfold Func.countRuns
    rw [List.foldl_append]
    rfl
  · have hnone := Func.runAt_fst_eq_none h
    rw [toNode_run_complete himports hnone, Func.started_of_runAt_eq_none hnone]
    rfl

namespace Workspace

/-- The workspace and the journal after a deed, whether a command goes well or fails. -/
def act (s : Workspace × Journal) : Deed → Workspace × Journal
  | .command c =>
    let ((_, w), j) := step c s.1 s.2
    (w, j)
  | .copy key key' =>
    match s.1.funcs.get? key with
    | none => s
    | some f => (s.1.store key' f, s.2)

def history (s : Workspace × Journal) (ds : List Deed) : Workspace × Journal :=
  ds.foldl act s

/-- Without copies, a history leaves the journal that running its commands leaves. -/
theorem run_snd (w : Workspace) (j : Journal) (cs : List Command) :
    (w.run j cs).2 = (history (w, j) (cs.map .command)).2 := by
  induction cs generalizing w j with
  | nil => rfl
  | cons c cs ih =>
    rw [run, List.map_cons]
    show _ = (history (act (w, j) (.command c)) (cs.map .command)).2
    exact ih _ _

/-- What is told of each deed of a history, one after another. -/
def along {α : Type} (g : Workspace × Journal → Deed → List α) :
    Workspace × Journal → List Deed → List α
  | _, [] => []
  | s, d :: ds => g s d ++ along g (act s d) ds

theorem along_append {α : Type} (g : Workspace × Journal → Deed → List α)
    (s : Workspace × Journal) (ds ds' : List Deed) :
    along g s (ds ++ ds') = along g s ds ++ along g (history s ds) ds' := by
  induction ds generalizing s with
  | nil => rfl
  | cons d ds ih =>
    rw [List.cons_append, along, ih, along, List.append_assoc]
    rfl

theorem along_concat {α : Type} (g : Workspace × Journal → Deed → List α)
    (s : Workspace × Journal) (ds : List Deed) (d : Deed) :
    along g s (ds ++ [d]) = along g s ds ++ g (history s ds) d := by
  rw [along_append, along, along, List.append_nil]

theorem along_split {α : Type} (g : Workspace × Journal → Deed → List α)
    (s : Workspace × Journal) (before : List Deed) (d : Deed) (after : List Deed) :
    along g s (before ++ d :: after) =
      along g s before ++ (g (history s before) d ++
        along g (history s (before ++ [d])) after) := by
  rw [along_append, along]
  unfold history
  rw [List.foldl_append]
  rfl

theorem history_concat (s : Workspace × Journal) (ds : List Deed) (d : Deed) :
    history s (ds ++ [d]) = act (history s ds) d :=
  List.foldl_append

/-! ## What a deed stores, calls, sets up and runs -/

/-- The function that a deed stores, with its key. -/
def stored (s : Workspace × Journal) : Deed → List (String × Func)
  | .command (.define key plan) => (plan.built? s.2.runs.fresh).toList.map fun f => (key, f)
  | .command (.extend key e) =>
    (s.1.funcs.get? key).toList.map fun f => (key, f.grown s.2.runs.fresh e)
  | .copy key key' => (s.1.funcs.get? key).toList.map fun f => (key', f)
  | .command (.addImport ..) | .command (.addExport ..) | .command (.inspect ..)
  | .command .render | .command (.text _) => []

/-- The value that an offer stands for. -/
def offered (s : Workspace × Journal) : Offer → Option Item
  | .stored key => (s.1.funcs.get? key).map .func
  | .built plan => (plan.built? s.2.runs.fresh).map .func
  | .signature ds => some (.signature (.ofDeclarations ds))
  | .operand o => some (.operand o)

/-- The call that a deed makes to the module. -/
def calls (s : Workspace × Journal) : Deed → List Call
  | .command (.addImport path name ds) => [.addImport path name (.ofDeclarations ds)]
  | .command (.addExport name offer) => (offered s offer).toList.map (.addExport name)
  | .command (.define ..) | .command (.extend ..) | .command (.inspect ..)
  | .command .render | .command (.text _) | .copy .. => []

/-- The bodies that a deed sets up. -/
def setUp (s : Workspace × Journal) : Deed → List (List Step)
  | .command (.define _ plan) | .command (.addExport _ (.built plan)) => plan.scripts
  | .command (.extend key e) => (s.1.funcs.get? key).toList.flatMap fun _ => e.scripts
  | .command (.addImport ..) | .command (.addExport ..) | .command (.inspect ..)
  | .command .render | .command (.text _) | .copy .. => []

/-- The functions that a deed runs, also those whose run fails. -/
def ran (s : Workspace × Journal) : Deed → List Func
  | .command (.inspect key i) => if i.runsBody then (s.1.funcs.get? key).toList else []
  | .command .render | .command (.text _) => Func.started s.1.module.exports.values s.2.runs
  | .command (.addImport ..) | .command (.addExport ..) | .command (.define ..)
  | .command (.extend ..) | .copy .. => []

/-! ## One deed -/

/-- Whether the state after a deed has taken all that the deed stores, calls, sets up and runs. -/
def Takes (s : Workspace × Journal) (d : Deed) (s' : Workspace × Journal) : Prop :=
  s'.1 = { funcs := s.1.funcs.putAll (stored s d)
           module := (calls s d).foldl Module.register s.1.module } ∧
    s'.2.runs = Tally.reserve^[(setUp s d).length] (Func.countRuns (ran s d) s.2.runs)

theorem act_command (s : Workspace × Journal) (c : Command) :
    act s (.command c) = ((step c s.1 s.2).1.2, (step c s.1 s.2).2) := rfl

theorem onModule_run {α : Type} (x : BuildOn Module α) (w : Workspace) (j : Journal) :
    onModule x w j =
      (((x w.module j).1.1, { w with module := (x w.module j).1.2 }), (x w.module j).2) := rfl

/-- A command that comes to one call of the module. -/
theorem takes_of_call {s : Workspace × Journal} {c : Command} (call : Call) {j : Journal}
    (hstep : step c s.1 s.2 =
      (onModule call.perform >>= fun _ => pure .done : BuildOn Workspace Answer) s.1 j)
    (hruns : j.runs = Tally.reserve^[(setUp s (.command c)).length] s.2.runs)
    (hstored : stored s (.command c) = []) (hcalls : calls s (.command c) = [call])
    (hran : ran s (.command c) = []) : Takes s (.command c) (act s (.command c)) := by
  unfold Takes
  rw [act_command, hstep, bindOn_run, onModule_run, hstored, hcalls, hran]
  show _ = { s.1 with module := s.1.module.register call } ∧ _
  rcases call.perform_cases s.1.module j with ⟨e, hrun, hreg⟩ | ⟨event, hrun⟩
  · rw [hrun, hreg]
    exact ⟨rfl, hruns⟩
  · rw [hrun]
    exact ⟨rfl, hruns⟩

/-- A command that asks and changes nothing. -/
theorem takes_of_question {α : Type} {s : Workspace × Journal} {c : Command} {x : BuildM α}
    {g : α → Answer} (hasks : s.1.Asks c x g)
    (hruns : (x s.2).2.runs = Func.countRuns (ran s (.command c)) s.2.runs)
    (hstored : stored s (.command c) = []) (hcalls : calls s (.command c) = [])
    (hsetUp : setUp s (.command c) = []) : Takes s (.command c) (act s (.command c)) := by
  unfold Takes
  rw [act_command, hasks s.2, hstored, hcalls, hsetUp, ← hruns]
  exact ⟨rfl, rfl⟩

/-- An offer is refused before anything is set up, or it stands for a value, or the workspace does
not hold what it names. -/
theorem item?_cases (s : Workspace × Journal) (name : String) (offer : Offer) :
    ((∃ e, s.1.item? offer s.2 = (.error e, s.2)) ∨ s.1.item? offer s.2 = (.ok none, s.2)) ∧
        offered s offer = none ∧ setUp s (.command (.addExport name offer)) = [] ∨
      ∃ item, offered s offer = some item ∧ s.1.item? offer s.2 =
        (.ok (some item), s.2.setUp (setUp s (.command (.addExport name offer))).length) := by
  cases offer with
  | stored key =>
    have hitem : s.1.item? (.stored key) = pure ((s.1.funcs.get? key).map .func) := rfl
    have hoffered : offered s (.stored key) = (s.1.funcs.get? key).map .func := rfl
    rw [hitem, hoffered]
    cases s.1.funcs.get? key with
    | none => exact .inl ⟨.inr rfl, rfl, rfl⟩
    | some f => exact .inr ⟨_, rfl, rfl⟩
  | built plan =>
    have hitem : s.1.item? (.built plan) = plan.build >>= fun f => pure (some (.func f)) := rfl
    have hoffered : offered s (.built plan) = (plan.built? s.2.runs.fresh).map .func := rfl
    rw [hitem, bind_run, hoffered]
    rcases plan.build_cases s.2 with ⟨hbuilt, hscripts, e, hbuild⟩ | ⟨f, hbuilt, hbuild⟩
    · rw [hbuild, hbuilt]
      exact .inl ⟨.inl ⟨e, rfl⟩, rfl, hscripts⟩
    · rw [hbuild, hbuilt]
      exact .inr ⟨_, rfl, rfl⟩
  | signature ds => exact .inr ⟨_, rfl, rfl⟩
  | operand o => exact .inr ⟨_, rfl, rfl⟩

/-- What exporting goes on with when the offer stands for something or for nothing. -/
theorem step_addExport (w : Workspace) (j : Journal) (name : String) (offer : Offer) :
    ∃ next : Option Item → BuildOn Workspace Answer,
      step (.addExport name offer) w j = (liftM (w.item? offer) >>= next) w j ∧
      next none = pure .unknown ∧
      ∀ item, next (some item) = onModule (Call.addExport name item).perform >>= fun _ =>
        pure .done :=
  ⟨_, rfl, rfl, fun _ => rfl⟩

theorem step_extend (w : Workspace) (j : Journal) (key : String) (e : Extension) :
    step (.extend key e) w j = (match w.funcs.get? key with
      | none => pure .unknown
      | some f => liftM (f.extend e) >>= fun f => modify (·.store key f) >>= fun _ =>
          pure .done : BuildOn Workspace Answer) w j := rfl

theorem takes_addExport (s : Workspace × Journal) (name : String) (offer : Offer) :
    Takes s (.command (.addExport name offer)) (act s (.command (.addExport name offer))) := by
  obtain ⟨next, hstep, hnone, hsome⟩ := step_addExport s.1 s.2 name offer
  have hcalls : calls s (.command (.addExport name offer)) =
      (offered s offer).toList.map (.addExport name) := rfl
  rw [bindOn_run, liftOn_run] at hstep
  rcases item?_cases s name offer with ⟨hitem, hoffered, hsetUp⟩ | ⟨item, hoffered, hitem⟩
  · rw [hoffered] at hcalls
    unfold Takes
    rw [act_command, hcalls, hsetUp]
    rcases hitem with ⟨e, hitem⟩ | hitem
    · rw [hitem] at hstep
      rw [hstep]
      exact ⟨rfl, rfl⟩
    · rw [hitem] at hstep
      dsimp only at hstep
      rw [hnone] at hstep
      rw [hstep]
      exact ⟨rfl, rfl⟩
  · rw [hoffered] at hcalls
    refine takes_of_call (.addExport name item) (j := s.2.setUp _) ?_ rfl rfl hcalls rfl
    rw [hitem] at hstep
    dsimp only at hstep
    rw [hstep, hsome]

/-- **One deed.** -/
theorem takes_act {s : Workspace × Journal}
    (himports : ∀ i ∈ s.1.module.imports.values, i.func.body = none) (d : Deed) :
    Takes s d (act s d) := by
  cases d with
  | copy key key' =>
    unfold Takes
    cases hkey : s.1.funcs.get? key <;> simp only [act, stored, hkey] <;> exact ⟨rfl, rfl⟩
  | command c =>
    cases c with
    | addImport path name ds =>
      exact takes_of_call (.addImport path name _) (j := s.2) rfl rfl rfl rfl rfl
    | addExport name offer => exact takes_addExport s name offer
    | define key plan =>
      have hstep : step (.define key plan) s.1 s.2 = (liftM plan.build >>= fun f =>
        modify (·.store key f) >>= fun _ => pure .done : BuildOn Workspace Answer) s.1 s.2 := rfl
      have hsetUp : setUp s (.command (.define key plan)) = plan.scripts := rfl
      rw [bindOn_run, liftOn_run] at hstep
      unfold Takes
      rw [act_command, hstep, hsetUp]
      rcases plan.build_cases s.2 with ⟨hbuilt, hscripts, e, hbuild⟩ | ⟨f, hbuilt, hbuild⟩
      · rw [hbuild, hscripts]
        simp only [stored, hbuilt]
        exact ⟨rfl, rfl⟩
      · rw [hbuild]
        simp only [stored, hbuilt]
        exact ⟨rfl, rfl⟩
    | extend key e =>
      unfold Takes
      rw [act_command, step_extend]
      cases hkey : s.1.funcs.get? key with
      | none =>
        simp only [stored, setUp, hkey]
        exact ⟨rfl, rfl⟩
      | some f =>
        have hscripts : [f].flatMap (fun _ => e.scripts) = e.scripts := by simp
        simp only [stored, setUp, hkey, Option.toList_some, hscripts]
        rw [bindOn_run, liftOn_run, Func.extend_run]
        exact ⟨rfl, rfl⟩
    | inspect key i =>
      cases hkey : s.1.funcs.get? key with
      | none =>
        refine takes_of_question (asks_inspect_unknown hkey i) ?_ rfl rfl rfl
        simp only [ran, hkey]
        cases i.runsBody <;> rfl
      | some f =>
        refine takes_of_question (asks_inspect hkey i) ?_ rfl rfl rfl
        rw [Func.inspect_run]
        simp only [ran, Func.countInspection, hkey]
        cases i.runsBody <;> rfl
    | render => exact takes_of_question s.1.asks_render (Module.runs_toNode himports s.2) rfl rfl rfl
    | text l =>
      refine takes_of_question (s.1.asks_text l) ?_ rfl rfl rfl
      rw [Module.toText_run]
      exact Module.runs_toNode himports s.2

/-! ## Commands that fail -/

/-- A function that is stored after nothing can fail any more. -/
theorem snd_store_of_error (x : BuildM Func) (key : String) {w : Workspace} {j : Journal}
    {e : BuildError} {y : BuildOn Workspace Answer}
    (hy : y = do let f ← liftM x; modify (·.store key f); pure .done)
    (h : (y w j).1.1 = .error e) : (y w j).1.2 = w := by
  rw [hy, bindOn_run, liftOn_run] at h ⊢
  rcases hx : x j with ⟨_ | f, j'⟩
  · rfl
  · rw [hx] at h
    cases h

/-- A call of the module that is refused leaves the workspace as it was. -/
theorem snd_onModule_of_error (call : Call) {w : Workspace} {j : Journal} {e : BuildError}
    {y : BuildOn Workspace Answer} (hy : y = do onModule call.perform; pure .done)
    (h : (y w j).1.1 = .error e) : (y w j).1.2 = w := by
  rw [hy, bindOn_run, onModule_run] at h ⊢
  rcases call.perform_cases w.module j with ⟨e', hrun, -⟩ | ⟨event, hrun⟩
  · rw [hrun]
  · rw [hrun] at h
    cases h

/-- **A command that fails** leaves the functions and the module as they were. -/
theorem snd_step_of_error {c : Command} {w : Workspace} {j : Journal} {e : BuildError}
    (h : (step c w j).1.1 = .error e) : (step c w j).1.2 = w := by
  cases c with
  | addImport path name ds => exact snd_onModule_of_error (.addImport path name _) rfl h
  | addExport name offer =>
    obtain ⟨next, hstep, hnone, hsome⟩ := step_addExport w j name offer
    rw [hstep, bindOn_run, liftOn_run] at h ⊢
    rcases hitem : w.item? offer j with ⟨_ | _ | item, j'⟩
    · rfl
    · dsimp only
      rw [hnone]
      rfl
    · rw [hitem] at h
      exact snd_onModule_of_error _ (hsome item) h
  | define key plan => exact snd_store_of_error plan.build key rfl h
  | extend key e =>
    rw [step_extend] at h ⊢
    cases hkey : w.funcs.get? key with
    | none => rfl
    | some f =>
      rw [hkey] at h
      exact snd_store_of_error (f.extend e) key rfl h
  | inspect key i =>
    cases hkey : w.funcs.get? key with
    | none => rw [asks_inspect_unknown hkey i j]
    | some f => rw [asks_inspect hkey i j]
  | render => rw [w.asks_render j]
  | text l => rw [w.asks_text l j]

end Workspace

end WatText
