import WatText.Proofs.Workspace.History

/-!
# A workspace and its accounts

`Accounted` is the invariant of histories. It says what the functions that were stored, the calls of
the module, the bodies that were set up and the functions that were run have to do with the state:
the tables are what the first two make of them, the counters show the runs, and every function that
is held or was run has its body at the position of its counter.

`accounted_act` takes the invariant over one deed, and `accounted_history` over a whole history.
-/

namespace WatText.Workspace

/-- A state beside the functions that were stored, the calls of the module, the bodies that were set
up and the functions that were run. -/
structure Accounted (fs : List (String × Func)) (cs : List Call) (scripts : List (List Step))
    (past : List Func) (s : Workspace × Journal) : Prop where
  funcs : s.1.funcs = Table.putAll {} fs
  module : s.1.module = cs.foldl Module.register {}
  counts : ∀ c, s.2.runs.count c = Func.holders past c
  fresh : s.2.runs.fresh = scripts.length
  stored : ∀ e ∈ fs, e.2.SetUpIn scripts
  exported : ∀ e ∈ cs.filterMap Call.export?, e.2.SetUpIn scripts
  past : ∀ f ∈ past, f.SetUpIn scripts

variable {fs : List (String × Func)} {cs : List Call} {scripts : List (List Step)}
  {past : List Func} {s : Workspace × Journal}

namespace Accounted

theorem module_eq_replay (h : Accounted fs cs scripts past s) :
    s.1.module = (Module.replay ({}, {}) cs).1 := by
  rw [Module.replay_fst_eq_foldl, h.module]

theorem imports (h : Accounted fs cs scripts past s) :
    ∀ i ∈ s.1.module.imports.values, i.func.body = none := by
  rw [h.module_eq_replay]
  exact fun i hi => Module.body_eq_none_of_mem_imports hi

theorem exports (h : Accounted fs cs scripts past s) :
    s.1.module.exports = Table.putAll {} (cs.filterMap Call.export?) := by
  rw [h.module_eq_replay, Module.replay_fst]

/-- A deed advances the counters of the bodies that it runs. -/
theorem count_act (h : Accounted fs cs scripts past s) (d : Deed) (c : Nat) :
    (act s d).2.runs.count c = s.2.runs.count c + Func.holders (ran s d) c := by
  rw [(takes_act h.imports d).2, Tally.count_iterate_reserve, Func.count_countRuns]

theorem setUpIn_get? (h : Accounted fs cs scripts past s) {key : String} {f : Func}
    (hf : s.1.funcs.get? key = some f) : f.SetUpIn scripts := by
  rw [h.funcs] at hf
  exact h.stored _ (Table.mem_of_get?_putAll hf)

theorem setUpIn_values (h : Accounted fs cs scripts past s) {f : Func}
    (hf : f ∈ s.1.module.exports.values) : f.SetUpIn scripts := by
  obtain ⟨e, he, rfl⟩ := List.mem_map.1 hf
  rw [h.exports, Table.entries_putAll] at he
  exact h.exported e (Table.mem_of_mem_latest he)

theorem setUpIn_built? (h : Accounted fs cs scripts past s) {plan : FuncPlan} {f : Func}
    (hf : plan.built? s.2.runs.fresh = some f) : f.SetUpIn (scripts ++ plan.scripts) := by
  rw [h.fresh] at hf
  exact FuncPlan.setUpIn_of_built? hf

theorem setUpIn_stored (h : Accounted fs cs scripts past s) {d : Deed} {e : String × Func}
    (he : e ∈ Workspace.stored s d) : e.2.SetUpIn (scripts ++ setUp s d) := by
  cases d with
  | copy key key' =>
    obtain ⟨f, hf, rfl⟩ := List.mem_map.1 he
    exact (h.setUpIn_get? (Option.mem_toList.1 hf)).append _
  | command c =>
    cases c with
    | define key plan =>
      obtain ⟨f, hf, rfl⟩ := List.mem_map.1 he
      exact h.setUpIn_built? (Option.mem_toList.1 hf)
    | extend key e =>
      obtain ⟨f, hf, rfl⟩ := List.mem_map.1 he
      have hkey := Option.mem_toList.1 hf
      have hgrown := (h.setUpIn_get? hkey).grown e
      have hsetUp : setUp s (.command (.extend key e)) = e.scripts := by
        simp [setUp, Option.mem_def.1 hkey]
      rw [hsetUp, h.fresh]
      exact hgrown
    | addImport | addExport | inspect | render | text => cases he

theorem setUpIn_offered (h : Accounted fs cs scripts past s) {offer : Offer} {f : Func}
    (hf : offered s offer = some (.func f)) (name : String) :
    f.SetUpIn (scripts ++ setUp s (.command (.addExport name offer))) := by
  cases offer with
  | stored key =>
    obtain ⟨g, hg, heq⟩ := Option.map_eq_some_iff.1 hf
    cases heq
    exact (h.setUpIn_get? hg).append _
  | built plan =>
    obtain ⟨g, hg, heq⟩ := Option.map_eq_some_iff.1 hf
    cases heq
    exact h.setUpIn_built? hg
  | signature ds => cases hf
  | operand o => cases hf

theorem setUpIn_exported (h : Accounted fs cs scripts past s) {d : Deed} {e : String × Func}
    (he : e ∈ (calls s d).filterMap Call.export?) : e.2.SetUpIn (scripts ++ setUp s d) := by
  obtain ⟨call, hcall, hexport⟩ := List.mem_filterMap.1 he
  rw [Module.export?_eq_some hexport] at hcall
  cases d with
  | copy key key' => cases hcall
  | command c =>
    cases c with
    | addExport name offer =>
      obtain ⟨item, hitem, heq⟩ := List.mem_map.1 hcall
      cases heq
      exact h.setUpIn_offered (Option.mem_toList.1 hitem) e.1
    | addImport path name ds => cases List.mem_singleton.1 hcall
    | define | extend | inspect | render | text => cases hcall

theorem setUpIn_ran (h : Accounted fs cs scripts past s) {d : Deed} {f : Func}
    (hf : f ∈ ran s d) : f.SetUpIn scripts := by
  cases d with
  | copy key key' => cases hf
  | command c =>
    cases c with
    | inspect key i =>
      unfold ran at hf
      dsimp only at hf
      split at hf
      · exact h.setUpIn_get? (Option.mem_toList.1 hf)
      · cases hf
    | render | text l => exact h.setUpIn_values (Func.mem_of_mem_started hf)
    | addImport | addExport | define | extend => cases hf

end Accounted

/-- **The invariant over one deed.** -/
theorem accounted_act (h : Accounted fs cs scripts past s) (d : Deed) :
    Accounted (fs ++ stored s d) (cs ++ calls s d) (scripts ++ setUp s d) (past ++ ran s d)
      (act s d) := by
  obtain ⟨hworkspace, hruns⟩ := takes_act h.imports d
  refine ⟨?_, ?_, fun c => ?_, ?_, fun e he => ?_, fun e he => ?_, fun f hf => ?_⟩
  · rw [hworkspace, h.funcs]
    exact List.foldl_append.symm
  · rw [hworkspace, h.module, List.foldl_append]
  · rw [h.count_act, h.counts, Func.holders_append]
  · rw [hruns, Tally.fresh_iterate_reserve,
      Func.fresh_countRuns h.fresh fun f hf => h.setUpIn_ran hf, List.length_append]
  · rcases List.mem_append.1 he with he | he
    · exact (h.stored e he).append _
    · exact h.setUpIn_stored he
  · rw [List.filterMap_append] at he
    rcases List.mem_append.1 he with he | he
    · exact (h.exported e he).append _
    · exact h.setUpIn_exported he
  · rcases List.mem_append.1 hf with hf | hf
    · exact (h.past f hf).append _
    · exact (h.setUpIn_ran hf).append _

theorem accounted_history (ds : List Deed) :
    Accounted (along stored ({}, {}) ds) (along calls ({}, {}) ds) (along setUp ({}, {}) ds)
      (along ran ({}, {}) ds) (history ({}, {}) ds) := by
  induction ds using List.reverseRecOn with
  | nil => exact ⟨rfl, rfl, fun c => rfl, rfl, nofun, nofun, nofun⟩
  | append_singleton ds d ih =>
    rw [along_concat, along_concat, along_concat, along_concat, history_concat]
    exact accounted_act ih d

/-- Whether a function is stored or exported. -/
def Holds (w : Workspace) (f : Func) : Prop :=
  (∃ key, w.funcs.get? key = some f) ∨ f ∈ w.module.exports.values

theorem Accounted.setUpIn (h : Accounted fs cs scripts past s) {f : Func}
    (hf : s.1.Holds f ∨ f ∈ past) : f.SetUpIn scripts := by
  rcases hf with (⟨key, hkey⟩ | hexported) | hran
  · exact h.setUpIn_get? hkey
  · exact h.setUpIn_values hexported
  · exact h.past f hran

/-- A deed that runs one body only advances no other counter. -/
theorem Accounted.count_act_of_ran (h : Accounted fs cs scripts past s) {d : Deed} {counter : Nat}
    (hran : ∀ g ∈ ran s d, ∀ body, g.body = some body → body.counter = counter) {c : Nat}
    (hc : c ≠ counter) : (act s d).2.runs.count c = s.2.runs.count c := by
  have hnone : Func.holders (ran s d) c = 0 := Func.holders_eq_zero fun g hg body hbody he =>
    hc (he.symm.trans (hran g hg body hbody))
  rw [h.count_act, hnone, Nat.add_zero]

/-- Asking a function runs no other. -/
theorem eq_of_mem_ran_inspect {key : String} {f g : Func} (hf : s.1.funcs.get? key = some f)
    {i : Inspection} (hg : g ∈ ran s (.command (.inspect key i))) : g = f := by
  simp only [ran, hf] at hg
  split at hg
  · exact List.mem_singleton.1 hg
  · cases hg

end WatText.Workspace
