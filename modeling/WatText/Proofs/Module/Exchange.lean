import Mathlib.Data.List.Forall2
import WatText.Proofs.Func.Alike
import WatText.Proofs.Module.History
import WatText.Proofs.Signature.Agreement

/-!
# Functions in place of one another

`Func.indistinct_of_redeclared`: functions that were declared by agreeing steps
(`Declaration.Agrees`) and have one name, one script and the same limits cannot be told apart by
recording, rendering or printing them, or any modules that import or export the one where the other
stands, as long as the runs of their bodies have the same numbers. With one body they always do.

Exchanging functions in a history of calls (`Call.Exchanged`) keeps both tables side by side: the
same names in the same order, bound to functions that are alike (`Module.related_replay`). Rendering
goes through the tables in step.
-/

namespace WatText

/-! ## Exchanged calls -/

/-- Whether two functions are the given ones, in either order. -/
def Func.Swapped (f f' g g' : Func) : Prop :=
  (g = f ∧ g' = f') ∨ (g = f' ∧ g' = f)

/-- Whether two calls are the same but for exporting, or importing by its signature, one of two
functions in place of the other. -/
inductive Call.Exchanged (f f' : Func) : Call → Call → Prop
  | same (c : Call) : Exchanged f f' c c
  | addExport (name : String) {g g' : Func} (h : Func.Swapped f f' g g') :
    Exchanged f f' (.addExport name (.func g)) (.addExport name (.func g'))
  | addImport (path name : String) {g g' : Func} (h : Func.Swapped f f' g g') :
    Exchanged f f' (.addImport path name g.signature) (.addImport path name g'.signature)

/-- Whether a relation holds between everything that exchanging two functions puts in place of one
another. -/
structure Func.Exchanges (R : Func → Func → Prop) (f f' : Func) : Prop where
  refl : ∀ g, R g g
  func : ∀ g g', Swapped f f' g g' → R g g'
  bound : ∀ name g g', Swapped f f' g g' →
    R { name, signature := g.signature } { name, signature := g'.signature }

/-- Whether two imports have one path and are bound to related functions. -/
def Import.Related (R : Func → Func → Prop) (i i' : Import) : Prop :=
  i.path = i'.path ∧ R i.func i'.func

/-- Whether two modules have the same names in the same order, bound to related functions. -/
structure Module.Related (R : Func → Func → Prop) (m m' : Module) : Prop where
  imports : Table.Related (fun _ => Import.Related R) m.imports m'.imports
  exports : Table.Related (fun _ => R) m.exports m'.exports

section Exchanged

variable {R : Func → Func → Prop} {f f' : Func} (hR : Func.Exchanges R f f')

include hR

/-- Whether an import is accepted does not depend on its signature. -/
theorem Call.Exchanged.rel_import? {c c' : Call} (h : Exchanged f f' c c') :
    Option.Rel (fun e e' => e.1 = e'.1 ∧ Import.Related R e.2 e'.2) c.import? c'.import? := by
  cases h with
  | same =>
    cases c.import? with
    | none => exact .none
    | some e => exact .some ⟨rfl, rfl, hR.refl e.2.func⟩
  | addExport name hswap => exact .none
  | @addImport path name g g' hswap =>
    unfold Call.import?
    dsimp only
    split
    · exact .some ⟨rfl, rfl, hR.bound name g g' hswap⟩
    · exact .none

theorem Call.Exchanged.rel_export? {c c' : Call} (h : Exchanged f f' c c') :
    Option.Rel (fun e e' => e.1 = e'.1 ∧ R e.2 e'.2) c.export? c'.export? := by
  cases h with
  | same =>
    cases c.export? with
    | none => exact .none
    | some e => exact .some ⟨rfl, hR.refl e.2⟩
  | addImport path name hswap => exact .none
  | @addExport name g g' hswap =>
    unfold Call.export?
    dsimp only
    split
    · exact .some ⟨rfl, hR.func g g' hswap⟩
    · exact .none

/-- **Exchanged histories.** -/
theorem Module.related_replay {cs cs' : List Call}
    (h : List.Forall₂ (Call.Exchanged f f') cs cs') (j j' : Journal) :
    Related R (replay ({}, j) cs).1 (replay ({}, j') cs').1 := by
  rw [replay_fst, replay_fst]
  have himports : Table.Related (fun _ => Import.Related R) ({} : Table String Import) {} := .nil
  have hexports : Table.Related (fun _ => R) ({} : Table String Func) {} := .nil
  exact ⟨himports.putAll (List.rel_filterMap (fun _ _ hc => hc.rel_import? hR) h),
    hexports.putAll (List.rel_filterMap (fun _ _ hc => hc.rel_export? hR) h)⟩

end Exchanged

/-! ## Renderings in step -/

theorem mapM_eq_of_forall₂ {α β : Type} {g : α → BuildM β} {as bs : List α}
    (h : List.Forall₂ (fun a b => g a = g b) as bs) : as.mapM g = bs.mapM g := by
  induction h with
  | nil => rfl
  | cons hhead htail ih => rw [List.mapM_cons, List.mapM_cons, hhead, ih]

namespace Func

/-- Whether two functions have one name and do the same when they are rendered. -/
def ActsLike (f f' : Func) : Prop :=
  f.name = f'.name ∧ f.toNode = f'.toNode

/-- The numbers of the runs when some functions are run one after another. -/
def runNumbers : List Func → Tally → List (Option Nat)
  | [], _ => []
  | f :: fs, runs => f.ownNumber (runNumber runs []) :: runNumbers fs (f.countRun runs)

variable {fs fs' : List Func}

theorem playEach_eq_of_alike (h : List.Forall₂ Alike fs fs') {runs runs' : Tally}
    (hn : runNumbers fs runs = runNumbers fs' runs') : playEach fs runs = playEach fs' runs' := by
  induction h generalizing runs runs' with
  | nil => rfl
  | @cons f f' fs fs' hf hfs ih =>
    obtain ⟨hhead, htail⟩ := List.cons.inj hn
    have hnext : f.nextRun runs = f'.nextRun runs' := hf.runAs_eq hhead
    rw [playEach, playEach, hnext, ih htail]

theorem zipWith_nodeOf_eq_of_alike (h : List.Forall₂ Alike fs fs') (bodies : List (List Instr)) :
    List.zipWith nodeOf fs bodies = List.zipWith nodeOf fs' bodies := by
  induction h generalizing bodies with
  | nil => rfl
  | cons hf hfs ih =>
    cases bodies with
    | nil => rfl
    | cons instrs bodies =>
      rw [List.zipWith_cons_cons, List.zipWith_cons_cons, hf.nodeOf_eq, ih]

end Func

namespace Module

variable {m m' : Module}

theorem Related.treeOf_eq (h : m.Related Func.Alike m') : m.treeOf = m'.treeOf := by
  have himports : m.imports.values.map Import.nodeOf = m'.imports.values.map Import.nodeOf := by
    unfold Table.values
    rw [List.map_map, List.map_map]
    refine h.imports.map_eq fun _ i i' ⟨hpath, hfunc⟩ => ?_
    show i.nodeOf = i'.nodeOf
    unfold Import.nodeOf
    rw [hpath, hfunc.nodeOf_eq]
  have hentries : (m.exports.entries.map fun e => exportEntry e.1 e.2.name) =
      m'.exports.entries.map fun e => exportEntry e.1 e.2.name :=
    h.exports.map_eq fun name g g' hg => congrArg (exportEntry name) hg.name
  funext bodies
  unfold treeOf
  rw [himports, hentries, Func.zipWith_nodeOf_eq_of_alike h.exports.values]

/-- Modules with functions that are alike render alike when the runs have the same numbers. -/
theorem Related.toNode_fst_eq (h : m.Related Func.Alike m')
    (himports : ∀ i ∈ m.imports.values, i.func.body = none)
    (himports' : ∀ i ∈ m'.imports.values, i.func.body = none) {j j' : Journal}
    (hn : Func.runNumbers m.exports.values j.runs = Func.runNumbers m'.exports.values j'.runs) :
    (m.toNode j).1 = (m'.toNode j').1 := by
  rw [toNode_fst himports, toNode_fst himports', h.treeOf_eq,
    Func.playEach_eq_of_alike h.exports.values hn]

/-- Modules with functions that do the same do the same when they are rendered. -/
theorem Related.toNode_eq (h : m.Related Func.ActsLike m') : m.toNode = m'.toNode := by
  have himports : m.imports.values.mapM Import.toNode = m'.imports.values.mapM Import.toNode :=
    mapM_eq_of_forall₂ (h.imports.values.imp fun i i' ⟨hpath, _, hfunc⟩ => by
      unfold Import.toNode
      rw [hpath, hfunc])
  have hexports : m.exports.values.mapM Func.toNode = m'.exports.values.mapM Func.toNode :=
    mapM_eq_of_forall₂ (h.exports.values.imp fun f f' ⟨_, hfunc⟩ => hfunc)
  have hentries : (m.exports.entries.map fun e => exportEntry e.1 e.2.name) =
      m'.exports.entries.map fun e => exportEntry e.1 e.2.name :=
    h.exports.map_eq fun name f f' ⟨hname, _⟩ => congrArg (exportEntry name) hname
  unfold toNode
  rw [himports, hexports, hentries, h.imports.size_eq, h.exports.size_eq]

end Module

/-! ## Redeclared functions -/

namespace Func

/-- Whether two functions have one name, one script and the same limits, and were declared by
agreeing steps. -/
structure Redeclared (f f' : Func) : Prop where
  name : f.name = f'.name
  caps : f.caps = f'.caps
  script : f.body.map Body.script = f'.body.map Body.script
  steps : ∃ ds ds', f.signature = .ofDeclarations ds ∧ f'.signature = .ofDeclarations ds' ∧
    List.Forall₂ Declaration.Agrees ds ds'

/-- What it means that no recording, rendering or printing tells two functions apart. -/
structure Indistinct (f f' : Func) : Prop where
  record : ∀ j j' : Journal, f.runsSoFar j.runs = f'.runsSoFar j'.runs →
    (f.record j).1 = (f'.record j').1
  render : ∀ j j' : Journal, f.runsSoFar j.runs = f'.runsSoFar j'.runs →
    (f.toNode j).1 = (f'.toNode j').1
  text : ∀ (l : Layout) (j j' : Journal), f.runsSoFar j.runs = f'.runsSoFar j'.runs →
    (f.toText l j).1 = (f'.toText l j').1
  /-- Modules that were made by the same calls but for the exchange of the two functions render and
  print alike when the runs of the exported bodies have the same numbers. -/
  exchanged : ∀ (cs cs' : List Call) (m m' : Module) (j₀ j₀' j j' : Journal),
    List.Forall₂ (Call.Exchanged f f') cs cs' →
    m = (Module.replay ({}, j₀) cs).1 → m' = (Module.replay ({}, j₀') cs').1 →
    runNumbers m.exports.values j.runs = runNumbers m'.exports.values j'.runs →
    (m.toNode j).1 = (m'.toNode j').1 ∧ ∀ l, (m.toText l j).1 = (m'.toText l j').1
  /-- With one body the runs have the same numbers anyway: whatever is asked does the same. -/
  shared : f.body = f'.body → f.record = f'.record ∧ f.toNode = f'.toNode ∧
    (∀ l, f.toText l = f'.toText l) ∧
    ∀ (cs cs' : List Call) (m m' : Module) (j₀ j₀' : Journal),
      List.Forall₂ (Call.Exchanged f f') cs cs' →
      m = (Module.replay ({}, j₀) cs).1 → m' = (Module.replay ({}, j₀') cs').1 →
      m.toNode = m'.toNode ∧ ∀ l, m.toText l = m'.toText l

variable {f f' : Func}

theorem Redeclared.alike (h : f.Redeclared f') : f.Alike f' := by
  obtain ⟨ds, ds', hds, hds', hagrees⟩ := h.steps
  refine ⟨h.name, ?_, h.caps, h.script⟩
  rw [hds, hds', Signature.toNodes_ofDeclarations_eq hagrees]

/-- Functions that are alike are alike in every import and export. -/
theorem Alike.exchanges (h : f.Alike f') : Exchanges Alike f f' where
  refl := Alike.refl
  func := by
    rintro g g' (⟨rfl, rfl⟩ | ⟨rfl, rfl⟩)
    · exact h
    · exact h.symm
  bound := by
    rintro name g g' (⟨rfl, rfl⟩ | ⟨rfl, rfl⟩)
    · exact ⟨rfl, h.declarations, rfl, rfl⟩
    · exact ⟨rfl, h.declarations.symm, rfl, rfl⟩

theorem Alike.exchanges_actsLike (h : f.Alike f') (hbody : f.body = f'.body) :
    Exchanges ActsLike f f' where
  refl := fun _ => ⟨rfl, rfl⟩
  func := by
    rintro g g' (⟨rfl, rfl⟩ | ⟨rfl, rfl⟩)
    · exact ⟨h.name, h.toNode_eq hbody⟩
    · exact ⟨h.name.symm, (h.toNode_eq hbody).symm⟩
  bound := by
    intro name g g' hswap
    exact ⟨rfl, (h.exchanges.bound name g g' hswap).toNode_eq rfl⟩

/-- **Operands count only where they show.** Functions that were declared by agreeing steps cannot
be told apart, neither on their own nor in modules. -/
theorem indistinct_of_redeclared (h : f.Redeclared f') : f.Indistinct f' := by
  have halike := h.alike
  have hrender : ∀ j j' : Journal, f.runsSoFar j.runs = f'.runsSoFar j'.runs →
      (f.toNode j).1 = (f'.toNode j').1 := fun j j' hr => by
    rw [toNode_run_eq, toNode_run_eq, halike.result_eq (halike.ownNumber_eq hr), halike.shownAs_eq]
  refine ⟨fun j j' hr => ?_, hrender, fun l j j' hr => ?_, ?_, fun hbody => ?_⟩
  · rw [record_run_eq, record_run_eq, halike.result_eq (halike.ownNumber_eq hr)]
  · rw [toText_run, toText_run, hrender j j' hr]
  · rintro cs cs' m m' j₀ j₀' j j' hcs rfl rfl hn
    have hnode := (Module.related_replay halike.exchanges hcs j₀ j₀').toNode_fst_eq
      (fun i hi => Module.body_eq_none_of_mem_imports hi)
      (fun i hi => Module.body_eq_none_of_mem_imports hi) hn
    exact ⟨hnode, fun l => by rw [Module.toText_run, Module.toText_run, hnode]⟩
  · have hnode := halike.toNode_eq hbody
    refine ⟨halike.record_eq hbody, hnode, fun l => by unfold toText; rw [hnode], ?_⟩
    rintro cs cs' m m' j₀ j₀' hcs rfl rfl
    have hmodule :=
      (Module.related_replay (halike.exchanges_actsLike hbody) hcs j₀ j₀').toNode_eq
    exact ⟨hmodule, fun l => by unfold Module.toText; rw [hmodule]⟩

/-- A function with a slot that is declared twice and a body that shows the number of its run. -/
def declaredOnce : Func where
  name := "$f"
  signature := .ofDeclarations [.param { ty := .i32 }, .localVar "x" { ty := .f32 },
    .slot (.named "y") { ty := .i64, role := .localVar }, .result { ty := .i64 },
    .localVar "y" { ty := .f64 }]
  body := some { counter := 0, script := [{ action := .runNumber .i64 }] }

/-- The same function with other names, roles and limits wherever they do not show. -/
def declaredAgain : Func :=
  { declaredOnce with
    signature := .ofDeclarations [.param { ty := .i32, role := .result },
      .localVar "x" { ty := .f32, name := some "z" },
      .slot (.named "y") { ty := .i64, role := .localVar, name := some "w" },
      .result { ty := .i64, role := .localVar, caps := { i32 := 8, i64 := 8 } },
      .localVar "y" { ty := .f64, role := .param, name := some "v" }] }

/-- Two signatures that differ and do not show it. -/
theorem indistinct_declaredAgain :
    declaredOnce.signature ≠ declaredAgain.signature ∧ declaredOnce.Redeclared declaredAgain ∧
      declaredOnce.Indistinct declaredAgain ∧
      (declaredAgain.toNode {}).1 = .ok (.list "func" [.string "$f",
        .list "param" [.symbol "i32"], .list "local" [.symbol "x", .symbol "f32"],
        .list "local" [.symbol "y", .symbol "f64"], .list "result" [.symbol "i64"],
        .symbol "i64.const 1"]) := by
  have hsteps : declaredOnce.Redeclared declaredAgain :=
    ⟨rfl, rfl, rfl, _, _, rfl, rfl, .cons (.param rfl rfl) (.cons (.localVar "x" rfl)
      (.cons (.named "y" rfl rfl) (.cons (.result rfl rfl) (.cons (.localVar "y" rfl) .nil))))⟩
  exact ⟨by decide, hsteps, indistinct_of_redeclared hsteps, rfl⟩

end Func

end WatText
