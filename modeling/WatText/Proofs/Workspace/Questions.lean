import WatText.Proofs.Module.Tree
import WatText.Workspace

/-!
# Questions to a workspace

Rendering or printing the module and inspecting a function are questions: whatever they answer, the
commands after them find the workspace as it was, with the journal that the question left
(`Workspace.Asks.run_cons`).
-/

namespace WatText.Workspace

/-- Whether a command only asks: an action answers it, and the workspace goes on as it was. -/
def Asks {α : Type} (w : Workspace) (c : Command) (x : BuildM α) (g : α → Answer) : Prop :=
  ∀ j, step c w j = (((x j).1.map g, w), (x j).2)

/-- An action on a state that only asks it something. -/
theorem asksOn_run {α β σ : Type} (x : σ → BuildM α) (g : α → β) (s : σ) (j : Journal) :
    (do return g (← x (← get)) : BuildOn σ β) s j = (((x s j).1.map g, s), (x s j).2) := by
  show ((liftM (x s) : BuildOn σ α) >>= fun a => pure (g a)) s j = _
  rw [bindOn_run, liftOn_run]
  cases (x s j).1 <;> rfl

theorem asks_render (w : Workspace) : w.Asks .render w.module.toNode .node :=
  fun j => asksOn_run (fun w : Workspace => w.module.toNode) Answer.node w j

theorem asks_text (w : Workspace) (l : Layout) : w.Asks (.text l) (w.module.toText l) .text :=
  fun j => asksOn_run (fun w : Workspace => w.module.toText l) Answer.text w j

theorem step_inspect (w : Workspace) (key : String) (i : Inspection) (j : Journal) :
    step (.inspect key i) w j = (match w.funcs.get? key with
      | none => pure .unknown
      | some f => liftM (f.inspect i) : BuildOn Workspace Answer) w j := rfl

theorem asks_inspect {w : Workspace} {key : String} {f : Func} (h : w.funcs.get? key = some f)
    (i : Inspection) : w.Asks (.inspect key i) (f.inspect i) id := by
  intro j
  rw [step_inspect, h, Except.map_id]
  rfl

theorem asks_inspect_unknown {w : Workspace} {key : String} (h : w.funcs.get? key = none)
    (i : Inspection) : w.Asks (.inspect key i) (pure ()) fun _ => .unknown := by
  intro j
  rw [step_inspect, h]
  rfl

/-- A question is answered, and the workspace goes on unchanged. -/
theorem Asks.run_cons {α : Type} {w : Workspace} {c : Command} {x : BuildM α} {g : α → Answer}
    (h : w.Asks c x g) (j : Journal) (rest : List Command) :
    w.run j (c :: rest) =
      ((x j).1.map g :: (w.run (x j).2 rest).1, (w.run (x j).2 rest).2) := by
  rw [run, h j]

theorem run_render (w : Workspace) (j : Journal) (rest : List Command) :
    w.run j (.render :: rest) =
      ((w.module.toNode j).1.map .node :: (w.run (w.module.toNode j).2 rest).1,
        (w.run (w.module.toNode j).2 rest).2) :=
  w.asks_render.run_cons j rest

theorem run_text (w : Workspace) (l : Layout) (j : Journal) (rest : List Command) :
    w.run j (.text l :: rest) =
      ((w.module.toNode j).1.map (fun n => .text (n.render l)) ::
          (w.run (w.module.toNode j).2 rest).1,
        (w.run (w.module.toNode j).2 rest).2) := by
  rw [(w.asks_text l).run_cons, Module.toText_run]
  cases (w.module.toNode j).1 <;> rfl

theorem run_inspect (w : Workspace) {key : String} {f : Func} (h : w.funcs.get? key = some f)
    (i : Inspection) (j : Journal) (rest : List Command) :
    w.run j (.inspect key i :: rest) =
      ((f.inspect i j).1 :: (w.run (f.inspect i j).2 rest).1,
        (w.run (f.inspect i j).2 rest).2) := by
  rw [(asks_inspect h i).run_cons, Except.map_id]
  rfl

theorem run_inspect_unknown (w : Workspace) {key : String} (h : w.funcs.get? key = none)
    (i : Inspection) (j : Journal) (rest : List Command) :
    w.run j (.inspect key i :: rest) = (.ok .unknown :: (w.run j rest).1, (w.run j rest).2) :=
  (asks_inspect_unknown h i).run_cons j rest

end WatText.Workspace
