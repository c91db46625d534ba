import WatText.Proofs.Module.WellFormed
import WatText.Proofs.Workspace.History

/-!
# Well-formed workspaces

`Workspace.wellFormed_history`: through any history, whatever is accepted or refused, every function
that is held has a name and the module is well-formed (`Module.WellFormed`), and every tree that the
module renders to shows it (`Node.ShowsWellFormed`).

A function gets its name when it is built, and extending it keeps the name (`Func.name_grownBy`). So
no deed stores a function without a name or offers one to the module.
-/

namespace WatText

/-! ## Names of functions -/

/-- What is built has a name. -/
theorem FuncPlan.name_ne_of_built? {p : FuncPlan} {counter : Nat} {f : Func}
    (h : p.built? counter = some f) : f.name ≠ "" := by
  unfold built? at h
  split at h
  · cases h
  · next hname =>
    cases h
    rwa [Func.name_grownBy]

namespace Workspace

/-- Whether the functions that a workspace holds have names and its module is well-formed. -/
structure WellFormed (w : Workspace) : Prop where
  funcs : ∀ key f, w.funcs.get? key = some f → f.name ≠ ""
  module : w.module.WellFormed

theorem wellFormed_empty : WellFormed {} where
  funcs := nofun
  module := Module.wellFormed_empty

variable {s : Workspace × Journal}

theorem WellFormed.name_ne_of_stored (h : s.1.WellFormed) {d : Deed} {e : String × Func}
    (he : e ∈ stored s d) : e.2.name ≠ "" := by
  cases d with
  | copy key key' =>
    obtain ⟨f, hf, rfl⟩ := List.mem_map.1 he
    exact h.funcs key f (Option.mem_toList.1 hf)
  | command c =>
    cases c with
    | define key plan =>
      obtain ⟨f, hf, rfl⟩ := List.mem_map.1 he
      exact FuncPlan.name_ne_of_built? (Option.mem_toList.1 hf)
    | extend key e =>
      obtain ⟨f, hf, rfl⟩ := List.mem_map.1 he
      rw [Func.name_grown]
      exact h.funcs key f (Option.mem_toList.1 hf)
    | addImport | addExport | inspect | render | text => cases he

theorem WellFormed.name_ne_of_offered (h : s.1.WellFormed) {offer : Offer} {f : Func}
    (hf : offered s offer = some (.func f)) : f.name ≠ "" := by
  cases offer with
  | stored key =>
    obtain ⟨g, hg, heq⟩ := Option.map_eq_some_iff.1 hf
    cases heq
    exact h.funcs key f hg
  | built plan =>
    obtain ⟨g, hg, heq⟩ := Option.map_eq_some_iff.1 hf
    cases heq
    exact FuncPlan.name_ne_of_built? hg
  | signature ds => cases hf
  | operand o => cases hf

theorem WellFormed.named_of_calls (h : s.1.WellFormed) {d : Deed} {c : Call}
    (hc : c ∈ calls s d) : c.Named := by
  rintro name f rfl
  cases d with
  | copy key key' => cases hc
  | command c =>
    cases c with
    | addExport name' offer =>
      obtain ⟨item, hitem, heq⟩ := List.mem_map.1 hc
      cases heq
      exact h.name_ne_of_offered (Option.mem_toList.1 hitem)
    | addImport path name' ds => cases List.mem_singleton.1 hc
    | define | extend | inspect | render | text => cases hc

/-- **The invariant over one deed.** -/
theorem wellFormed_act (h : s.1.WellFormed) (d : Deed) : (act s d).1.WellFormed := by
  obtain ⟨hworkspace, -⟩ := takes_act h.module.body_eq_none d
  rw [hworkspace]
  constructor
  · intro key f hf
    rcases Table.get?_putAll_cases hf with hmem | hold
    · exact h.name_ne_of_stored hmem
    · exact h.funcs key f hold
  · exact h.module.registerEach fun c hc => h.named_of_calls hc

/-- **Every reachable module is well-formed.** Whatever the history, the functions that are held
have names, the module is well-formed, and it shows so in every tree that it renders to. -/
theorem wellFormed_history (ds : List Deed) (j₀ : Journal) :
    (history ({}, j₀) ds).1.WellFormed ∧
      ∀ (j : Journal) (tree : Node),
        ((history ({}, j₀) ds).1.module.toNode j).1 = .ok tree → tree.ShowsWellFormed := by
  suffices hwell : (history ({}, j₀) ds).1.WellFormed from
    ⟨hwell, fun j tree htree => hwell.module.shows htree⟩
  induction ds using List.reverseRecOn with
  | nil => exact wellFormed_empty
  | append_singleton ds d ih =>
    rw [history_concat]
    exact wellFormed_act ih d

end Workspace

end WatText
