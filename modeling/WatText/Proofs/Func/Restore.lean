import WatText.Proofs.Func.Runs
import WatText.Proofs.Node.ReadBack
import WatText.Proofs.Recorder

/-!
# Functions read back

`Func.restored_nodeOf`: the node of a readable function is restored from what the reader makes of
its text (`Node.spread`) by joining the words of its instructions (`Node.joinFunc`).

Reading changes nothing about names and declarations (`Node.Kept`), because every symbol in them is
one word. Only the instructions are spread, and `Node.joinWords_append` puts them together again.
What a run of a readable function records is readable (`Func.readable_of_nextRun`).
-/

namespace WatText

namespace Node

/-! ## Nodes that reading keeps -/

theorem readableEach_iff {nodes : List Node} :
    ReadableEach nodes ↔ ∀ n ∈ nodes, n.Readable := by
  induction nodes with
  | nil => rw [ReadableEach]; exact iff_of_true trivial nofun
  | cons node nodes ih => rw [ReadableEach, ih, List.forall_mem_cons]

theorem spreadEach_eq_flatMap (nodes : List Node) : spreadEach nodes = nodes.flatMap spread := by
  induction nodes with
  | nil => rw [spreadEach]; rfl
  | cons node nodes ih => rw [spreadEach, ih, List.flatMap_cons]

/-- Whether a node is readable and is read back as it is. -/
structure Kept (n : Node) : Prop where
  readable : n.Readable
  spread : n.spread = [n]

theorem kept_string (text : String) : (string text).Kept where
  readable := by rw [Readable]; trivial
  spread := by rw [Node.spread]

theorem kept_symbol {text : String} (h : IsWord text) : (symbol text).Kept where
  readable := by
    rw [Readable, words_eq_singleton h]
    simpa using h
  spread := by
    rw [Node.spread, words_eq_singleton h]
    rfl

theorem spreadEach_of_kept {nodes : List Node} (h : ∀ n ∈ nodes, n.Kept) :
    spreadEach nodes = nodes := by
  induction nodes with
  | nil => rw [spreadEach]
  | cons node nodes ih =>
    rw [spreadEach, (h node List.mem_cons_self).spread,
      ih fun n hn => h n (List.mem_cons_of_mem node hn)]
    rfl

theorem kept_list {tag : String} (ht : IsWord tag) {children : List Node}
    (h : ∀ n ∈ children, n.Kept) : (list tag children).Kept where
  readable := by
    rw [Readable]
    exact ⟨ht, readableEach_iff.2 fun n hn => (h n hn).readable⟩
  spread := by rw [Node.spread, spreadEach_of_kept h]

/-! ## Nodes that are restored -/

/-- Joins the words of the instructions of a function. -/
def joinFunc : Node → Node
  | list tag children => if tag = "func" then list tag (joinWords children) else list tag children
  | node => node

/-- Whether a node is readable and restored, after it was read back, by joining words. -/
structure Restored (n : Node) : Prop where
  readable : n.Readable
  join_spread : n.spread.map joinFunc = [n]

theorem Kept.restored {tag : String} {children : List Node} (h : (list tag children).Kept)
    (ht : tag ≠ "func") : (list tag children).Restored where
  readable := h.readable
  join_spread := by
    rw [h.spread, List.map_singleton, joinFunc, if_neg ht]

theorem map_joinFunc_spreadEach {nodes : List Node} (h : ∀ n ∈ nodes, n.Restored) :
    (spreadEach nodes).map joinFunc = nodes := by
  induction nodes with
  | nil => rw [spreadEach]; rfl
  | cons node nodes ih =>
    rw [spreadEach, List.map_append, (h node List.mem_cons_self).join_spread,
      ih fun n hn => h n (List.mem_cons_of_mem node hn)]
    rfl

theorem spreadEach_instrs {instrs : List Instr} (h : ∀ i ∈ instrs, i.Readable) :
    spreadEach (instrs.map fun i => symbol i.text) = (instrs.flatMap Instr.pieces).map symbol := by
  induction instrs with
  | nil => rw [List.map_nil, spreadEach]; rfl
  | cons i instrs ih =>
    rw [List.map_cons, spreadEach, ih fun i' hi' => h i' (List.mem_cons_of_mem i hi'), spread,
      Instr.words_text (h i List.mem_cons_self), List.flatMap_cons, List.map_append]

end Node

/-! ## Declarations -/

theorem Operand.kept_toNode {o : Operand} (h : ∀ name ∈ o.name, IsWord name) : o.toNode.Kept := by
  have hrole : IsWord o.role.text := by cases o.role <;> decide
  have hty : IsWord o.ty.text := by cases o.ty <;> decide
  apply Node.kept_list hrole
  intro n hn
  rcases List.mem_append.1 hn with hn | hn
  · obtain ⟨name, hname, rfl⟩ := Option.map_eq_some_iff.1 (Option.mem_toList.1 hn)
    exact Node.kept_symbol (h name hname)
  · rw [List.mem_singleton.1 hn]
    exact Node.kept_symbol hty

/-- Whether every name that the declarations show is one word. -/
def Signature.Readable (σ : Signature) : Prop :=
  ∀ e ∈ σ.slots.entries, ∀ name ∈ (e.1.present e.2).name, IsWord name

theorem Signature.kept_of_mem_toNodes {σ : Signature} (h : σ.Readable) :
    ∀ n ∈ σ.toNodes, n.Kept := by
  intro n hn
  obtain ⟨e, he, rfl⟩ := List.mem_map.1 hn
  exact Operand.kept_toNode (h e he)

theorem Signature.exists_of_mem_toNodes {σ : Signature} {n : Node} (h : n ∈ σ.toNodes) :
    ∃ tag children, n = .list tag children := by
  obtain ⟨e, -, rfl⟩ := List.mem_map.1 h
  exact ⟨_, _, rfl⟩

/-! ## Functions -/

namespace Func

/-- Whether every name that the declarations show, and every name and text that the body hands on
as it is, is one word. -/
structure Readable (f : Func) : Prop where
  signature : f.signature.Readable
  body : ∀ body ∈ f.body, ∀ step ∈ body.script, step.action.Readable

theorem ne_symbol_of_mem_head {f : Func} {n : Node} (h : n ∈ .string f.name :: f.signature.toNodes)
    (v : String) : n ≠ .symbol v := by
  rcases List.mem_cons.1 h with rfl | h
  · nofun
  · obtain ⟨tag, children, rfl⟩ := Signature.exists_of_mem_toNodes h
    nofun

theorem kept_of_mem_head {f : Func} (hf : f.signature.Readable) :
    ∀ n ∈ Node.string f.name :: f.signature.toNodes, n.Kept := by
  intro n hn
  rcases List.mem_cons.1 hn with rfl | hn
  · exact Node.kept_string f.name
  · exact Signature.kept_of_mem_toNodes hf n hn

/-- The node of a function without instructions is read back as it is. -/
theorem kept_nodeOf_nil {f : Func} (hf : f.signature.Readable) : (f.nodeOf []).Kept := by
  unfold nodeOf
  rw [List.map_nil, List.append_nil]
  exact Node.kept_list (by decide) (kept_of_mem_head hf)

/-- **Functions are restored.** -/
theorem restored_nodeOf {f : Func} (hf : f.signature.Readable) {instrs : List Instr}
    (hi : ∀ i ∈ instrs, i.Readable) : (f.nodeOf instrs).Restored := by
  have hhead := kept_of_mem_head hf
  constructor
  · unfold nodeOf
    rw [Node.Readable, Node.readableEach_iff]
    constructor
    · decide
    intro n hn
    rw [← List.cons_append] at hn
    rcases List.mem_append.1 hn with hn | hn
    · exact (hhead n hn).readable
    · obtain ⟨i, hmem, rfl⟩ := List.mem_map.1 hn
      rw [Node.Readable, Instr.words_text (hi i hmem)]
      exact Instr.isWord_of_mem_pieces (hi i hmem)
  · unfold nodeOf
    rw [Node.spread, List.map_singleton, ← List.cons_append, Node.spreadEach_eq_flatMap,
      List.flatMap_append, ← Node.spreadEach_eq_flatMap, ← Node.spreadEach_eq_flatMap,
      Node.spreadEach_of_kept hhead, Node.spreadEach_instrs hi, Node.joinFunc, if_pos rfl,
      Node.joinWords_append (fun n hn => ne_symbol_of_mem_head hn) hi]

/-- A run of a readable function records readable instructions. -/
theorem readable_of_nextRun {f : Func} (hf : f.Readable) (runs : Tally) :
    ∀ i ∈ (f.nextRun runs).2, i.Readable := by
  intro i hi
  unfold nextRun at hi
  cases hb : f.body with
  | none => rw [hb] at hi; cases hi
  | some body =>
    rw [hb] at hi
    rcases Recorder.mem_instrs_play hi with hi | ⟨step, hstep, hi⟩
    · cases hi
    · exact Action.readable_of_instr? (hf.body body hb step hstep) hi

theorem readable_of_playEach {fs : List Func} (hfs : ∀ f ∈ fs, f.Readable) {runs : Tally}
    {bodies : List (List Instr)} (h : playEach fs runs = .ok bodies) :
    ∀ instrs ∈ bodies, ∀ i ∈ instrs, i.Readable := by
  induction fs generalizing runs bodies with
  | nil => cases h; exact nofun
  | cons f fs ih =>
    obtain ⟨instrs, rest, hrun, hrest, rfl⟩ := playEach_cons_eq_ok h
    intro instrs' hmem
    rcases List.mem_cons.1 hmem with rfl | hmem
    · have hi := readable_of_nextRun (hfs f List.mem_cons_self) runs
      rwa [hrun] at hi
    · exact ih (fun f' hf' => hfs f' (List.mem_cons_of_mem f hf')) hrest instrs' hmem

end Func

end WatText
