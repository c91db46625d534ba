import WatText.Instr.Decode
import WatText.Proofs.Node.Tokens

/-!
# Instructions as words

`joinWords_append`: instructions that are written as words one after another can be told apart. An
instruction is one word or two, and its first word says which (`takesOperand`), so the words are
read from left to right: the word after a first word that takes an operand is that operand, whatever
it looks like.

The first words that take an operand end in a blank in the texts: the keywords of the instructions
with an index, and the constants. No other mnemonic is one of them, which its first five characters
tell (`take_mnemonic`).
-/

namespace WatText

/-! ## Words that are written -/

theorem isWordChar_of_isDigit {c : Char} (h : c.isDigit = true) : isWordChar c = true := by
  have hne : ∀ d : Char, d.isDigit = false → c ≠ d := by
    rintro d hd rfl
    exact absurd h (by simp [hd])
  rw [isWordChar_iff]
  refine ⟨?_, hne '(' rfl, hne ')' rfl, hne '"' rfl⟩
  unfold isBlank
  simp [hne ' ' rfl, hne '\n' rfl, hne '\t' rfl, hne '\r' rfl]

theorem isWordChar_of_mem_repr {n : Nat} {c : Char} (h : c ∈ n.repr.toList) :
    isWordChar c = true := by
  rw [Nat.toList_repr] at h
  exact isWordChar_of_isDigit (Nat.isDigit_of_mem_toDigits (by decide) (by decide) h)

theorem isWord_repr (n : Nat) : IsWord n.repr :=
  ⟨Nat.repr_ne_empty, fun _ hc => isWordChar_of_mem_repr hc⟩

theorem isWord_append {v w : String} (hv : IsWord v) (hw : ∀ c ∈ w.toList, isWordChar c = true) :
    IsWord (v ++ w) := by
  constructor
  · intro h
    exact hv.1 (String.append_eq_empty_iff.1 h).1
  · intro c hc
    rw [String.toList_append] at hc
    rcases List.mem_append.1 hc with hc | hc
    · exact hv.2 c hc
    · exact hw c hc

theorem IndexedOp.isWord_keyword (op : IndexedOp) : IsWord op.keyword := by
  cases op <;> decide

theorem BareOp.isWord_keyword (op : BareOp) : IsWord op.keyword := by
  cases op <;> decide

theorem isWord_operation (ty : NumType) (op : NumOp) : IsWord (ty.text ++ "." ++ op.name) := by
  cases ty <;> cases op <;> decide

theorem Sign.isWordChar_of_mem_text {s : Sign} {c : Char} (h : c ∈ s.text.toList) :
    isWordChar c = true := by
  have hall : s.text.toList.all isWordChar = true := by cases s <;> decide
  exact List.all_eq_true.1 hall c h

/-! ## One word or two -/

namespace Instr

/-- Whether the index or the literal of an instruction, if it has one, is shown as one word. -/
def Readable : Instr → Prop
  | indexed _ index => IsWord index.text
  | numeric _ (.const value) => IsWord value.text
  | bare _ | numeric _ _ => True

/-- The words of an instruction. -/
def pieces : Instr → List String
  | indexed op index => [op.keyword, index.text]
  | numeric ty (.const value) => [ty.text ++ "." ++ NumOp.const.name, value.text]
  | i => [i.text]

end Instr

/-- The first words of the instructions with two words. -/
def operandHeads : List String :=
  IndexedOp.all.map IndexedOp.keyword ++ NumType.all.map fun ty => ty.text ++ "." ++ NumOp.const.name

/-- Whether a first word is followed by an operand. -/
def takesOperand (w : String) : Bool :=
  operandHeads.contains w

theorem Numeric.isWord_mnemonic (ty : NumType) {n : Numeric} (h : ∀ v, n ≠ .const v) :
    IsWord (n.mnemonic ty) := by
  apply isWord_append (isWord_operation ty n.op)
  intro c hc
  cases n with
  | const v => exact absurd rfl (h v)
  | add | sub | mul | load | store => exact absurd hc (by simp [suffix])
  | div sign | rem sign =>
    rw [suffix, String.toList_append] at hc
    rcases List.mem_append.1 hc with hc | hc
    · cases List.mem_singleton.1 hc
      decide
    · exact Sign.isWordChar_of_mem_text hc
  | sizedLoad bits sign =>
    rw [suffix, String.toList_append, String.toList_append] at hc
    rcases List.mem_append.1 hc with hc | hc
    · rcases List.mem_append.1 hc with hc | hc
      · exact isWordChar_of_mem_repr hc
      · cases List.mem_singleton.1 hc
        decide
    · exact Sign.isWordChar_of_mem_text hc
  | sizedStore bits => exact isWordChar_of_mem_repr hc

/-- The type, the point and the first letter of the operation. -/
theorem Numeric.take_mnemonic (ty : NumType) (n : Numeric) :
    (n.mnemonic ty).toList.take 5 = ty.text.toList ++ '.' :: n.op.name.toList.take 1 := by
  unfold mnemonic
  rw [String.toList_append, String.toList_append, String.toList_append]
  generalize n.op = op
  cases ty <;> cases op <;> rfl

theorem not_mem_take_operandHeads : ∀ ty ∈ NumType.all, ∀ op ∈ NumOp.all, op ≠ .const →
    ty.text.toList ++ '.' :: op.name.toList.take 1 ∉
      operandHeads.map fun w => w.toList.take 5 := by decide

theorem takesOperand_mnemonic (ty : NumType) {n : Numeric} (h : n.op ≠ .const) :
    takesOperand (n.mnemonic ty) = false := by
  -- the beginnings are finitely many, although the widths in the mnemonics are not
  have hnot := not_mem_take_operandHeads ty ty.mem_all n.op n.op.mem_all h
  rw [← Numeric.take_mnemonic ty n] at hnot
  unfold takesOperand
  rw [← Bool.not_eq_true, List.contains_iff_mem]
  exact fun hmem => hnot (List.mem_map.2 ⟨_, hmem, rfl⟩)

theorem op_ne_const {n : Numeric} (h : ∀ v, n ≠ .const v) : n.op ≠ .const := by
  cases n with
  | const v => exact absurd rfl (h v)
  | _ => nofun

namespace Instr

/-- **The two shapes of an instruction.** Its text is one word that takes no operand, or two words
of which the first takes one. -/
theorem shape {i : Instr} (h : i.Readable) :
    (i.pieces = [i.text] ∧ IsWord i.text ∧ takesOperand i.text = false) ∨
      ∃ v w, i.pieces = [v, w] ∧ i.text = v ++ " " ++ w ∧ IsWord v ∧ IsWord w ∧
        takesOperand v = true := by
  cases i with
  | indexed op index =>
    exact .inr ⟨op.keyword, index.text, rfl, rfl, op.isWord_keyword, h, by cases op <;> decide⟩
  | bare op => exact .inl ⟨rfl, op.isWord_keyword, by cases op <;> decide⟩
  | numeric ty n =>
    by_cases hn : ∃ v, n = .const v
    · obtain ⟨v, rfl⟩ := hn
      refine .inr ⟨ty.text ++ "." ++ NumOp.const.name, v.text, rfl, ?_, isWord_operation ty .const, h,
        by cases ty <;> decide⟩
      show ty.text ++ "." ++ NumOp.const.name ++ (" " ++ v.text) = _
      exact String.append_assoc.symm
    · have hv : ∀ v, n ≠ .const v := fun v he => hn ⟨v, he⟩
      refine .inl ⟨?_, n.isWord_mnemonic ty hv, takesOperand_mnemonic ty (op_ne_const hv)⟩
      cases n with
      | const v => exact absurd rfl (hv v)
      | _ => rfl

theorem words_text {i : Instr} (h : i.Readable) : words i.text = i.pieces := by
  rcases shape h with ⟨hp, hw, -⟩ | ⟨v, w, hp, ht, hv, hw, -⟩
  · rw [hp, words_eq_singleton hw]
  · rw [hp, ht, words_append hv hw]

theorem isWord_of_mem_pieces {i : Instr} (h : i.Readable) : ∀ w ∈ i.pieces, IsWord w := by
  rcases shape h with ⟨hp, hw, -⟩ | ⟨v, w, hp, -, hv, hw, -⟩
  · rw [hp]
    simpa using hw
  · rw [hp]
    simpa using ⟨hv, hw⟩

end Instr

/-! ## Joining words to instructions -/

namespace Node

/-- Joins the words among some nodes to instructions. -/
def joinWords : List Node → List Node
  | symbol v :: symbol w :: rest =>
    if takesOperand v then symbol (v ++ " " ++ w) :: joinWords rest
    else symbol v :: joinWords (symbol w :: rest)
  | node :: rest => node :: joinWords rest
  | [] => []

theorem joinWords_symbol {v : String} (h : takesOperand v = false) (rest : List Node) :
    joinWords (symbol v :: rest) = symbol v :: joinWords rest := by
  cases rest with
  | nil => rfl
  | cons node rest =>
    cases node with
    | symbol w => rw [joinWords, h, if_neg (by simp)]
    | string text => rfl
    | list tag children => rfl

theorem joinWords_of_not_symbol {node : Node} (h : ∀ v, node ≠ symbol v) (rest : List Node) :
    joinWords (node :: rest) = node :: joinWords rest := by
  cases node with
  | symbol v => exact absurd rfl (h v)
  | string text => rfl
  | list tag children => rfl

theorem joinWords_pieces {i : Instr} (h : i.Readable) (rest : List Node) :
    joinWords (i.pieces.map symbol ++ rest) = symbol i.text :: joinWords rest := by
  rcases Instr.shape h with ⟨hp, -, ht⟩ | ⟨v, w, hp, hi, -, -, ht⟩
  · rw [hp]
    exact joinWords_symbol ht rest
  · rw [hp, hi]
    show joinWords (symbol v :: symbol w :: rest) = _
    rw [joinWords, if_pos ht]

/-- **Instructions can be told apart.** Joining the words of instructions, after nodes that are no
symbols, gives the nodes and the instructions. -/
theorem joinWords_append {nodes : List Node} (hnodes : ∀ n ∈ nodes, ∀ v, n ≠ symbol v)
    {instrs : List Instr} (hinstrs : ∀ i ∈ instrs, i.Readable) :
    joinWords (nodes ++ (instrs.flatMap Instr.pieces).map symbol) =
      nodes ++ instrs.map fun i => symbol i.text := by
  induction nodes with
  | nil =>
    rw [List.nil_append, List.nil_append]
    induction instrs with
    | nil => rfl
    | cons i instrs ih =>
      rw [List.flatMap_cons, List.map_append, joinWords_pieces (hinstrs i List.mem_cons_self),
        ih fun i' hi' => hinstrs i' (List.mem_cons_of_mem i hi'), List.map_cons]
  | cons node nodes ih =>
    rw [List.cons_append, joinWords_of_not_symbol (hnodes node List.mem_cons_self),
      ih fun n hn => hnodes n (List.mem_cons_of_mem node hn), List.cons_append]

example : joinWords [symbol "nop", symbol "get_local", symbol "nop", symbol "nop"] =
    [symbol "nop", symbol "get_local nop", symbol "nop"] := rfl

end Node

end WatText
