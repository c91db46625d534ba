import WatText.Instr.Decode
import WatText.Proofs.Text.Numeral

/-!
# Instruction texts are decoded

`decode?_text`: decoding the text of an instruction gives the instruction, with its index or literal
as it displays.

A text begins with a keyword and a blank, or with a value type and a point. No such beginning is a
prefix of another, so the right one is the only one that fits (`after?_eq_none`), and whatever
follows it cannot be taken for a different instruction.
-/

namespace WatText

/-! ## Beginnings -/

/-- A text with one beginning does not have another, if neither is a prefix of the other. -/
theorem after?_eq_none {head other : List Char} (h : ¬head <+: other) (h' : ¬other <+: head)
    (cs : List Char) : after? head (other ++ cs) = none := by
  cases ha : after? head (other ++ cs) with
  | none => rfl
  | some rest =>
    have hhead : head <+: other ++ cs := ⟨rest, (eq_append_of_after? ha).symm⟩
    rcases List.prefix_or_prefix_of_prefix hhead (List.prefix_append other cs) with hp | hp
    · exact absurd hp h
    · exact absurd hp h'

/-- A search finds what it finds at the one place where it can succeed. -/
theorem findSome?_eq_of_forall {α β : Type} {g : α → Option β} {as : List α} {a : α} (ha : a ∈ as)
    (h : ∀ b ∈ as, b ≠ a → g b = none) : as.findSome? g = g a := by
  induction as with
  | nil => cases ha
  | cons b as ih =>
    have hlater := fun c hc => h c (List.mem_cons_of_mem b hc)
    rw [List.findSome?_cons]
    by_cases hb : b = a
    · subst hb
      cases hg : g b with
      | some c => rfl
      | none =>
        refine List.findSome?_eq_none_iff.2 fun c hc => ?_
        by_cases hcb : c = b
        · rw [hcb, hg]
        · exact hlater c hc hcb
    · rw [h b List.mem_cons_self hb]
      exact ih ((List.mem_cons.1 ha).resolve_left fun he => hb he.symm) hlater

/-! ## Widths and signs -/

theorem width?_append (n : UInt32) {rest : List Char} (h : ∀ c ∈ rest.head?, c.isDigit = false) :
    width? (n.toNat.repr.toList ++ rest) = some (n, rest) := by
  have hdigits : ∀ c ∈ Nat.toDigits 10 n.toNat, c.isDigit = true := fun c hc =>
    Nat.isDigit_of_mem_toDigits (by decide) (by decide) hc
  have htake : rest.takeWhile Char.isDigit = [] := by
    cases rest with
    | nil => rfl
    | cons c rest => rw [List.takeWhile_cons, h c rfl]; rfl
  have hdrop : rest.dropWhile Char.isDigit = rest := by
    cases rest with
    | nil => rfl
    | cons c rest => rw [List.dropWhile_cons, h c rfl]; rfl
  rw [Nat.toList_repr, width?, List.takeWhile_append_of_pos hdigits,
    List.dropWhile_append_of_pos hdigits, htake, hdrop, List.append_nil, Text.digits?_toDigits,
    Option.map_some, UInt32.ofNat_toNat]

theorem isEmpty_repr_append (n : Nat) (cs : List Char) : (n.repr.toList ++ cs).isEmpty = false := by
  rw [Nat.toList_repr, ← Bool.not_eq_true, List.isEmpty_iff, List.append_eq_nil_iff]
  exact fun h => Nat.toDigits_ne_nil h.1

theorem signSuffix?_text (s : Sign) : signSuffix? ('_' :: s.text.toList) = some s := by
  rw [signSuffix?, String.ofList_toList, Sign.ofText?_text]

namespace Numeric

theorem ofLoadSuffix?_sized (n : UInt32) (s : Sign) :
    ofLoadSuffix? (n.toNat.repr.toList ++ '_' :: s.text.toList) = some (sizedLoad n s) := by
  have hwidth : width? (n.toNat.repr.toList ++ '_' :: s.text.toList) =
      some (n, '_' :: s.text.toList) := width?_append n (by rintro c ⟨⟩; rfl)
  rw [ofLoadSuffix?, isEmpty_repr_append, if_neg Bool.false_ne_true, hwidth]
  show (signSuffix? ('_' :: s.text.toList)).bind _ = _
  rw [signSuffix?_text]
  rfl

theorem ofStoreSuffix?_sized (n : UInt32) :
    ofStoreSuffix? n.toNat.repr.toList = some (sizedStore n) := by
  have hwidth : width? (n.toNat.repr.toList ++ []) = some (n, []) := width?_append n nofun
  have hempty := isEmpty_repr_append n.toNat []
  rw [List.append_nil] at hwidth hempty
  rw [ofStoreSuffix?, hempty, if_neg Bool.false_ne_true, hwidth]
  rfl

/-! ## Mnemonics -/

theorem decode?_const (cs : List Char) :
    decode? ("const ".toList ++ cs) = some (const (.verbatim (String.ofList cs))) := rfl

theorem decode?_load (cs : List Char) : decode? ("load".toList ++ cs) = ofLoadSuffix? cs := by
  have hread : decode? ("load".toList ++ cs) = (ofLoadSuffix? cs <|> none) := rfl
  rw [hread]
  cases ofLoadSuffix? cs <;> rfl

theorem decode?_store (cs : List Char) : decode? ("store".toList ++ cs) = ofStoreSuffix? cs := rfl

/-- What stands behind the value type and the point is decoded. -/
theorem decode?_operation (n : Numeric) :
    decode? (n.op.name.toList ++ n.suffix.toList) = some n.shown := by
  cases n with
  | add | sub | mul | load | store => decide
  | div sign | rem sign => cases sign <;> decide
  | const value =>
    have h := decode?_const value.text.toList
    rw [String.ofList_toList] at h
    have hhead : "const ".toList = "const".toList ++ " ".toList := by decide
    rw [hhead, List.append_assoc] at h
    rw [suffix, String.toList_append]
    exact h
  | sizedLoad bits sign =>
    rw [suffix, String.toList_append, String.toList_append, List.append_assoc]
    exact (decode?_load _).trans (ofLoadSuffix?_sized bits sign)
  | sizedStore bits => exact (decode?_store _).trans (ofStoreSuffix?_sized bits)

end Numeric

/-! ## Instructions -/

/-- The beginning of an instruction with an index. -/
def IndexedOp.head (op : IndexedOp) : List Char :=
  op.keyword.toList ++ [' ']

/-- The beginning of a mnemonic. -/
def NumType.head (ty : NumType) : List Char :=
  ty.text.toList ++ ['.']

theorem IndexedOp.not_prefix_head : ∀ op ∈ all, ∀ op' ∈ all, op' ≠ op →
    ¬op'.head <+: op.head ∧ ¬op.head <+: op'.head := by decide

theorem NumType.not_prefix_head : ∀ ty ∈ all, ∀ ty' ∈ all, ty' ≠ ty →
    ¬ty'.head <+: ty.head ∧ ¬ty.head <+: ty'.head := by decide

theorem IndexedOp.not_prefix_head_numType : ∀ ty ∈ NumType.all, ∀ op ∈ all,
    ¬op.head <+: ty.head ∧ ¬ty.head <+: op.head := by decide

theorem BareOp.not_prefix_keyword : ∀ ty ∈ NumType.all, ∀ op ∈ all,
    ¬ty.head <+: op.keyword.toList := by decide

namespace Instr

theorem decodeIndexed?_indexed (op : IndexedOp) (cs : List Char) :
    decodeIndexed? (op.head ++ cs) = some (indexed op (.name (String.ofList cs))) := by
  rw [decodeIndexed?, findSome?_eq_of_forall op.mem_all]
  · show ((after? op.head (op.head ++ cs)).map _) = _
    rw [after?_append]
    rfl
  · intro op' hop' hne
    obtain ⟨h, h'⟩ := IndexedOp.not_prefix_head op op.mem_all op' hop' hne
    show ((after? op'.head (op.head ++ cs)).map _) = _
    rw [after?_eq_none h h']
    rfl

theorem decodeNumeric?_numeric (ty : NumType) (cs : List Char) :
    decodeNumeric? (ty.head ++ cs) = (Numeric.decode? cs).map (numeric ty) := by
  rw [decodeNumeric?, findSome?_eq_of_forall ty.mem_all]
  · show ((after? ty.head (ty.head ++ cs)).bind _).map _ = _
    rw [after?_append]
    rfl
  · intro ty' hty' hne
    obtain ⟨h, h'⟩ := NumType.not_prefix_head ty ty.mem_all ty' hty' hne
    show ((after? ty'.head (ty.head ++ cs)).bind _).map _ = _
    rw [after?_eq_none h h']
    rfl

theorem decodeIndexed?_numeric (ty : NumType) (cs : List Char) :
    decodeIndexed? (ty.head ++ cs) = none := by
  refine List.findSome?_eq_none_iff.2 fun op hop => ?_
  obtain ⟨h, h'⟩ := IndexedOp.not_prefix_head_numType ty ty.mem_all op hop
  show ((after? op.head (ty.head ++ cs)).map _) = _
  rw [after?_eq_none h h']
  rfl

theorem decodeBare?_numeric (ty : NumType) (cs : List Char) :
    decodeBare? (ty.head ++ cs) = none := by
  have hnone : (BareOp.all.find? fun op => ty.head ++ cs = op.keyword.toList) = none := by
    rw [List.find?_eq_none]
    intro op hop heq
    have hp : ty.head <+: op.keyword.toList := ⟨cs, of_decide_eq_true heq⟩
    exact BareOp.not_prefix_keyword ty ty.mem_all op hop hp
  rw [decodeBare?, hnone]
  rfl

/-- **Decoding recovers every instruction.** -/
theorem decode?_text (i : Instr) : decode? i.text = some i.shown := by
  cases i with
  | indexed op index =>
    have htext : (indexed op index).text.toList = op.head ++ index.text.toList := by
      rw [text, String.toList_append, String.toList_append]
      rfl
    rw [decode?, htext, decodeIndexed?_indexed, String.ofList_toList]
    rfl
  | bare op => cases op <;> decide
  | numeric ty n =>
    have htext : (numeric ty n).text.toList = ty.head ++ (n.op.name.toList ++ n.suffix.toList) := by
      rw [text, Numeric.mnemonic, String.toList_append, String.toList_append, String.toList_append,
        List.append_assoc]
      rfl
    rw [decode?, htext, decodeIndexed?_numeric, decodeBare?_numeric, decodeNumeric?_numeric,
      Numeric.decode?_operation]
    rfl

end Instr

end WatText
