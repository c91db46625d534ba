import WatText.Proofs.Instr.Decoding
import WatText.Proofs.Recorder.Exact

/-!
# Recorded texts are unambiguous

`text_eq_iff_parts_eq`: two accepted calls record the same text exactly if they ask for the same
kind of instruction, on the same value type, with the same width, sign and operand as far as they
have these. One decoder reads all of this off the text.

`Instr.Parts` is what there is to know of an instruction. Acceptance does not change it
(`Action.parts_of_instr?`), the text is made of it (`Instr.text_eq`), and decoding gives it back
(`Instr.parts_of_decode?`).
-/

namespace WatText

/-- The kinds of instructions. The sized forms of `load` and `store` are kinds of their own. -/
inductive Instr.Kind where
  | indexed (op : IndexedOp)
  | bare (op : BareOp)
  | numeric (op : NumOp)
  deriving DecidableEq

/-- What there is to know of an instruction. -/
structure Instr.Parts where
  kind : Kind
  ty : Option NumType := none
  bits : Option UInt32 := none
  sign : Option Sign := none
  /-- The index or the literal as it displays. -/
  operand : Option String := none
  deriving DecidableEq

/-! ## Parts of instructions -/

namespace Numeric

def bits? : Numeric → Option UInt32
  | sizedLoad bits _ | sizedStore bits => some bits
  | _ => none

def sign? : Numeric → Option Sign
  | div sign | rem sign | sizedLoad _ sign => some sign
  | _ => none

def operand? : Numeric → Option String
  | const value => some value.text
  | _ => none

end Numeric

namespace Instr

def parts : Instr → Parts
  | indexed op index => { kind := .indexed op, operand := some index.text }
  | bare op => { kind := .bare op }
  | numeric ty n =>
    { kind := .numeric n.op, ty := some ty, bits := n.bits?, sign := n.sign?,
      operand := n.operand? }

/-- The text of an instruction with these parts: each part that there is, behind a mark of its
own. -/
def Parts.text (p : Parts) : String :=
  let head := match p.kind with
    | .indexed op => op.keyword
    | .bare op => op.keyword
    | .numeric op => (p.ty.elim "" fun ty => ty.text ++ ".") ++ op.name
  head ++ (p.bits.elim "" fun n => n.toNat.repr) ++ (p.sign.elim "" fun s => "_" ++ s.text) ++
    (p.operand.elim "" fun text => " " ++ text)

theorem text_eq (i : Instr) : i.text = i.parts.text := by
  cases i with
  | indexed op index => simp [text, parts, Parts.text, String.append_assoc]
  | bare op => simp [text, parts, Parts.text]
  | numeric ty n =>
    cases n <;>
      simp [text, parts, Parts.text, Numeric.mnemonic, Numeric.suffix, Numeric.bits?, Numeric.sign?,
        Numeric.operand?, String.append_assoc]

/-- Displaying the index or the literal keeps the parts. -/
theorem parts_shown (i : Instr) : i.shown.parts = i.parts := by
  cases i with
  | indexed op index => rfl
  | bare op => rfl
  | numeric ty n => cases n <;> rfl

theorem parts_of_decode? (i : Instr) : (decode? i.text).map parts = some i.parts := by
  rw [decode?_text, Option.map_some, parts_shown]

end Instr

/-! ## Parts of calls -/

/-- The sign that a flag means, if it means one. -/
def SignFlag.sign? : SignFlag → Option Sign
  | sign s => some s
  | text flag => Sign.ofText? flag

namespace Request

/-- The operation that is asked for: a `load` or a `store` with a width is a sized one. -/
def op : Request → NumOp
  | add => .add
  | sub => .sub
  | mul => .mul
  | const _ => .const
  | div _ => .div
  | rem _ => .rem
  | load none _ => .load
  | load (some _) _ => .sizedLoad
  | store none => .store
  | store (some _) => .sizedStore

def bits? : Request → Option UInt32
  | load bits _ | store bits => bits
  | _ => none

def sign? : Request → Option Sign
  | div flag | rem flag | load _ (some flag) => flag.sign?
  | _ => none

def operand? : Request → Option String
  | const value => some value.text
  | _ => none

end Request

/-- The parts of the instruction that an action asks for in the run with a number. -/
def Action.parts (run : Nat) : Action → Instr.Parts
  | .indexed op index => { kind := .indexed op, operand := some index.text }
  | .bare op => { kind := .bare op }
  | .numeric ty request =>
    { kind := .numeric request.op, ty := some ty, bits := request.bits?, sign := request.sign?,
      operand := request.operand? }
  | .runNumber ty => { kind := .numeric .const, ty := some ty, operand := some run.repr }

theorem SignFlag.sign?_of_resolve {site : OperandSite} {flag : SignFlag} {s : Sign}
    (h : flag.resolve site = .ok s) : flag.sign? = some s := by
  rcases resolve_eq_ok_iff.1 h with rfl | rfl
  · rfl
  · exact Sign.ofText?_text s

/-- An accepted request gives an instruction with the parts that it asks for. -/
theorem Request.parts_of_resolve {ty : NumType} {caps : WidthCaps} {request : Request}
    {n : Numeric} (h : request.resolve ty caps = .ok n) (run : Nat) :
    (Action.numeric ty request).parts run = (Instr.numeric ty n).parts := by
  cases request with
  | add | sub | mul => cases h; rfl
  | const value => cases h; rfl
  | div flag =>
    obtain ⟨s, hs, h⟩ := eq_ok_of_bind h
    obtain ⟨-, -, h⟩ := eq_ok_of_bind h
    cases h
    exact congrArg (fun sign => ({ kind := .numeric .div, ty := some ty, sign } : Instr.Parts))
      (flag.sign?_of_resolve hs)
  | rem flag =>
    obtain ⟨-, -, h⟩ := eq_ok_of_bind h
    obtain ⟨s, hs, h⟩ := eq_ok_of_bind h
    cases h
    exact congrArg (fun sign => ({ kind := .numeric .rem, ty := some ty, sign } : Instr.Parts))
      (flag.sign?_of_resolve hs)
  | load bits flag =>
    cases flag with
    | none =>
      cases bits with
      | none => cases h; rfl
      | some bits => cases h
    | some flag =>
      obtain ⟨s, hs, h⟩ := eq_ok_of_bind h
      cases bits with
      | none => cases h
      | some bits =>
        obtain ⟨-, -, h⟩ := eq_ok_of_bind h
        cases h
        exact congrArg (fun sign =>
          ({ kind := .numeric .sizedLoad, ty := some ty, bits := some bits, sign } : Instr.Parts))
          (flag.sign?_of_resolve hs)
  | store bits =>
    cases bits with
    | none => cases h; rfl
    | some bits =>
      obtain ⟨-, -, h⟩ := eq_ok_of_bind h
      cases h
      rfl

/-- An accepted action gives an instruction with the parts that it asks for. -/
theorem Action.parts_of_instr? {r : Recorder} {a : Action} {i : Instr} (h : r.instr? a = .ok i) :
    a.parts r.run = i.parts := by
  cases a with
  | indexed op index => cases h; rfl
  | bare op => cases h; rfl
  | runNumber ty => cases h; rfl
  | numeric ty request =>
    have hmap : (request.resolve ty r.caps).map (Instr.numeric ty) = .ok i := h
    cases hr : request.resolve ty r.caps with
    | error e => rw [hr] at hmap; cases hmap
    | ok n =>
      rw [hr] at hmap
      cases hmap
      exact Request.parts_of_resolve hr r.run

namespace Recorder

/-- **Instruction texts are unambiguous.** Under whatever limits two calls are accepted, their texts
are equal exactly if their parts are, and the parts can be read off the text. -/
theorem text_eq_iff_parts_eq {r r' : Recorder} {a a' : Action} {i i' : Instr}
    (h : (r.perform a).1 = .ok i) (h' : (r'.perform a').1 = .ok i') :
    (i.text = i'.text ↔ a.parts r.run = a'.parts r'.run) ∧
      (Instr.decode? i.text).map Instr.parts = some (a.parts r.run) := by
  rw [perform_fst] at h h'
  rw [Action.parts_of_instr? h, Action.parts_of_instr? h']
  refine ⟨⟨fun htext => ?_, fun hparts => ?_⟩, i.parts_of_decode?⟩
  · have hsome : some i.parts = some i'.parts := by
      rw [← i.parts_of_decode?, htext, i'.parts_of_decode?]
    exact Option.some.inj hsome
  · rw [i.text_eq, hparts, ← i'.text_eq]

/-- A sized load by its flag. -/
def loadByte : Action :=
  .numeric .i32 (.load (some 8) (some (.text "s")))

/-- A local whose name reads like that load. -/
def getLoadByte : Action :=
  .indexed .getLocal (.name "i32.load8_s")

/-- A load and an operand that reads like it are told apart. -/
theorem text_eq_iff_parts_eq_load :
    ∃ i i' : Instr,
      (perform { caps := { i32 := 8, i64 := 0 } } loadByte).1 = .ok i ∧
      (perform {} getLoadByte).1 = .ok i' ∧
      i.text = "i32.load8_s" ∧ i'.text = "get_local i32.load8_s" ∧
      (i.text = i'.text ↔ loadByte.parts 1 = getLoadByte.parts 1) ∧
      (Instr.decode? i.text).map Instr.parts = some (loadByte.parts 1) := by
  have h : (perform { caps := { i32 := 8, i64 := 0 } } loadByte).1 =
      .ok (.numeric .i32 (.sizedLoad 8 .signed)) := rfl
  have h' : (perform {} getLoadByte).1 = .ok (.indexed .getLocal (.name "i32.load8_s")) := rfl
  exact ⟨_, _, h, h', by decide, by decide, text_eq_iff_parts_eq h h'⟩

end Recorder

end WatText
