import WatText.BuildError
import WatText.Instr.Basic

/-!
# Requests for numeric instructions

A `Request` is a numeric instruction as it is asked for: sign flags may be texts, widths are not
checked yet, and `load` may have a width without a sign. `Request.resolve` checks a request against
a value type and the width limits. The order of its checks decides which of two faults is reported.
-/

namespace WatText

/-- A sign as it is asked for: a sign, or the text of a flag. -/
inductive SignFlag where
  | sign (s : Sign)
  | text (flag : String)
  deriving DecidableEq

/-- The sign of a flag. A text that is no flag is a fault of `site`. -/
def SignFlag.resolve (site : OperandSite) : SignFlag → Except BuildError Sign
  | sign s => .ok s
  | text flag =>
    match Sign.ofText? flag with
    | some s => .ok s
    | none => .error (.invalidOperand site (.unknownSign flag))

theorem SignFlag.resolve_eq_ok_iff {site : OperandSite} {flag : SignFlag} {s : Sign} :
    flag.resolve site = .ok s ↔ flag = .sign s ∨ flag = .text s.text := by
  cases flag with
  | sign s' => simp [resolve]
  | text t =>
    have hiff := @Sign.ofText?_eq_some_iff t s
    rw [resolve]
    cases ht : Sign.ofText? t with
    | none => rw [ht] at hiff; simpa using hiff
    | some s' => rw [ht] at hiff; simpa using hiff

theorem SignFlag.resolve_eq_error_iff {site : OperandSite} {flag : SignFlag} {e : BuildError} :
    flag.resolve site = .error e ↔
      ∃ t, flag = .text t ∧ t ≠ "s" ∧ t ≠ "u" ∧ e = .invalidOperand site (.unknownSign t) := by
  cases flag with
  | sign s => simp [resolve]
  | text t =>
    rw [resolve]
    unfold Sign.ofText?
    by_cases hs : t = "s"
    · simp [hs]
    · by_cases hu : t = "u"
      · simp [hu]
      · simp [hs, hu, eq_comm]

/-- A numeric instruction as it is asked for. -/
inductive Request where
  | add
  | sub
  | mul
  | const (value : Literal)
  | div (flag : SignFlag)
  | rem (flag : SignFlag)
  | load (bits : Option UInt32) (flag : Option SignFlag)
  | store (bits : Option UInt32)
  deriving DecidableEq

/-- Refuses an operation that the value type does not support. -/
def NumType.requireOp (ty : NumType) (op : NumOp) : Except BuildError Unit :=
  if ty.supports op then .ok () else .error (.unsupported op ty)

/-- Refuses a width that a sized access may not have: on a float every width, then every width that
is no positive multiple of eight, then every width above the limit of the type. -/
def WidthCaps.requireWidth (caps : WidthCaps) (ty : NumType) (op : NumOp) (bits : UInt32) :
    Except BuildError Unit := do
  ty.requireOp op
  if bits = 0 ∨ bits % 8 ≠ 0 then
    throw (.invalidOperand (.operation op) (.notWholeBytes bits))
  match caps.maxBits? ty with
  | some max => if bits ≤ max then pure () else throw (.outOfRange op ty bits max)
  | none => throw (.unsupported op ty)

namespace Request

/-- A load with a width and a sign, or without both. One of the two alone is a fault whatever the
value type. -/
def resolveLoad (ty : NumType) (caps : WidthCaps) :
    Option UInt32 → Option Sign → Except BuildError Numeric
  | none, none => .ok .load
  | some bits, some sign => do
    caps.requireWidth ty .sizedLoad bits
    return .sizedLoad bits sign
  | some _, none => .error (.invalidOperand (.operation .load) .widthWithoutSign)
  | none, some _ => .error (.invalidOperand (.operation .load) .signWithoutWidth)

/-- The instruction that a request stands for on a value type, or why there is none. The flag of a
division is read before its type is looked at, the flag of a remainder after; the flag of a load is
read on its own, before its width. -/
def resolve (ty : NumType) (caps : WidthCaps) : Request → Except BuildError Numeric
  | add => .ok .add
  | sub => .ok .sub
  | mul => .ok .mul
  | const value => .ok (.const value)
  | div flag => do
    let sign ← flag.resolve (.operation .div)
    ty.requireOp .div
    return .div sign
  | rem flag => do
    ty.requireOp .rem
    let sign ← flag.resolve (.operation .rem)
    return .rem sign
  | load bits flag =>
    match flag with
    | none => resolveLoad ty caps bits none
    | some flag => do
      let sign ← flag.resolve .signFlag
      resolveLoad ty caps bits (some sign)
  | store none => .ok .store
  | store (some bits) => do
    caps.requireWidth ty .sizedStore bits
    return .sizedStore bits

end Request

end WatText
