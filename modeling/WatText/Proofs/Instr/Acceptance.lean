import Mathlib.Data.Set.Card
import Mathlib.Order.Interval.Finset.Nat
import WatText.Operand

/-!
# Which numeric requests are accepted

`decides_instr?`: for every value type and all width limits, which of the requests that can be
refused are accepted, and why the others are not.

A sized access is decided by its width alone (`WidthCaps.Allows`, `WidthCaps.Refuses`), in the same
way for a load and a store. A division and a remainder are decided by their flag alone, the
remainder only on an integer.
-/

namespace WatText

/-! ## Widths -/

namespace WidthCaps

/-- Whether a value type allows accesses of a width: a positive number of bytes, up to the limit of
the type. -/
def Allows (caps : WidthCaps) (ty : NumType) (bits : UInt32) : Prop :=
  ∃ max, caps.maxBits? ty = some max ∧ ∃ k, 1 ≤ k ∧ bits.toNat = 8 * k ∧ bits.toNat ≤ max.toNat

/-- Why a width is refused. The operation only gives its name to the error. -/
inductive Refuses (caps : WidthCaps) (ty : NumType) (bits : UInt32) (op : NumOp) :
    BuildError → Prop where
  /-- A type without sized accesses refuses every width. -/
  | unsupported (h : ty.isInteger = false) : Refuses caps ty bits op (.unsupported op ty)
  /-- A width that is no positive number of bytes is refused as such, also above the limit. -/
  | notWholeBytes (hty : ty.isInteger = true) (h : bits.toNat = 0 ∨ ¬8 ∣ bits.toNat) :
      Refuses caps ty bits op (.invalidOperand (.operation op) (.notWholeBytes bits))
  | outOfRange (max : UInt32) (hmax : caps.maxBits? ty = some max)
      (hbits : ¬(bits.toNat = 0 ∨ ¬8 ∣ bits.toNat)) (h : max.toNat < bits.toNat) :
      Refuses caps ty bits op (.outOfRange op ty bits max)

variable {caps : WidthCaps} {ty : NumType} {bits : UInt32} {op : NumOp}

theorem isInteger_of_maxBits? {max : UInt32} (h : caps.maxBits? ty = some max) :
    ty.isInteger = true := by
  rw [← caps.isSome_maxBits?, h]
  rfl

theorem Refuses.not_allows {e : BuildError} (h : caps.Refuses ty bits op e) :
    ¬caps.Allows ty bits := by
  rintro ⟨max, hmax, k, hk, hbits, hle⟩
  cases h with
  | unsupported hty => exact absurd (isInteger_of_maxBits? hmax) (by simp [hty])
  | notWholeBytes hty hb => omega
  | outOfRange max' hmax' hb hlt =>
    rw [hmax] at hmax'
    cases hmax'
    omega

theorem Refuses.eq {e e' : BuildError} (h : caps.Refuses ty bits op e)
    (h' : caps.Refuses ty bits op e') : e = e' := by
  cases h with
  | unsupported hty =>
    cases h' with
    | unsupported => rfl
    | notWholeBytes hty' => rw [hty] at hty'; cases hty'
    | outOfRange max hmax => rw [isInteger_of_maxBits? hmax] at hty; cases hty
  | notWholeBytes hty hb =>
    cases h' with
    | unsupported hty' => rw [hty] at hty'; cases hty'
    | notWholeBytes => rfl
    | outOfRange max hmax hb' => exact absurd hb hb'
  | outOfRange max hmax hb =>
    cases h' with
    | unsupported hty => rw [isInteger_of_maxBits? hmax] at hty; cases hty
    | notWholeBytes hty hb' => exact absurd hb' hb
    | outOfRange max' hmax' => rw [hmax] at hmax'; cases hmax'; rfl

theorem notWholeBytes_iff : (bits = 0 ∨ bits % 8 ≠ 0) ↔ (bits.toNat = 0 ∨ ¬8 ∣ bits.toNat) := by
  rw [← UInt32.toNat_inj, ne_eq, ← UInt32.toNat_inj, Nat.dvd_iff_mod_eq_zero]
  simp

/-- The check of a width allows it or gives the reason to refuse it. -/
theorem requireWidth_cases (hop : op.integerOnly = true) :
    (caps.Allows ty bits ∧ caps.requireWidth ty op bits = .ok ()) ∨
      ∃ e, caps.Refuses ty bits op e ∧ caps.requireWidth ty op bits = .error e := by
  cases hmax : caps.maxBits? ty with
  | none =>
    have hty : ty.isInteger = false := by rw [← caps.isSome_maxBits?, hmax]; rfl
    have hsupports : ¬ty.supports op = true := by simp [NumType.supports, hty, hop]
    refine .inr ⟨_, .unsupported hty, ?_⟩
    rw [requireWidth, NumType.requireOp, if_neg hsupports]
    rfl
  | some max =>
    have hty := isInteger_of_maxBits? hmax
    have hsupports : ty.supports op = true := by simp [NumType.supports, hty]
    have hrest : caps.requireWidth ty op bits =
        if bits = 0 ∨ bits % 8 ≠ 0 then
          .error (.invalidOperand (.operation op) (.notWholeBytes bits))
        else if bits ≤ max then .ok () else .error (.outOfRange op ty bits max) := by
      rw [requireWidth, NumType.requireOp, if_pos hsupports, hmax]
      by_cases hb : bits = 0 ∨ bits % 8 ≠ 0
      · rw [if_pos hb, if_pos hb]; rfl
      · rw [if_neg hb, if_neg hb]; rfl
    rw [hrest]
    by_cases hb : bits = 0 ∨ bits % 8 ≠ 0
    · rw [if_pos hb]
      exact .inr ⟨_, .notWholeBytes hty (notWholeBytes_iff.1 hb), rfl⟩
    · rw [if_neg hb]
      rw [notWholeBytes_iff] at hb
      by_cases hle : bits ≤ max
      · rw [if_pos hle]
        rw [UInt32.le_iff_toNat_le] at hle
        exact .inl ⟨⟨max, hmax, bits.toNat / 8, by omega, by omega, hle⟩, rfl⟩
      · rw [if_neg hle]
        rw [UInt32.le_iff_toNat_le, Nat.not_le] at hle
        exact .inr ⟨_, .outOfRange max hmax hb hle, rfl⟩

theorem requireWidth_eq_ok_iff (hop : op.integerOnly = true) :
    caps.requireWidth ty op bits = .ok () ↔ caps.Allows ty bits := by
  rcases requireWidth_cases hop with ⟨ha, hok⟩ | ⟨e, hr, herr⟩
  · exact iff_of_true hok ha
  · rw [herr]
    exact iff_of_false nofun hr.not_allows

theorem requireWidth_eq_error_iff (hop : op.integerOnly = true) {e : BuildError} :
    caps.requireWidth ty op bits = .error e ↔ caps.Refuses ty bits op e := by
  rcases requireWidth_cases hop with ⟨ha, hok⟩ | ⟨e', hr, herr⟩
  · rw [hok]
    exact iff_of_false nofun fun h => h.not_allows ha
  · rw [herr]
    exact ⟨fun h => by cases h; exact hr, fun h => by rw [hr.eq h]⟩

/-- The allowed widths can be counted: one for each whole byte of the limit. -/
theorem ncard_allows (caps : WidthCaps) (ty : NumType) :
    {bits | caps.Allows ty bits}.ncard = (caps.maxBits? ty).elim 0 fun max => max.toNat / 8 := by
  cases hmax : caps.maxBits? ty with
  | none =>
    have hnone : {bits | caps.Allows ty bits} = ∅ := by
      refine Set.eq_empty_of_forall_notMem fun bits ⟨max, h, _⟩ => ?_
      rw [hmax] at h
      cases h
    rw [hnone, Set.ncard_empty]
    rfl
  | some max =>
    have hlt := max.toNat_lt
    have hwidth : ∀ k ≤ max.toNat / 8, (UInt32.ofNat (8 * k)).toNat = 8 * k := fun k hk =>
      UInt32.toNat_ofNat_of_lt' (by show 8 * k < 2 ^ 32; omega)
    have himage : {bits | caps.Allows ty bits} =
        (fun k => UInt32.ofNat (8 * k)) '' (Finset.Icc 1 (max.toNat / 8) : Finset ℕ) := by
      ext bits
      constructor
      · rintro ⟨max', h, k, hk, hbits, hle⟩
        rw [hmax] at h
        cases h
        refine ⟨k, Finset.mem_coe.2 (Finset.mem_Icc.2 ⟨hk, by omega⟩), ?_⟩
        show UInt32.ofNat (8 * k) = bits
        rw [← hbits, UInt32.ofNat_toNat]
      · rintro ⟨k, hk, rfl⟩
        obtain ⟨hone, hk⟩ := Finset.mem_Icc.1 (Finset.mem_coe.1 hk)
        exact ⟨max, hmax, k, hone, hwidth k hk, by rw [hwidth k hk]; omega⟩
    have hinj : Set.InjOn (fun k => UInt32.ofNat (8 * k))
        (Finset.Icc 1 (max.toNat / 8) : Finset ℕ) := by
      intro k hk k' hk' heq
      have h := congrArg UInt32.toNat heq
      rw [hwidth k (Finset.mem_Icc.1 hk).2, hwidth k' (Finset.mem_Icc.1 hk').2] at h
      omega
    rw [himage, hinj.ncard_image, Set.ncard_coe_finset, Nat.card_Icc, Option.elim_some]
    omega

end WidthCaps

/-! ## Requests -/

namespace Operand

/-- Whether a request with a width is decided by the width alone. -/
structure DecidesByWidth (o : Operand) (op : NumOp) (request : UInt32 → Request)
    (n : UInt32 → Numeric) : Prop where
  ok : ∀ bits i, o.instr? (request bits) = .ok i ↔
    o.caps.Allows o.ty bits ∧ i = .numeric o.ty (n bits)
  error : ∀ bits e, o.instr? (request bits) = .error e ↔ o.caps.Refuses o.ty bits op e

/-- Whether a request with a flag is decided by the flag alone: it has to be a sign, or the letter
of one. -/
structure DecidesByFlag (o : Operand) (op : NumOp) (request : SignFlag → Request)
    (n : Sign → Numeric) : Prop where
  ok : ∀ flag i, o.instr? (request flag) = .ok i ↔
    ∃ s, (flag = .sign s ∨ flag = .text s.text) ∧ i = .numeric o.ty (n s)
  error : ∀ flag e, o.instr? (request flag) = .error e ↔
    ∃ t, flag = .text t ∧ t ≠ "s" ∧ t ≠ "u" ∧
      e = .invalidOperand (.operation op) (.unknownSign t)

theorem decidesByWidth {o : Operand} {op : NumOp} {request : UInt32 → Request}
    {n : UInt32 → Numeric} (hop : op.integerOnly = true)
    (h : ∀ bits, o.instr? (request bits) =
      (o.caps.requireWidth o.ty op bits).map fun _ => .numeric o.ty (n bits)) :
    o.DecidesByWidth op request n where
  ok bits i := by
    rw [h, ← WidthCaps.requireWidth_eq_ok_iff hop]
    cases o.caps.requireWidth o.ty op bits with
    | ok u => simp [Except.map, eq_comm]
    | error e => simp [Except.map]
  error bits e := by
    rw [h, ← WidthCaps.requireWidth_eq_error_iff hop]
    cases o.caps.requireWidth o.ty op bits <;> simp [Except.map]

theorem decidesByFlag {o : Operand} {op : NumOp} {request : SignFlag → Request}
    {n : Sign → Numeric}
    (h : ∀ flag, o.instr? (request flag) =
      (flag.resolve (.operation op)).map fun s => .numeric o.ty (n s)) :
    o.DecidesByFlag op request n where
  ok flag i := by
    simp only [← @SignFlag.resolve_eq_ok_iff (.operation op), h]
    cases flag.resolve (.operation op) with
    | ok s => simp [Except.map, eq_comm]
    | error e => simp [Except.map]
  error flag e := by
    rw [h, ← SignFlag.resolve_eq_error_iff]
    cases flag.resolve (.operation op) <;> simp [Except.map]

/-- How an operand answers the requests that can be refused. -/
structure Decides (o : Operand) : Prop where
  /-- A sized load and a sized store are decided alike. -/
  sizedLoad : ∀ s, o.DecidesByWidth .sizedLoad (fun bits => .load (some bits) (some (.sign s)))
    (.sizedLoad · s)
  sizedStore : o.DecidesByWidth .sizedStore (fun bits => .store (some bits)) .sizedStore
  /-- One width for each whole byte of the limit, and none for floats. -/
  widths : {bits | o.caps.Allows o.ty bits}.ncard =
    (o.caps.maxBits? o.ty).elim 0 fun max => max.toNat / 8
  /-- A width and a sign go together, whatever the type. -/
  widthOnly : ∀ bits, o.instr? (.load (some bits) none) =
    .error (.invalidOperand (.operation .load) .widthWithoutSign)
  signOnly : ∀ s, o.instr? (.load none (some (.sign s))) =
    .error (.invalidOperand (.operation .load) .signWithoutWidth)
  /-- The flag of a load is read before anything else. -/
  loadFlag : ∀ bits s, o.instr? (.load bits (some (.text s.text))) =
    o.instr? (.load bits (some (.sign s)))
  loadBadFlag : ∀ bits t, t ≠ "s" → t ≠ "u" →
    o.instr? (.load bits (some (.text t))) = .error (.invalidOperand .signFlag (.unknownSign t))
  plainLoad : o.instr? (.load none none) = .ok (.numeric o.ty .load)
  plainStore : o.instr? (.store none) = .ok (.numeric o.ty .store)
  div : o.DecidesByFlag .div .div .div
  /-- A remainder on a float is refused before its flag is looked at. -/
  remFloat : o.ty.isInteger = false →
    ∀ flag, o.instr? (.rem flag) = .error (.unsupported .rem o.ty)
  rem : o.ty.isInteger = true → o.DecidesByFlag .rem .rem .rem

/-- **Acceptance of numeric requests, and the order of their faults.** -/
theorem decides_instr? (o : Operand) : Decides o := by
  have hdiv : o.ty.requireOp .div = .ok () := if_pos (by simp [NumType.supports, NumOp.integerOnly])
  refine ⟨fun s => decidesByWidth rfl fun bits => ?_, decidesByWidth rfl fun bits => ?_,
    WidthCaps.ncard_allows o.caps o.ty, fun bits => rfl, fun s => rfl, fun bits s => ?_,
    fun bits t hs hu => ?_, rfl, rfl, decidesByFlag fun flag => ?_, fun hty flag => ?_,
    fun hty => decidesByFlag fun flag => ?_⟩
  · show ((o.caps.requireWidth o.ty .sizedLoad bits).bind _).map _ = _
    cases o.caps.requireWidth o.ty .sizedLoad bits <;> rfl
  · show ((o.caps.requireWidth o.ty .sizedStore bits).bind _).map _ = _
    cases o.caps.requireWidth o.ty .sizedStore bits <;> rfl
  · have hs : (SignFlag.text s.text).resolve .signFlag = (SignFlag.sign s).resolve .signFlag :=
      SignFlag.resolve_eq_ok_iff.2 (.inr rfl)
    unfold instr? Request.resolve
    dsimp only
    rw [hs]
  · have hbad : (SignFlag.text t).resolve .signFlag =
        .error (.invalidOperand .signFlag (.unknownSign t)) :=
      SignFlag.resolve_eq_error_iff.2 ⟨t, rfl, hs, hu, rfl⟩
    unfold instr? Request.resolve
    dsimp only
    rw [hbad]
    rfl
  · unfold instr? Request.resolve
    dsimp only
    rw [hdiv]
    cases flag.resolve (.operation .div) <;> rfl
  · have hrem : o.ty.requireOp .rem = .error (.unsupported .rem o.ty) :=
      if_neg (by simp [NumType.supports, NumOp.integerOnly, hty])
    unfold instr? Request.resolve
    dsimp only
    rw [hrem]
    rfl
  · have hrem : o.ty.requireOp .rem = .ok () := if_pos (by simp [NumType.supports, hty])
    unfold instr? Request.resolve
    dsimp only
    rw [hrem]
    cases flag.resolve (.operation .rem) <;> rfl

/-- A width with two faults: it is no number of bytes, and above a limit that is none either. -/
example : ({ ty := .i32, caps := { i32 := 20 } } : Operand).instr? (.store (some 30)) =
    .error (.invalidOperand (.operation .sizedStore) (.notWholeBytes 30)) := rfl

end Operand

end WatText
