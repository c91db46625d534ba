import WatText.Func.Basic
import WatText.Proofs.Table

/-!
# Where a parameter is declared

`appendsParam_declare_iff`: declaring a parameter adds one declaration at a new position, above all
positions in use, exactly if the last position is free.

The next position is at or above the one that follows every position in use (`following_le_next`),
which is strictly above that position unless it is the last one (`lt_following`). Once the last
position is in use it is the next one again (`nextPosition_eq_last`), and the parameter takes the
place of the operand that stands there.
-/

namespace WatText.Signature

/-- The last position. -/
def lastPosition : UInt32 := 0xffffffff

/-- What declaring a parameter is for: the old declarations stay as they are, and after them comes
one at a position above all positions in use, with the role of a parameter. -/
def AppendsParam (old new : Signature) (o : Operand) : Prop :=
  ∃ index : UInt32,
    .position index ∉ old.slots.keys ∧
    (∀ i, .position i ∈ old.slots.keys → i < index) ∧
    new.slots.entries = old.slots.entries ++ [(.position index, { o with role := .param })] ∧
    new.toNodes.length = old.toNodes.length + 1

theorem length_toNodes (σ : Signature) : σ.toNodes.length = σ.slots.entries.length :=
  List.length_map _

/-! ## The next position -/

theorem le_lastPosition (i : UInt32) : i ≤ lastPosition := by
  have h := i.toNat_lt
  rw [UInt32.le_iff_toNat_le]
  show i.toNat ≤ 4294967295
  omega

theorem toNat_following {i : UInt32} (h : i.toNat + 1 < UInt32.size) :
    (Slot.position i).following.toNat = i.toNat + 1 := by
  show (if i.toNat + 1 < UInt32.size then i + 1 else i).toNat = _
  rw [if_pos h, UInt32.toNat_add, UInt32.toNat_one]
  exact Nat.mod_eq_of_lt h

theorem lt_following {i : UInt32} (h : i ≠ lastPosition) : i < (Slot.position i).following := by
  have hi : i.toNat ≠ 4294967295 := fun he => h (UInt32.toNat_inj.1 he)
  have hlt := i.toNat_lt
  have hsize : i.toNat + 1 < UInt32.size := by
    show i.toNat + 1 < 4294967296
    omega
  rw [UInt32.lt_iff_toNat_lt, toNat_following hsize]
  exact Nat.lt_succ_self _

theorem le_max (i j : UInt32) : i ≤ max i j ∧ j ≤ max i j := by
  show (i ≤ if i ≤ j then j else i) ∧ j ≤ if i ≤ j then j else i
  by_cases h : i ≤ j
  · rw [if_pos h]
    exact ⟨h, Std.le_refl j⟩
  · rw [if_neg h]
    exact ⟨Std.le_refl i, Std.le_of_not_ge h⟩

theorem le_foldr_max {is : List UInt32} {i : UInt32} (h : i ∈ is) : i ≤ is.foldr max 0 := by
  induction is with
  | nil => cases h
  | cons j is ih =>
    show i ≤ max j (is.foldr max 0)
    rcases List.mem_cons.1 h with rfl | h
    · exact (le_max i _).1
    · exact Std.le_trans (ih h) (le_max j _).2

theorem following_le_next {σ : Signature} {slot : Slot} (h : slot ∈ σ.slots.keys) :
    slot.following ≤ σ.nextPosition :=
  le_foldr_max (List.mem_map_of_mem h)

/-- While the last position is free, every position in use is below the next one. -/
theorem lt_nextPosition {σ : Signature} (hlast : .position lastPosition ∉ σ.slots.keys) {i : UInt32}
    (h : .position i ∈ σ.slots.keys) : i < σ.nextPosition := by
  have hi : i ≠ lastPosition := fun he => hlast (he ▸ h)
  exact Std.lt_of_lt_of_le (lt_following hi) (following_le_next h)

/-- Once the last position is in use, it is the next one again. -/
theorem nextPosition_eq_last {σ : Signature} (hlast : .position lastPosition ∈ σ.slots.keys) :
    σ.nextPosition = lastPosition :=
  Std.le_antisymm (le_lastPosition _) (following_le_next hlast)

/-! ## Declaring a parameter -/

theorem appendsParam_of_last_free {σ : Signature} (hlast : .position lastPosition ∉ σ.slots.keys)
    (o : Operand) : AppendsParam σ (σ.declare (.param o)) o := by
  have hfree : .position σ.nextPosition ∉ σ.slots.keys := fun h =>
    Std.lt_irrefl (lt_nextPosition hlast h)
  have hentries : (σ.declare (.param o)).slots.entries =
      σ.slots.entries ++ [(.position σ.nextPosition, { o with role := .param })] :=
    Table.entries_put_of_not_mem hfree _
  refine ⟨σ.nextPosition, hfree, fun i hi => lt_nextPosition hlast hi, hentries, ?_⟩
  rw [length_toNodes, length_toNodes, hentries, List.length_append]
  rfl

/-- No position is above the last one. -/
theorem not_appendsParam_of_last_used {σ : Signature}
    (hlast : .position lastPosition ∈ σ.slots.keys) (new : Signature) (o : Operand) :
    ¬ AppendsParam σ new o := by
  rintro ⟨index, -, habove, -, -⟩
  exact Std.lt_irrefl (Std.lt_of_lt_of_le (habove _ hlast) (le_lastPosition index))

/-- **Parameters and the last position.** Declaring a parameter, on a signature or on a function,
adds one declaration at a new position above all others exactly if the last position is free. When
it is in use, no declaration is added: the parameter replaces the one at the last position. -/
theorem appendsParam_declare_iff (σ : Signature) (f : Func) (o : Operand) :
    (AppendsParam σ (σ.declare (.param o)) o ↔ .position lastPosition ∉ σ.slots.keys) ∧
    (AppendsParam f.signature (f.declare (.param o)).signature o ↔
      .position lastPosition ∉ f.signature.slots.keys) ∧
    (.position lastPosition ∈ σ.slots.keys →
      (σ.declare (.param o)).slots.keys = σ.slots.keys ∧
      (σ.declare (.param o)).slots.get? (.position lastPosition) =
        some { o with role := .param }) := by
  have hiff : ∀ τ : Signature, AppendsParam τ (τ.declare (.param o)) o ↔
      .position lastPosition ∉ τ.slots.keys := fun τ =>
    ⟨fun h hlast => not_appendsParam_of_last_used hlast _ o h,
      fun h => appendsParam_of_last_free h o⟩
  refine ⟨hiff σ, hiff f.signature, fun hlast => ?_⟩
  show (σ.slots.put (.position σ.nextPosition) { o with role := .param }).keys = _ ∧
    (σ.slots.put (.position σ.nextPosition) { o with role := .param }).get? _ = _
  rw [nextPosition_eq_last hlast]
  refine ⟨Table.keys_put_of_mem hlast _, ?_⟩
  rw [Table.get?_put, if_pos rfl]

/-- A parameter after a declaration at the last position takes its place. -/
theorem not_appendsParam_after_last :
    ¬ AppendsParam (ofDeclarations [.slot (.position 4294967295) { ty := .i32 }])
        (ofDeclarations [.slot (.position 4294967295) { ty := .i32 }, .param { ty := .i64 }])
        { ty := .i64 } ∧
      (ofDeclarations [.slot (.position 4294967295) { ty := .i32 },
        .param { ty := .i64 }]).slots.entries = [(.position 4294967295, { ty := .i64 })] :=
  ⟨not_appendsParam_of_last_used (by decide) _ _, by decide⟩

end WatText.Signature
