import WatText.Proofs.Signature.InOrder
import WatText.Proofs.Signature.Params

/-!
# Positions of parameters

`addressed_ofDeclarations`: after declaring steps that choose no position themselves, the positional
declarations are the parameters, the first one at position 0, each at the position after the one
before it. So a declaration at a position replaces the parameter with that number, or comes after
everything else if there are not so many.

The next position is found anew as a maximum over the whole table. While the positions in use are
the first ones, it is their number (`toNat_nextPosition`), and only parameters change the positional
part of the table (`positional_declare`).
-/

namespace WatText

/-- The position of a positional slot. -/
def Slot.position? : Slot → Option UInt32
  | position index => some index
  | named _ | result => none

theorem Slot.position?_eq_some_iff {slot : Slot} {i : UInt32} :
    slot.position? = some i ↔ slot = .position i := by
  cases slot <;> simp [position?]

/-- The position that a declaring step chooses itself. -/
def Declaration.chosen? : Declaration → Option UInt32
  | .slot s _ => s.position?
  | .param _ | .localVar _ _ | .result _ => none

/-- The operand of a step that declares a parameter. -/
def Declaration.param? : Declaration → Option Operand
  | .param o => some o
  | .localVar _ _ | .result _ | .slot _ _ => none

namespace Signature

/-- The operands of the parameters among some declaring steps, in order. -/
def paramsOf (ds : List Declaration) : List Operand :=
  ds.filterMap Declaration.param?

/-- The positional declarations in order, each with its position. -/
def positional (σ : Signature) : List (Nat × Operand) :=
  σ.slots.entries.filterMap fun e => e.1.position?.map fun i => (i.toNat, e.2)

/-- Some operands as parameters, numbered from zero. -/
def numbered (os : List Operand) : List (Nat × Operand) :=
  os.mapIdx fun k o => (k, { o with role := .param })

theorem mem_positional_iff {σ : Signature} {i : UInt32} {o : Operand} :
    (i.toNat, o) ∈ σ.positional ↔ (.position i, o) ∈ σ.slots.entries := by
  unfold positional
  rw [List.mem_filterMap]
  constructor
  · rintro ⟨⟨slot, o'⟩, he, h⟩
    obtain ⟨i', hi, heq⟩ := Option.map_eq_some_iff.1 h
    dsimp only at hi heq
    rw [Slot.position?_eq_some_iff.1 hi] at he
    obtain ⟨hnat, rfl⟩ := Prod.mk.inj heq
    rwa [← UInt32.toNat_inj.1 hnat]
  · intro h
    exact ⟨_, h, rfl⟩

theorem mem_numbered_iff {os : List Operand} {k : Nat} {o : Operand} :
    (k, o) ∈ numbered os ↔ ∃ o', os[k]? = some o' ∧ o = { o' with role := .param } := by
  unfold numbered
  rw [List.mem_mapIdx]
  constructor
  · rintro ⟨i, hi, heq⟩
    obtain ⟨rfl, rfl⟩ := Prod.mk.inj heq
    exact ⟨_, List.getElem?_eq_getElem hi, rfl⟩
  · rintro ⟨o', ho', rfl⟩
    obtain ⟨hk, rfl⟩ := List.getElem?_eq_some_iff.1 ho'
    exact ⟨k, hk, rfl⟩

/-! ## The next position -/

theorem foldr_max_cases (is : List UInt32) : is.foldr max 0 = 0 ∨ is.foldr max 0 ∈ is := by
  induction is with
  | nil => exact .inl rfl
  | cons i is ih =>
    have hmax : (i :: is).foldr max 0 = if i ≤ is.foldr max 0 then is.foldr max 0 else i := rfl
    by_cases h : i ≤ is.foldr max 0
    · rw [hmax, if_pos h]
      exact ih.imp_right (List.mem_cons_of_mem i)
    · rw [hmax, if_neg h]
      exact .inr List.mem_cons_self

/-- While the positions in use are the first ones, the next one is their number. -/
theorem toNat_nextPosition {σ : Signature} {n : Nat} (hn : n < UInt32.size)
    (h : ∀ i, .position i ∈ σ.slots.keys ↔ i.toNat < n) : σ.nextPosition.toNat = n := by
  have hle : σ.nextPosition.toNat ≤ n := by
    rcases foldr_max_cases (σ.slots.keys.map Slot.following) with h0 | hmem
    · rw [nextPosition, h0]
      exact Nat.zero_le n
    · obtain ⟨slot, hslot, heq⟩ := List.mem_map.1 hmem
      rw [nextPosition, ← heq]
      cases slot with
      | position i =>
        have hi := (h i).1 hslot
        rw [toNat_following (by omega)]
        omega
      | named name => exact Nat.zero_le n
      | result => exact Nat.zero_le n
  have hge : n ≤ σ.nextPosition.toNat := by
    cases n with
    | zero => exact Nat.zero_le _
    | succ m =>
      have hm : (UInt32.ofNat m).toNat = m := UInt32.toNat_ofNat_of_lt' (by omega)
      have hlast : .position (UInt32.ofNat m) ∈ σ.slots.keys := (h _).2 (by omega)
      have hfollowing := UInt32.le_iff_toNat_le.1 (following_le_next hlast)
      rw [toNat_following (by omega)] at hfollowing
      omega
  omega

/-! ## Steps that choose no position -/

theorem mem_keys_iff_of_positional {σ : Signature} {os : List Operand}
    (h : σ.positional = numbered os) (i : UInt32) :
    .position i ∈ σ.slots.keys ↔ i.toNat < os.length := by
  unfold Table.keys
  rw [List.mem_map]
  constructor
  · rintro ⟨⟨slot, o⟩, he, rfl⟩
    rw [← mem_positional_iff, h] at he
    obtain ⟨o', ho', -⟩ := mem_numbered_iff.1 he
    exact (List.getElem?_eq_some_iff.1 ho').1
  · intro hi
    have hmem := mem_numbered_iff.2 ⟨_, List.getElem?_eq_getElem hi, rfl⟩
    rw [← h, mem_positional_iff] at hmem
    exact ⟨_, hmem, rfl⟩

theorem numbered_concat (os : List Operand) (o : Operand) :
    numbered (os ++ [o]) = numbered os ++ [(os.length, { o with role := .param })] :=
  List.mapIdx_concat

/-- A parameter comes after the parameters before it, at the next number. -/
theorem positional_declare_param {σ : Signature} {os : List Operand}
    (h : σ.positional = numbered os) (hn : os.length < UInt32.size) (o : Operand) :
    (σ.declare (.param o)).positional = numbered (os ++ [o]) := by
  have hnext := toNat_nextPosition hn (mem_keys_iff_of_positional h)
  have hfree : .position σ.nextPosition ∉ σ.slots.keys := by
    rw [mem_keys_iff_of_positional h, hnext]
    exact Nat.lt_irrefl _
  have hentries : (σ.declare (.param o)).slots.entries =
      σ.slots.entries ++ [(.position σ.nextPosition, { o with role := .param })] :=
    Table.entries_put_of_not_mem hfree _
  rw [numbered_concat, ← h, ← hnext]
  unfold positional
  rw [hentries, List.filterMap_append]
  rfl

/-- Any other step leaves the parameters as they are. -/
theorem positional_declare {σ : Signature} {d : Declaration} (h : (σ.target d).position? = none) :
    (σ.declare d).positional = σ.positional :=
  Table.filterMap_entries_put (fun o => by rw [h]; rfl) σ.slots d.stored

theorem position?_target {σ : Signature} {d : Declaration} (hd : d.chosen? = none)
    (hparam : d.param? = none) : (σ.target d).position? = none := by
  cases d with
  | param o => cases hparam
  | localVar name o => rfl
  | result o => rfl
  | slot slot o => exact hd

theorem positional_ofDeclarations {ds : List Declaration} (h : ∀ d ∈ ds, d.chosen? = none)
    (hn : (paramsOf ds).length ≤ UInt32.size) :
    (ofDeclarations ds).positional = numbered (paramsOf ds) := by
  -- from the end, because a step acts on what the steps before it made
  induction ds using List.reverseRecOn with
  | nil => rfl
  | append_singleton ds d ih =>
    have hbefore : ∀ d ∈ ds, d.chosen? = none := fun d hd => h d (List.mem_append_left _ hd)
    have hlast : d.chosen? = none := h d (List.mem_append_right ds List.mem_cons_self)
    rw [ofDeclarations_concat]
    unfold paramsOf at hn ih ⊢
    rw [List.filterMap_append] at hn ⊢
    cases hp : d.param? with
    | none =>
      rw [List.filterMap_cons_none hp, List.filterMap_nil, List.append_nil] at hn ⊢
      rw [positional_declare (position?_target hlast hp), ih hbefore hn]
    | some o =>
      rw [List.filterMap_cons_some hp, List.filterMap_nil] at hn ⊢
      rw [List.length_append, List.length_singleton] at hn
      cases d with
      | param o' =>
        cases hp
        exact positional_declare_param (ih hbefore (by omega)) (by omega) o
      | localVar name o' => cases hp
      | result o' => cases hp
      | slot slot o' => cases hp

/-! ## Addressing a parameter -/

/-- How the parameters among some declaring steps are addressed by their number. -/
structure Addressed (ds : List Declaration) (σ : Signature) : Prop where
  /-- The positional declarations are the parameters, numbered from zero. -/
  positional : σ.positional = numbered (paramsOf ds)
  /-- A declaration at the number of a parameter replaces its operand, and nothing else. -/
  replaced : ∀ (k : UInt32) (o : Operand), k.toNat < (paramsOf ds).length →
    ∃ before param after, (paramsOf ds)[k.toNat]? = some param ∧
      σ.slots.entries = before ++ (.position k, { param with role := .param }) :: after ∧
      (σ.declare (.slot (.position k) o)).slots.entries = before ++ (.position k, o) :: after
  /-- A declaration at any other position comes after everything else. -/
  appended : ∀ (k : UInt32) (o : Operand), (paramsOf ds).length ≤ k.toNat →
    (σ.declare (.slot (.position k) o)).slots.entries = σ.slots.entries ++ [(.position k, o)]

/-- **Positional addressing of parameters.** After declaring steps that choose no position
themselves, with as many parameters as there are positions or fewer, the parameters stand at the
first positions in order. -/
theorem addressed_ofDeclarations {ds : List Declaration} (h : ∀ d ∈ ds, d.chosen? = none)
    (hn : (paramsOf ds).length ≤ UInt32.size) : Addressed ds (ofDeclarations ds) := by
  have hpositional := positional_ofDeclarations h hn
  refine ⟨hpositional, fun k o hk => ?_, fun k o hk => ?_⟩
  · have hparam := List.getElem?_eq_getElem hk
    have hmem := mem_numbered_iff.2 ⟨_, hparam, rfl⟩
    rw [← hpositional, mem_positional_iff] at hmem
    have hfound := Table.find?_of_mem_nodup (inOrder_ofDeclarations ds).distinct hmem
    obtain ⟨before, after, heq, hbefore⟩ := Table.find?_eq_some_iff.1 hfound
    exact ⟨before, _, after, hparam, heq, Table.entries_put_of_append heq hbefore o⟩
  · have hfree : .position k ∉ (ofDeclarations ds).slots.keys := by
      rw [mem_keys_iff_of_positional hpositional]
      omega
    exact Table.entries_put_of_not_mem hfree o

/-- Two parameters among other declarations, one of which is declared again. -/
def interleaved : List Declaration :=
  [.localVar "x" { ty := .i32 }, .param { ty := .i64 }, .result { ty := .f32 },
    .slot (.named "x") { ty := .f64 }, .param { ty := .i32, role := .result }]

/-- The parameters stand at the first two positions, whatever is declared around them. -/
theorem addressed_interleaved :
    (∀ d ∈ interleaved, d.chosen? = none) ∧ (paramsOf interleaved).length ≤ UInt32.size ∧
      Addressed interleaved (ofDeclarations interleaved) :=
  have h : ∀ d ∈ interleaved, d.chosen? = none := by decide
  have hn : (paramsOf interleaved).length ≤ UInt32.size := by decide
  ⟨h, hn, addressed_ofDeclarations h hn⟩

end Signature

end WatText
