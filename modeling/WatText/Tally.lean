/-!
# Tallies

A tally counts by number. A number never counted has count zero, so `count_bump` holds without a
condition, and a number that is handed out does not change a count.
-/

namespace WatText

/-- A count for each number. -/
structure Tally where
  counts : List Nat := []
  deriving DecidableEq, Inhabited

namespace Tally

/-- The count of a number. -/
def count (t : Tally) (k : Nat) : Nat :=
  t.counts.getD k 0

/-- Adds one at a position, after as many zeros as that takes. -/
def bumpAt : Nat → List Nat → List Nat
  | 0, [] => [1]
  | 0, n :: rest => (n + 1) :: rest
  | k + 1, [] => 0 :: bumpAt k []
  | k + 1, n :: rest => n :: bumpAt k rest

/-- Counts a number once more. -/
def bump (t : Tally) (k : Nat) : Tally :=
  ⟨bumpAt k t.counts⟩

/-- A number that was never handed out or counted. -/
def fresh (t : Tally) : Nat :=
  t.counts.length

/-- Hands out the fresh number. -/
def reserve (t : Tally) : Tally :=
  ⟨t.counts ++ [0]⟩

theorem getD_bumpAt (k i : Nat) (counts : List Nat) :
    (bumpAt k counts).getD i 0 = counts.getD i 0 + if i = k then 1 else 0 := by
  induction k generalizing i counts with
  | zero => cases counts <;> cases i <;> simp [bumpAt]
  | succ k ih =>
    cases counts <;> cases i <;> simp only [bumpAt, List.getD_cons_zero, List.getD_cons_succ, ih]
      <;> simp

theorem count_bump (t : Tally) (k i : Nat) :
    (t.bump k).count i = t.count i + if i = k then 1 else 0 :=
  getD_bumpAt k i t.counts

theorem count_reserve (t : Tally) (i : Nat) : t.reserve.count i = t.count i := by
  simp only [count, reserve, List.getD_eq_getElem?_getD, List.getElem?_append]
  split
  · rfl
  · next h =>
    rw [List.getElem?_eq_none (Nat.le_of_not_lt h)]
    rcases Nat.eq_zero_or_pos (i - t.counts.length) with h0 | h0
    · simp [h0]
    · rw [List.getElem?_eq_none (by simp; omega)]

end Tally

end WatText
