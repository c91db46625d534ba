import WatText.Text.Numeral

/-!
# Reading decimals back

A number that is written in decimal is read as the number (`digits?_toDigits`), digit by digit
(`digitsFrom?_toDigits`).
-/

namespace WatText.Text

theorem digitValue_digitChar : ∀ d < 10,
    (Nat.digitChar d).isDigit = true ∧ (Nat.digitChar d).toNat - '0'.toNat = d := by decide

theorem digitsFrom?_digitChar {d : Nat} (hd : d < 10) (acc : Nat) (rest : List Char) :
    digitsFrom? acc (Nat.digitChar d :: rest) = digitsFrom? (10 * acc + d) rest := by
  obtain ⟨hdigit, hvalue⟩ := digitValue_digitChar d hd
  rw [digitsFrom?, if_pos hdigit, hvalue]

/-- Reading the digits of a number gives the number. -/
theorem digitsFrom?_toDigits (n : Nat) (rest : List Char) :
    digitsFrom? 0 (Nat.toDigits 10 n ++ rest) = digitsFrom? n rest := by
  induction n using Nat.strongRecOn generalizing rest with
  | ind n ih =>
    by_cases h : n < 10
    · rw [Nat.toDigits_of_lt_base h]
      show digitsFrom? 0 (Nat.digitChar n :: rest) = _
      rw [digitsFrom?_digitChar h, Nat.mul_zero, Nat.zero_add]
    · rw [Nat.toDigits_of_base_le (by omega) (by omega), List.append_assoc, ih (n / 10) (by omega)]
      show digitsFrom? (n / 10) (Nat.digitChar (n % 10) :: rest) = _
      rw [digitsFrom?_digitChar (Nat.mod_lt n (by omega)), Nat.div_add_mod]

theorem digits?_toDigits (n : Nat) : digits? (Nat.toDigits 10 n) = some n := by
  have hdigits : digitsFrom? 0 (Nat.toDigits 10 n) = some n := by
    have h := digitsFrom?_toDigits n []
    rwa [List.append_nil] at h
  cases hcs : Nat.toDigits 10 n with
  | nil => exact absurd hcs Nat.toDigits_ne_nil
  | cons c cs => rwa [hcs] at hdigits

end WatText.Text
