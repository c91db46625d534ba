import WatText.Text.Quoted

/-!
# Reading quoted text back

`unescape?_escape`: what `quote` writes is read back by `unescape?` up to its closing quote,
whatever follows it.

Each written character is read on its own (`unescape?_escapeChar`). The only form of variable
length is the code point, whose digits are read from left to right (`unescape?_toDigits`) and end at
the brace.

`isPrintable_of_mem_quote`: all that `quote` writes is printable ASCII, so it stays on one line.
-/

namespace WatText.Text

/-! ## Escapes with a letter -/

/-- A letter escape is read back, and the `u` of a code point is none of the letters. -/
theorem ofEscapeLetter?_of_escapeLetter? {c letter : Char} (h : escapeLetter? c = some letter) :
    ofEscapeLetter? letter = some c ∧ letter ≠ 'u' := by
  unfold escapeLetter? at h
  split at h <;> cases h <;> decide

theorem ne_quote_of_escapeLetter?_eq_none {c : Char} (h : escapeLetter? c = none) :
    c ≠ '"' ∧ c ≠ '\\' := by
  constructor
  · rintro rfl
    cases h
  · rintro rfl
    cases h

/-! ## Code points -/

theorem hexValue?_digitChar : ∀ d < 16, hexValue? (Nat.digitChar d) = some d := by decide

theorem digitChar_ne_brace : ∀ d < 16, Nat.digitChar d ≠ '}' := by decide

theorem unescape?_digitChar {d : Nat} (hd : d < 16) (v : Nat) (rest : List Char) :
    unescape? (.code v) (Nat.digitChar d :: rest) = unescape? (.code (16 * v + d)) rest := by
  rw [unescape?, if_neg (digitChar_ne_brace d hd), hexValue?_digitChar d hd]

/-- Reading the digits of a number gives the number. -/
theorem unescape?_toDigits (n : Nat) (rest : List Char) :
    unescape? (.code 0) (Nat.toDigits 16 n ++ rest) = unescape? (.code n) rest := by
  induction n using Nat.strongRecOn generalizing rest with
  | ind n ih =>
    by_cases h : n < 16
    · rw [Nat.toDigits_of_lt_base h]
      show unescape? (.code 0) (Nat.digitChar n :: rest) = _
      rw [unescape?_digitChar h, Nat.mul_zero, Nat.zero_add]
    · rw [Nat.toDigits_of_base_le (by omega) (by omega), List.append_assoc, ih (n / 16) (by omega)]
      show unescape? (.code (n / 16)) (Nat.digitChar (n % 16) :: rest) = _
      rw [unescape?_digitChar (Nat.mod_lt n (by omega)), Nat.div_add_mod]

theorem charOfCode?_toNat (c : Char) : charOfCode? c.toNat = some c := by
  have h : c.toNat.isValidChar := c.valid
  rw [charOfCode?, if_pos h, Char.ofNat_toNat]

/-! ## Whole texts -/

/-- A written character is read back as the character. -/
theorem unescape?_escapeChar (c : Char) (rest : List Char) :
    unescape? .plain (escapeChar c ++ rest) = (unescape? .plain rest).map (prepend c) := by
  unfold escapeChar
  split
  · next letter h =>
    obtain ⟨hl, hu⟩ := ofEscapeLetter?_of_escapeLetter? h
    show unescape? .escaped (letter :: rest) = _
    rw [unescape?, if_neg hu, hl]
  · next h =>
    obtain ⟨hq, hb⟩ := ne_quote_of_escapeLetter?_eq_none h
    split
    · show unescape? .plain (c :: rest) = _
      rw [unescape?, if_neg hq, if_neg hb]
    · rw [List.cons_append, List.cons_append, List.cons_append, List.append_assoc]
      show unescape? (.code 0) (Nat.toDigits 16 c.toNat ++ '}' :: rest) = _
      rw [unescape?_toDigits, unescape?, if_pos rfl, charOfCode?_toNat]

/-- **Quoted text is self-delimiting.** After the opening quote, the text comes back together with
exactly what follows the closing quote. -/
theorem unescape?_escape (cs rest : List Char) :
    unescape? .plain (escape cs ++ '"' :: rest) = some (cs, rest) := by
  induction cs with
  | nil => rfl
  | cons c cs ih =>
    have h : escape (c :: cs) = escapeChar c ++ escape cs := List.flatMap_cons
    rw [h, List.append_assoc, unescape?_escapeChar, ih]
    rfl

theorem quote_append (cs rest : List Char) :
    quote cs ++ rest = '"' :: (escape cs ++ '"' :: rest) := by
  unfold quote
  rw [List.cons_append, List.append_assoc]
  rfl

/-! ## What is written -/

theorem isPrintable_digitChar : ∀ d < 16, isPrintable (Nat.digitChar d) = true := by decide

theorem isPrintable_of_mem_toDigits {n : Nat} {c : Char} (h : c ∈ Nat.toDigits 16 n) :
    isPrintable c = true := by
  induction n using Nat.strongRecOn with
  | ind n ih =>
    by_cases hn : n < 16
    · rw [Nat.toDigits_of_lt_base hn] at h
      rw [List.mem_singleton.1 h]
      exact isPrintable_digitChar n hn
    · rw [Nat.toDigits_of_base_le (by omega) (by omega)] at h
      rcases List.mem_append.1 h with h | h
      · exact ih (n / 16) (by omega) h
      · rw [List.mem_singleton.1 h]
        exact isPrintable_digitChar (n % 16) (Nat.mod_lt n (by omega))

theorem isPrintable_of_escapeLetter? {c letter : Char} (h : escapeLetter? c = some letter) :
    isPrintable letter = true := by
  unfold escapeLetter? at h
  split at h <;> cases h <;> decide

theorem isPrintable_of_mem_escapeChar {c d : Char} (h : d ∈ escapeChar c) :
    isPrintable d = true := by
  unfold escapeChar at h
  split at h
  · next letter hl =>
    rcases List.mem_cons.1 h with rfl | h
    · decide
    · rw [List.mem_singleton.1 h]
      exact isPrintable_of_escapeLetter? hl
  · split at h
    · next hc => rwa [List.mem_singleton.1 h]
    · have hmarks : ['\\', 'u', '{', '}'].all isPrintable = true := rfl
      have hd : d ∈ ['\\', 'u', '{', '}'] ∨ d ∈ Nat.toDigits 16 c.toNat := by
        grind
      rcases hd with hd | hd
      · exact List.all_eq_true.1 hmarks d hd
      · exact isPrintable_of_mem_toDigits hd

/-- Quoted text is printable ASCII, whatever it quotes. -/
theorem isPrintable_of_mem_quote {cs : List Char} {d : Char} (h : d ∈ quote cs) :
    isPrintable d = true := by
  unfold quote at h
  rcases List.mem_cons.1 h with rfl | h
  · decide
  · rcases List.mem_append.1 h with h | h
    · obtain ⟨c, -, hc⟩ := List.mem_flatMap.1 h
      exact isPrintable_of_mem_escapeChar hc
    · rw [List.mem_singleton.1 h]
      decide

theorem newline_not_mem_quote (cs : List Char) : '\n' ∉ quote cs := fun h =>
  absurd (isPrintable_of_mem_quote h) (by decide)

end WatText.Text
