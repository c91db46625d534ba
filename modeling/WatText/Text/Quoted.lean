/-!
# Quoted text

Text between double quotes, written in printable ASCII only. Seven characters have an escape or
stand for themselves by a short rule; every other character outside the printable range is written
as its code point, `\u` and the lowercase hexadecimal digits in braces. `quote` writes and
`unquote?` reads, and `unquote?` stops at the first quote that no backslash protects.
-/

namespace WatText.Text

/-- The letter that stands for a character after a backslash, if there is one. -/
def escapeLetter? : Char → Option Char
  | '\t' => some 't'
  | '\r' => some 'r'
  | '\n' => some 'n'
  | '\'' => some '\''
  | '"' => some '"'
  | '\\' => some '\\'
  | _ => none

/-- The character that a letter after a backslash stands for, if there is one. -/
def ofEscapeLetter? : Char → Option Char
  | 't' => some '\t'
  | 'r' => some '\r'
  | 'n' => some '\n'
  | '\'' => some '\''
  | '"' => some '"'
  | '\\' => some '\\'
  | _ => none

/-- The printable ASCII characters, the blank included. -/
def isPrintable (c : Char) : Bool :=
  0x20 ≤ c.toNat && c.toNat ≤ 0x7e

/-- The written form of one character. -/
def escapeChar (c : Char) : List Char :=
  match escapeLetter? c with
  | some letter => ['\\', letter]
  | none =>
    if isPrintable c then [c]
    else '\\' :: 'u' :: '{' :: (Nat.toDigits 16 c.toNat ++ ['}'])

/-- The written form of a text, character by character. -/
def escape (cs : List Char) : List Char :=
  cs.flatMap escapeChar

/-- A text between quotes. -/
def quote (cs : List Char) : List Char :=
  '"' :: (escape cs ++ ['"'])

/-! ## Reading back -/

/-- The value of a hexadecimal digit of either case. -/
def hexValue? (c : Char) : Option Nat :=
  if c.isDigit then some (c.toNat - '0'.toNat)
  else if 'a' ≤ c ∧ c ≤ 'f' then some (c.toNat - 'a'.toNat + 10)
  else if 'A' ≤ c ∧ c ≤ 'F' then some (c.toNat - 'A'.toNat + 10)
  else none

/-- The character with a given code point, if there is one. -/
def charOfCode? (n : Nat) : Option Char :=
  if n.isValidChar then some (Char.ofNat n) else none

/-- How far the reading of one character has come. -/
inductive Progress where
  /-- Between two characters. -/
  | plain
  /-- After a backslash. -/
  | escaped
  /-- After `\u`, where a brace has to follow. -/
  | opening
  /-- Inside the braces, with the value of the digits so far. -/
  | code (value : Nat)

/-- Puts a character before a text that has been read. -/
def prepend (c : Char) (read : List Char × List Char) : List Char × List Char :=
  (c :: read.1, read.2)

/-- Reads up to the first unprotected quote: the text before it and what follows it. -/
def unescape? : Progress → List Char → Option (List Char × List Char)
  | _, [] => none
  | .plain, c :: rest =>
    if c = '"' then some ([], rest)
    else if c = '\\' then unescape? .escaped rest
    else (unescape? .plain rest).map (prepend c)
  | .escaped, c :: rest =>
    if c = 'u' then unescape? .opening rest
    else match ofEscapeLetter? c with
      | some d => (unescape? .plain rest).map (prepend d)
      | none => none
  | .opening, c :: rest => if c = '{' then unescape? (.code 0) rest else none
  | .code n, c :: rest =>
    if c = '}' then
      match charOfCode? n with
      | some d => (unescape? .plain rest).map (prepend d)
      | none => none
    else match hexValue? c with
      | some d => unescape? (.code (16 * n + d)) rest
      | none => none

/-- What follows the quote is shorter than the text before the reading. -/
theorem length_snd_unescape? {p : Progress} {cs : List Char} {read : List Char × List Char}
    (h : unescape? p cs = some read) : read.2.length < cs.length := by
  fun_induction unescape? p cs generalizing read <;>
    grind [Option.map_eq_some_iff, prepend, List.length_cons]

/-- Reads a quoted text at the start of the input: the text, and what follows its closing quote. -/
def unquote? : List Char → Option (List Char × List Char)
  | '"' :: rest => unescape? .plain rest
  | _ => none

end WatText.Text
