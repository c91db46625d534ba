/-!
# Decimal numerals

Reading of numbers from ASCII digits. Leading zeros do not matter; anything but a digit is refused.
-/

namespace WatText.Text

/-- The value of some digits after the value `acc`. -/
def digitsFrom? (acc : Nat) : List Char → Option Nat
  | [] => some acc
  | c :: rest => if c.isDigit then digitsFrom? (10 * acc + (c.toNat - '0'.toNat)) rest else none

/-- The value of one or more digits. -/
def digits? : List Char → Option Nat
  | [] => none
  | cs => digitsFrom? 0 cs

end WatText.Text
