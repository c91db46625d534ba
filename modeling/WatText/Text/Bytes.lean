/-!
# Texts as bytes

The bytes of a text (`bytesOf`), and bytes as a text (`shown`). Not all bytes are those of a text:
what cannot be read is shown by a replacement character. A text is shown as it is (`shown_bytesOf`).
-/

namespace WatText.Text

/-- The bytes of a text. -/
def bytesOf (s : String) : List UInt8 :=
  s.toUTF8.data.toList

/-- The text with some bytes, if there is one. -/
def ofBytes? (bytes : List UInt8) : Option String :=
  String.fromUTF8? ⟨bytes.toArray⟩

/-- What may follow the first byte of a character that has several: the least and the greatest
second byte, and the number of bytes after it. -/
def following? (first : UInt8) : Option (UInt8 × UInt8 × Nat) :=
  if first < 0xc2 then none
  else if first < 0xe0 then some (0x80, 0xbf, 0)
  else if first = 0xe0 then some (0xa0, 0xbf, 1)
  else if first = 0xed then some (0x80, 0x9f, 1)
  else if first < 0xf0 then some (0x80, 0xbf, 1)
  else if first = 0xf0 then some (0x90, 0xbf, 2)
  else if first < 0xf4 then some (0x80, 0xbf, 2)
  else if first = 0xf4 then some (0x80, 0x8f, 2)
  else none

/-- How many bytes after the first one could still be of the same character. -/
def reach (first : UInt8) : List UInt8 → Nat
  | [] => 0
  | second :: rest =>
    match following? first with
    | none => 0
    | some (low, high, more) =>
      if low ≤ second ∧ second ≤ high then
        1 + ((rest.take more).takeWhile fun b => 0x80 ≤ b && b ≤ 0xbf).length
      else 0

/-- Some bytes as a text, where a replacement stands for the beginning of a character that does not
go on. -/
def replaced : List UInt8 → String
  | [] => ""
  | first :: rest =>
    let n := reach first rest
    (ofBytes? (first :: rest.take n)).getD "\uFFFD" ++ replaced (rest.drop n)
termination_by bytes => bytes.length
decreasing_by
  rw [List.length_drop, List.length_cons]
  omega

/-- How some bytes are shown. -/
def shown (bytes : List UInt8) : String :=
  (ofBytes? bytes).getD (replaced bytes)

theorem ofBytes?_bytesOf (s : String) : ofBytes? (bytesOf s) = some s := by
  unfold ofBytes? bytesOf String.fromUTF8?
  rw [Array.toArray_toList]
  exact dif_pos s.isValidUTF8

theorem shown_bytesOf (s : String) : shown (bytesOf s) = s := by
  unfold shown
  rw [ofBytes?_bytesOf]
  rfl

end WatText.Text
