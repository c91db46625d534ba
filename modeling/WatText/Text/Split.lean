/-!
# Splitting at a separator

`split sep` cuts a text at every `sep`, so there is one piece more than there are separators, and
pieces may be empty (`length_split`).
-/

namespace WatText.Text

/-- The pieces of a text between the separators. -/
def split (sep : Char) : List Char → List (List Char)
  | [] => [[]]
  | c :: rest =>
    if c = sep then [] :: split sep rest
    else match split sep rest with
      | [] => [[c]]
      | piece :: pieces => (c :: piece) :: pieces

/-- The pieces of a string between the separators. -/
def splitString (sep : Char) (s : String) : List String :=
  (split sep s.toList).map String.ofList

theorem length_split (sep : Char) (cs : List Char) :
    (split sep cs).length = cs.count sep + 1 := by
  induction cs with
  | nil => rfl
  | cons c rest ih =>
    unfold split
    split
    · next h => simp [h, ih]
    · next h =>
      have h' : (c == sep) = false := by simpa using h
      rw [List.count_cons, h']
      generalize split sep rest = pieces at ih ⊢
      cases pieces with
      | nil => simp at ih
      | cons piece pieces => simpa using ih

end WatText.Text
