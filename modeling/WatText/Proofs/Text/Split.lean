import WatText.Text.Split

/-!
# Joining split pieces

`split` is the inverse of joining with the separator: joining the pieces of a text gives the text
(`intercalate_splitString`), and splitting a join of pieces without separators gives the pieces
(`splitString_intercalate`). There is at least one piece, and no piece has a separator.

`nil_mem_split_iff` says of the text as a whole whether one of its pieces is empty. The first piece is
told by the beginning of the text; of the pieces behind a separator, the last one by its end and any
other one by two separators side by side.
-/

namespace WatText.Text

theorem splitString_ne_nil (sep : Char) (s : String) : splitString sep s ≠ [] := by
  have h := length_split sep s.toList
  intro hnil
  rw [List.map_eq_nil_iff.1 hnil] at h
  simp at h

theorem not_mem_of_mem_split {sep : Char} {cs piece : List Char} (h : piece ∈ split sep cs) :
    sep ∉ piece := by
  induction cs generalizing piece with
  | nil => simp [List.mem_singleton.1 h]
  | cons c cs ih =>
    rw [split] at h
    by_cases hc : c = sep
    · rw [if_pos hc] at h
      rcases List.mem_cons.1 h with rfl | h
      · simp
      · exact ih h
    · rw [if_neg hc] at h
      have hsep : sep ≠ c := fun he => hc he.symm
      cases hs : split sep cs with
      | nil =>
        rw [hs] at h
        simp [List.mem_singleton.1 h, hsep]
      | cons first pieces =>
        rw [hs] at h ih
        rcases List.mem_cons.1 h with rfl | h
        · simp [hsep, ih List.mem_cons_self]
        · exact ih (List.mem_cons_of_mem first h)

theorem not_mem_of_mem_splitString {sep : Char} {s piece : String}
    (h : piece ∈ splitString sep s) : sep ∉ piece.toList := by
  obtain ⟨cs, hcs, rfl⟩ := List.mem_map.1 h
  rw [String.toList_ofList]
  exact not_mem_of_mem_split hcs

theorem split_eq_splitOn (sep : Char) (cs : List Char) : split sep cs = cs.splitOn sep := by
  induction cs with
  | nil => rfl
  | cons c rest ih =>
    rw [split, ih, List.splitOn_cons_eq_if_modifyHead]
    by_cases h : c = sep
    · rw [if_pos h, if_pos (beq_iff_eq.2 h)]
    · rw [if_neg h, if_neg (fun e => h (beq_iff_eq.1 e))]
      cases hp : rest.splitOn sep with
      | nil => exact absurd hp (List.splitOn_ne_nil sep rest)
      | cons piece pieces => rfl

theorem intercalate_splitString (sep : Char) (s : String) :
    (String.ofList [sep]).intercalate (splitString sep s) = s := by
  rw [← String.toList_inj, String.toList_intercalate]
  have h : (splitString sep s).map String.toList = s.toList.splitOn sep := by
    unfold splitString
    rw [List.map_map, ← split_eq_splitOn]
    exact (List.map_congr_left fun cs _ => String.toList_ofList).trans (List.map_id _)
  rw [h, String.toList_ofList]
  exact List.intercalate_splitOn sep

theorem splitString_intercalate {sep : Char} {pieces : List String} (hne : pieces ≠ [])
    (h : ∀ p ∈ pieces, sep ∉ p.toList) :
    splitString sep ((String.ofList [sep]).intercalate pieces) = pieces := by
  unfold splitString
  rw [String.toList_intercalate, String.toList_ofList, split_eq_splitOn,
    List.splitOn_intercalate sep _ (by simpa using hne), List.map_map]
  · exact (List.map_congr_left fun s _ => String.ofList_toList).trans (List.map_id _)
  · intro cs hcs
    obtain ⟨p, hp, rfl⟩ := List.mem_map.1 hcs
    exact h p hp

/-! ## Empty pieces -/

theorem tail_split_cons_of_ne {sep c : Char} (h : c ≠ sep) (cs : List Char) :
    (split sep (c :: cs)).tail = (split sep cs).tail := by
  rw [split, if_neg h]
  cases split sep cs <;> rfl

/-- The first piece is empty if the text is, or if it begins with a separator. -/
theorem nil_mem_split_iff_tail {sep : Char} {cs : List Char} :
    [] ∈ split sep cs ↔ cs = [] ∨ cs.head? = some sep ∨ [] ∈ (split sep cs).tail := by
  cases cs with
  | nil => simp [split]
  | cons c cs =>
    rw [split]
    by_cases hc : c = sep
    · simp [hc]
    · rw [if_neg hc]
      cases split sep cs <;> simp [hc]

/-- A piece behind a separator is empty if the text ends there or goes on with a separator. -/
theorem nil_mem_tail_split_iff {sep : Char} {cs : List Char} :
    [] ∈ (split sep cs).tail ↔ cs.getLast? = some sep ∨ [sep, sep] <:+: cs := by
  induction cs with
  | nil => simp [split]
  | cons c cs ih =>
    have hadjacent : [sep, sep] <:+: c :: cs ↔
        (c = sep ∧ cs.head? = some sep) ∨ [sep, sep] <:+: cs := by
      rw [List.infix_cons_iff, List.cons_prefix_cons, eq_comm,
        List.singleton_prefix_iff_head?_eq_some]
    have hlast : (c :: cs).getLast? = some sep ↔
        (c = sep ∧ cs = []) ∨ cs.getLast? = some sep := by
      cases cs with
      | nil => simp
      | cons d ds => simp only [List.getLast?_cons_cons, reduceCtorEq, and_false, false_or]
    rw [hadjacent, hlast]
    by_cases hc : c = sep
    · rw [split, if_pos hc, List.tail_cons, nil_mem_split_iff_tail, ih]
      simp only [hc, true_and, or_assoc, or_left_comm]
    · rw [tail_split_cons_of_ne hc, ih]
      simp only [hc, false_and, false_or]

/-- There is an empty piece exactly if the text is empty, begins or ends with a separator, or has two
of them side by side. -/
theorem nil_mem_split_iff {sep : Char} {cs : List Char} :
    [] ∈ split sep cs ↔
      cs = [] ∨ cs.head? = some sep ∨ cs.getLast? = some sep ∨ [sep, sep] <:+: cs := by
  rw [nil_mem_split_iff_tail, nil_mem_tail_split_iff]

theorem empty_mem_splitString_iff {sep : Char} {s : String} :
    "" ∈ splitString sep s ↔ [] ∈ split sep s.toList := by
  unfold splitString
  rw [List.mem_map]
  constructor
  · rintro ⟨cs, hcs, h⟩
    rwa [String.ofList_eq_empty_iff.1 h] at hcs
  · intro h
    exact ⟨[], h, rfl⟩

end WatText.Text
