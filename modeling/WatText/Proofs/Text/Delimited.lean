import WatText.Node.Layout
import WatText.Proofs.Text.Quoted

/-!
# Where quoted text ends

`Node.delimited_string`: what is written for a string is printable ASCII between two quotes, and a
reader that first looks for the first unprotected quote and only then undoes the escapes finds the
string and what follows it, whatever that is. So strings that are followed by anything are told
apart by what is written.

`unescape?` does both at once. `unescape?_eq_scanUndo?` says that this is the same on every text,
written by `quote` or not: up to the first unprotected quote the escapes are undone, and what follows
that quote is not looked at.
-/

namespace WatText.Text

/-- What stands before the first unprotected quote and what follows it. A backslash protects the
character behind it unless it is protected itself. -/
def scan? : (guarded : Bool) → List Char → Option (List Char × List Char)
  | _, [] => none
  | true, c :: rest => (scan? false rest).map (prepend c)
  | false, c :: rest =>
    if c = '"' then some ([], rest) else (scan? (c = '\\') rest).map (prepend c)

/-- Undoes the escapes of a text in which no quote is unprotected. -/
def undo? (p : Progress) (body : List Char) : Option (List Char) :=
  match unescape? p (body ++ ['"']) with
  | some (cs, []) => some cs
  | _ => none

/-- Whether the next character is behind a backslash. -/
def Progress.guarded : Progress → Bool
  | escaped => true
  | plain | opening | code _ => false

/-- Reads in two passes: up to the first unprotected quote, then the escapes of what stands before
it. -/
def scanUndo? (p : Progress) (cs : List Char) : Option (List Char × List Char) :=
  (scan? p.guarded cs).bind fun r => (undo? p r.1).map fun ds => (ds, r.2)

/-- Reads a quoted text at the start of the input in two passes. -/
def scanUnquote? : List Char → Option (List Char × List Char)
  | [] => none
  | c :: rest => if c = '"' then scanUndo? .plain rest else none

/-! ## One character in two passes -/

theorem scan?_cons {guarded : Bool} {c : Char} (h : guarded = true ∨ c ≠ '"') (rest : List Char) :
    scan? guarded (c :: rest) = (scan? (!guarded && c = '\\') rest).map (prepend c) := by
  cases guarded with
  | true => rfl
  | false => rw [scan?, if_neg (h.resolve_left Bool.false_ne_true)]; rfl

section Step

variable {p q : Progress} {c d : Char}

theorem undo?_cons_of_eq (h : ∀ body, unescape? p (c :: body) = unescape? q body)
    (body : List Char) : undo? p (c :: body) = undo? q body := by
  unfold undo?
  rw [List.cons_append, h]

theorem undo?_cons_of_eq_map
    (h : ∀ body, unescape? p (c :: body) = (unescape? q body).map (prepend d))
    (body : List Char) : undo? p (c :: body) = (undo? q body).map (d :: ·) := by
  unfold undo?
  rw [List.cons_append, h]
  rcases unescape? q (body ++ ['"']) with _ | ⟨ds, _ | ⟨e, rest⟩⟩ <;> rfl

/-- A character that only takes the reading on. -/
theorem scanUndo?_cons_of_eq (h : ∀ body, unescape? p (c :: body) = unescape? q body)
    (hend : p.guarded = true ∨ c ≠ '"') (hguarded : (!p.guarded && c = '\\') = q.guarded)
    (rest : List Char) : scanUndo? p (c :: rest) = scanUndo? q rest := by
  unfold scanUndo?
  rw [scan?_cons hend, hguarded]
  cases scan? q.guarded rest with
  | none => rfl
  | some r =>
    show (undo? p (c :: r.1)).map _ = _
    rw [undo?_cons_of_eq h]
    rfl

/-- A character that completes the reading of one. -/
theorem scanUndo?_cons_of_eq_map
    (h : ∀ body, unescape? p (c :: body) = (unescape? q body).map (prepend d))
    (hend : p.guarded = true ∨ c ≠ '"') (hguarded : (!p.guarded && c = '\\') = q.guarded)
    (rest : List Char) : scanUndo? p (c :: rest) = (scanUndo? q rest).map (prepend d) := by
  unfold scanUndo?
  rw [scan?_cons hend, hguarded]
  cases scan? q.guarded rest with
  | none => rfl
  | some r =>
    show (undo? p (c :: r.1)).map _ = ((undo? q r.1).map _).map (prepend d)
    rw [undo?_cons_of_eq_map h]
    cases undo? q r.1 <;> rfl

/-- A character that cannot stand where it does. -/
theorem scanUndo?_cons_of_eq_none (h : ∀ body, unescape? p (c :: body) = none)
    (rest : List Char) : scanUndo? p (c :: rest) = none := by
  have hundo : ∀ body, undo? p (c :: body) = none := by
    intro body
    unfold undo?
    rw [List.cons_append, h]
  unfold scanUndo?
  by_cases hend : p.guarded = true ∨ c ≠ '"'
  · rw [scan?_cons hend]
    cases scan? (!p.guarded && c = '\\') rest with
    | none => rfl
    | some r =>
      show (undo? p (c :: r.1)).map _ = none
      rw [hundo]
      rfl
  · obtain ⟨hp, rfl⟩ : p.guarded = false ∧ c = '"' := by simpa using hend
    have hnil : undo? p [] = none := by
      unfold undo?
      rw [List.nil_append, h]
    rw [hp, scan?, if_pos rfl]
    show (undo? p []).map _ = none
    rw [hnil]
    rfl

end Step

theorem ne_of_hexValue? {c : Char} {d : Nat} (h : hexValue? c = some d) : c ≠ '"' ∧ c ≠ '\\' := by
  constructor
  · rintro rfl
    cases h
  · rintro rfl
    cases h

/-- **One pass or two.** -/
theorem unescape?_eq_scanUndo? (p : Progress) (cs : List Char) :
    unescape? p cs = scanUndo? p cs := by
  -- a character takes the reading on, completes a character that was written, or is refused
  fun_induction unescape? p cs with
  | case1 p => cases p <;> rfl
  | case2 rest => rfl
  | case3 rest h ih =>
    rw [scanUndo?_cons_of_eq (fun _ => by rw [unescape?, if_neg h, if_pos rfl]) (.inr h) rfl, ih]
  | case4 c rest hq hb ih =>
    have hguarded : (!Progress.plain.guarded && c = '\\') = Progress.plain.guarded := by
      simp [hb, Progress.guarded]
    rw [scanUndo?_cons_of_eq_map (fun _ => by rw [unescape?, if_neg hq, if_neg hb]) (.inr hq)
      hguarded, ih]
  | case5 rest ih =>
    rw [scanUndo?_cons_of_eq (fun _ => by rw [unescape?, if_pos rfl]) (.inl rfl) rfl, ih]
  | case6 c rest hu d hd ih =>
    rw [scanUndo?_cons_of_eq_map (fun _ => by rw [unescape?, if_neg hu, hd]) (.inl rfl) rfl, ih]
  | case7 c rest hu hd =>
    rw [scanUndo?_cons_of_eq_none fun _ => by rw [unescape?, if_neg hu, hd]]
  | case8 rest ih =>
    rw [scanUndo?_cons_of_eq (fun _ => by rw [unescape?, if_pos rfl]) (.inr (by decide)) rfl, ih]
  | case9 c rest h =>
    rw [scanUndo?_cons_of_eq_none fun _ => by rw [unescape?, if_neg h]]
  | case10 n rest d hd ih =>
    rw [scanUndo?_cons_of_eq_map (fun _ => by rw [unescape?, if_pos rfl, hd]) (.inr (by decide))
      rfl, ih]
  | case11 n rest hd =>
    rw [scanUndo?_cons_of_eq_none fun _ => by rw [unescape?, if_pos rfl, hd]]
  | case12 n c rest hc d hd ih =>
    obtain ⟨hq, hb⟩ := ne_of_hexValue? hd
    have hguarded : (!(Progress.code n).guarded && c = '\\') =
        (Progress.code (16 * n + d)).guarded := by simp [hb, Progress.guarded]
    rw [scanUndo?_cons_of_eq (fun _ => by rw [unescape?, if_neg hc, hd]) (.inr hq) hguarded, ih]
  | case13 n c rest hc hd =>
    rw [scanUndo?_cons_of_eq_none fun _ => by rw [unescape?, if_neg hc, hd]]

theorem unquote?_of_ne {c : Char} (h : c ≠ '"') (rest : List Char) :
    unquote? (c :: rest) = none := by
  unfold unquote?
  split
  · next heq => exact absurd (List.cons.inj heq).1 h
  · rfl

theorem unquote?_eq_scanUnquote? (cs : List Char) : unquote? cs = scanUnquote? cs := by
  cases cs with
  | nil => rfl
  | cons c rest =>
    rw [scanUnquote?]
    by_cases h : c = '"'
    · subst h
      rw [if_pos rfl]
      exact unescape?_eq_scanUndo? .plain rest
    · rw [if_neg h, unquote?_of_ne h]

/-! ## What is written -/

theorem unquote?_quote_append (cs rest : List Char) :
    unquote? (quote cs ++ rest) = some (cs, rest) := by
  rw [quote_append]
  exact unescape?_escape cs rest

end WatText.Text

namespace WatText.Node

/-- What a text for a string has to be, so that it does no harm wherever it stands. -/
structure Delimited (s : String) (text : List Char) : Prop where
  printable : ∀ c ∈ text, 0x20 ≤ c.toNat ∧ c.toNat ≤ 0x7e
  not_broken : '\n' ∉ text
  /-- It begins and ends with a quote, and every character in between is escaped on its own. -/
  quoted : text = '"' :: (s.toList.flatMap Text.escapeChar ++ ['"'])
  /-- Up to the first unprotected quote behind the opening one stands the string, and behind that
  quote what follows the text. -/
  scanned : ∀ rest, Text.scanUnquote? (text ++ rest) = some (s.toList, rest)
  /-- The same is found in one pass. -/
  read : ∀ rest, Text.unquote? (text ++ rest) = some (s.toList, rest)
  /-- Whatever follows it and wherever the other one is written, no other string is written so. -/
  unique : ∀ (l : Layout) (indent : Nat) (s' : String) (rest rest' : List Char),
    chars l indent (.string s') ++ rest' = text ++ rest → s' = s ∧ rest' = rest

/-- **Quoted strings are self-delimiting.** -/
theorem delimited_string (l : Layout) (indent : Nat) (s : String) :
    Delimited s (chars l indent (.string s)) := by
  have hchars : ∀ (l : Layout) (indent : Nat) (s : String),
      chars l indent (.string s) = Text.quote s.toList := fun l indent s => by rw [chars]
  have hread : ∀ (l : Layout) (indent : Nat) (s : String) (rest : List Char),
      Text.unquote? (chars l indent (.string s) ++ rest) = some (s.toList, rest) := by
    intro l indent s rest
    rw [hchars, Text.unquote?_quote_append]
  refine ⟨fun c hc => ?_, ?_, hchars l indent s, fun rest => ?_, hread l indent s,
    fun l' indent' s' rest rest' heq => ?_⟩
  · rw [hchars] at hc
    have hprintable := Text.isPrintable_of_mem_quote hc
    unfold Text.isPrintable at hprintable
    simpa using hprintable
  · rw [hchars]
    exact Text.newline_not_mem_quote s.toList
  · rw [← Text.unquote?_eq_scanUnquote?, hread]
  · have hboth := hread l' indent' s' rest'
    rw [heq, hread] at hboth
    obtain ⟨hs, hrest⟩ := Prod.mk.inj (Option.some.inj hboth)
    exact ⟨String.toList_inj.1 hs.symm, hrest.symm⟩

end WatText.Node
