import WatText.Node.Layout
import WatText.Node.Reader
import WatText.Proofs.Text.Quoted
import WatText.Proofs.Text.Split

/-!
# The tokens of a printed tree

`tokens?_chars`: cutting the text of a tree into tokens gives the tree's own tokens
(`Node.tokens`), whatever the layout, the indentation and the text that follows.

The layouts differ only in what stands between the children and before the closing parenthesis, and
both are gaps (`chars_list`): a blank, or a line end and blanks. A gap separates tokens and is one
of none. A word ends where a gap, a parenthesis or the end of the text follows (`Boundary`).
-/

namespace WatText

/-- A clean token: one or more characters, none of them a blank, a parenthesis or a quote. -/
def IsWord (w : String) : Prop :=
  w ≠ "" ∧ ∀ c ∈ w.toList, isWordChar c = true

instance : DecidablePred IsWord := fun w =>
  decidable_of_iff (w ≠ "" ∧ w.toList.all isWordChar = true) (and_congr_right' List.all_eq_true)

/-- The pieces of a symbol between its blanks. -/
def words (text : String) : List String :=
  Text.splitString ' ' text

namespace Node

mutual

/-- Whether every tag is a word and every symbol is words with one blank between them. -/
def Readable : Node → Prop
  | symbol text => ∀ w ∈ words text, IsWord w
  | string _ => True
  | list tag children => IsWord tag ∧ ReadableEach children

def ReadableEach : List Node → Prop
  | [] => True
  | node :: nodes => Readable node ∧ ReadableEach nodes

end

mutual

/-- The tokens of a node. -/
def tokens : Node → List Token
  | symbol text => (words text).map .word
  | string text => [.string text]
  | list tag children => .opening :: .word tag :: (tokensEach children ++ [.closing])

def tokensEach : List Node → List Token
  | [] => []
  | node :: nodes => tokens node ++ tokensEach nodes

end

end Node

/-! ## Characters -/

theorem isWordChar_eq_false_of_isBlank {c : Char} (h : isBlank c = true) :
    isWordChar c = false := by
  unfold isWordChar
  rw [h]
  rfl

theorem isWordChar_iff {c : Char} :
    isWordChar c = true ↔ isBlank c = false ∧ c ≠ '(' ∧ c ≠ ')' ∧ c ≠ '"' := by
  unfold isWordChar
  simp [and_assoc]

theorem not_mem_of_isWord {w : String} (h : IsWord w) : ' ' ∉ w.toList := fun hc =>
  absurd (h.2 ' ' hc) (by decide)

theorem words_eq_singleton {w : String} (h : IsWord w) : words w = [w] := by
  have hs : Text.splitString ' ' (" ".intercalate [w]) = [w] :=
    Text.splitString_intercalate (by simp) (by simpa using not_mem_of_isWord h)
  rwa [String.intercalate_singleton] at hs

theorem words_append {v w : String} (hv : IsWord v) (hw : IsWord w) :
    words (v ++ " " ++ w) = [v, w] := by
  have hs : Text.splitString ' ' (" ".intercalate [v, w]) = [v, w] :=
    Text.splitString_intercalate (by simp)
      (by simpa using ⟨not_mem_of_isWord hv, not_mem_of_isWord hw⟩)
  rwa [String.intercalate_cons_cons, String.intercalate_singleton] at hs

/-- What may follow a word: nothing, or a character that ends it. -/
def Boundary (rest : List Char) : Prop :=
  ∀ c ∈ rest.head?, isWordChar c = false

theorem boundary_cons {c : Char} (h : isWordChar c = false) (rest : List Char) :
    Boundary (c :: rest) := by
  intro d hd
  cases hd
  exact h

/-- Characters that only separate tokens, at least one of them. -/
def IsGap (gap : List Char) : Prop :=
  gap ≠ [] ∧ ∀ c ∈ gap, isBlank c = true

theorem boundary_gap {gap : List Char} (h : IsGap gap) (rest : List Char) :
    Boundary (gap ++ rest) := by
  cases gap with
  | nil => exact absurd rfl h.1
  | cons c gap =>
    exact boundary_cons (isWordChar_eq_false_of_isBlank (h.2 c List.mem_cons_self)) _

theorem isGap_blank : IsGap [' '] := by
  constructor
  · exact List.cons_ne_nil _ _
  intro c hc
  rw [List.mem_singleton.1 hc]
  rfl

theorem isGap_newline (indent : Nat) : IsGap (newline indent) := by
  constructor
  · exact List.cons_ne_nil _ _
  intro c hc
  rcases List.mem_cons.1 hc with rfl | hc
  · rfl
  · rw [List.eq_of_mem_replicate hc]
    rfl

/-! ## One token at a time -/

theorem tokens?_nil : tokens? [] = some [] := by rw [tokens?]

theorem tokens?_blank {c : Char} (h : isBlank c = true) (rest : List Char) :
    tokens? (c :: rest) = tokens? rest := by
  rw [tokens?, if_pos h]

theorem tokens?_blanks {cs : List Char} (h : ∀ c ∈ cs, isBlank c = true) (rest : List Char) :
    tokens? (cs ++ rest) = tokens? rest := by
  induction cs with
  | nil => rfl
  | cons c cs ih =>
    rw [List.cons_append, tokens?_blank (h c List.mem_cons_self)]
    exact ih fun d hd => h d (List.mem_cons_of_mem c hd)

theorem tokens?_opening (rest : List Char) :
    tokens? ('(' :: rest) = (tokens? rest).map (Token.opening :: ·) := by
  rw [tokens?, if_neg (by decide), if_pos rfl]

theorem tokens?_closing (rest : List Char) :
    tokens? (')' :: rest) = (tokens? rest).map (Token.closing :: ·) := by
  rw [tokens?, if_neg (by decide), if_neg (by decide), if_pos rfl]

theorem tokens?_quote (text : String) (rest : List Char) :
    tokens? (Text.quote text.toList ++ rest) = (tokens? rest).map (Token.string text :: ·) := by
  rw [Text.quote_append, tokens?, if_neg (by decide), if_neg (by decide), if_neg (by decide),
    if_pos rfl]
  have h := Text.unescape?_escape text.toList rest
  split
  · next hn => rw [h] at hn; cases hn
  · next read hr =>
    rw [h] at hr
    cases hr
    rw [String.ofList_toList]

theorem tokens?_word {w : String} (hw : IsWord w) {rest : List Char} (hr : Boundary rest) :
    tokens? (w.toList ++ rest) = (tokens? rest).map (Token.word w :: ·) := by
  obtain ⟨hne, hc⟩ := hw
  cases h : w.toList with
  | nil => exact absurd (String.toList_eq_nil_iff.1 h) hne
  | cons c cs =>
    rw [h] at hc
    obtain ⟨hb, ho, hcl, hq⟩ := isWordChar_iff.1 (hc c List.mem_cons_self)
    have hcs : ∀ d ∈ cs, isWordChar d = true := fun d hd => hc d (List.mem_cons_of_mem c hd)
    have htake : rest.takeWhile isWordChar = [] := by
      cases rest with
      | nil => rfl
      | cons d rest => rw [List.takeWhile_cons, hr d rfl]; rfl
    have hdrop : rest.dropWhile isWordChar = rest := by
      cases rest with
      | nil => rfl
      | cons d rest => rw [List.dropWhile_cons, hr d rfl]; rfl
    rw [List.cons_append, tokens?, if_neg (by simp [hb]), if_neg ho, if_neg hcl, if_neg hq,
      List.takeWhile_append_of_pos hcs, List.dropWhile_append_of_pos hcs, htake, hdrop,
      List.append_nil, ← h, String.ofList_toList]

theorem tokens?_words {ws : List String} (hws : ∀ w ∈ ws, IsWord w) {rest : List Char}
    (hr : Boundary rest) :
    tokens? ((" ".intercalate ws).toList ++ rest) = (tokens? rest).map (ws.map Token.word ++ ·) := by
  induction ws with
  | nil =>
    rw [String.intercalate_nil, String.toList_empty, List.nil_append]
    cases tokens? rest <;> rfl
  | cons w ws ih =>
    have hw := hws w List.mem_cons_self
    have hws' : ∀ w ∈ ws, IsWord w := fun v hv => hws v (List.mem_cons_of_mem w hv)
    cases ws with
    | nil =>
      rw [String.intercalate_singleton]
      exact tokens?_word hw hr
    | cons v ws =>
      rw [String.intercalate_cons_cons, String.toList_append, String.toList_append,
        List.append_assoc, List.append_assoc, show " ".toList = [' '] from rfl,
        tokens?_word hw (boundary_gap isGap_blank _), tokens?_blanks isGap_blank.2, ih hws',
        Option.map_map]
      rfl

/-! ## Whole trees -/

namespace Node

/-- The text of a list under any layout: its children stand after gaps, and blanks may stand before
the closing parenthesis. -/
theorem chars_list (l : Layout) (indent : Nat) (tag : String) (children : List Node) :
    ∃ inner sep last, IsGap sep ∧ (∀ c ∈ last, isBlank c = true) ∧
      chars l indent (list tag children) =
        '(' :: (tag.toList ++ (charsEach l inner sep children ++ (last ++ [')']))) := by
  by_cases h : l.breaks tag children = true
  · refine ⟨indent + l.indent, newline (indent + l.indent), newline indent, isGap_newline _,
      (isGap_newline indent).2, ?_⟩
    rw [chars, if_pos h, List.append_assoc]
  · refine ⟨indent, [' '], [], isGap_blank, fun c hc => absurd hc List.not_mem_nil, ?_⟩
    rw [chars, if_neg h, List.nil_append]

theorem boundary_charsEach (l : Layout) (indent : Nat) {sep : List Char} (hs : IsGap sep)
    (nodes : List Node) {rest : List Char} (hr : Boundary rest) :
    Boundary (charsEach l indent sep nodes ++ rest) := by
  cases nodes with
  | nil => rw [charsEach]; exact hr
  | cons node nodes =>
    rw [charsEach, List.append_assoc, List.append_assoc]
    exact boundary_gap hs _

/-- A list is cut into its own tokens if its children are. It ends by itself, so anything may
follow. -/
theorem tokens?_list (l : Layout) (indent : Nat) {tag : String} (ht : IsWord tag)
    {children : List Node} (rest : List Char)
    (hch : ∀ inner sep after, IsGap sep → Boundary after →
      tokens? (charsEach l inner sep children ++ after) =
        (tokens? after).map (tokensEach children ++ ·)) :
    tokens? (chars l indent (list tag children) ++ rest) =
      (tokens? rest).map (tokens (list tag children) ++ ·) := by
  obtain ⟨inner, sep, last, hs, hl, heq⟩ := chars_list l indent tag children
  have hafter : Boundary (last ++ ')' :: rest) := by
    cases last with
    | nil => exact boundary_cons (by decide) rest
    | cons c last => exact boundary_gap ⟨List.cons_ne_nil _ _, hl⟩ _
  rw [heq, tokens, List.cons_append, tokens?_opening, List.append_assoc, List.append_assoc,
    List.append_assoc, List.singleton_append,
    tokens?_word ht (boundary_charsEach l inner hs children hafter), hch inner sep _ hs hafter,
    tokens?_blanks hl, tokens?_closing]
  cases tokens? rest with
  | none => rfl
  | some ts => simp

mutual

/-- **Printing keeps the tokens.** Under every layout and at every indentation the text of a
readable tree is cut into the tree's tokens. -/
theorem tokens?_chars (l : Layout) (indent : Nat) {node : Node} (h : node.Readable)
    {rest : List Char} (hr : Boundary rest) :
    tokens? (chars l indent node ++ rest) = (tokens? rest).map (node.tokens ++ ·) := by
  cases node with
  | symbol text =>
    rw [Readable] at h
    rw [chars, tokens]
    have := tokens?_words h hr
    rwa [show " ".intercalate (words text) = text from Text.intercalate_splitString ' ' text] at this
  | string text => rw [chars, tokens]; exact tokens?_quote text rest
  | list tag children =>
    rw [Readable] at h
    exact tokens?_list l indent h.1 rest fun inner sep after hs ha =>
      tokens?_charsEach l inner hs h.2 ha

theorem tokens?_charsEach (l : Layout) (indent : Nat) {sep : List Char} (hs : IsGap sep)
    {nodes : List Node} (h : ReadableEach nodes) {rest : List Char} (hr : Boundary rest) :
    tokens? (charsEach l indent sep nodes ++ rest) =
      (tokens? rest).map (tokensEach nodes ++ ·) := by
  cases nodes with
  | nil =>
    rw [charsEach, tokensEach, List.nil_append]
    cases tokens? rest <;> rfl
  | cons node nodes =>
    rw [ReadableEach] at h
    rw [charsEach, tokensEach, List.append_assoc, List.append_assoc, tokens?_blanks hs.2,
      tokens?_chars l indent h.1 (boundary_charsEach l indent hs nodes hr),
      tokens?_charsEach l indent hs h.2 hr, Option.map_map]
    cases tokens? rest with
    | none => rfl
    | some ts => simp

end

end Node

end WatText
