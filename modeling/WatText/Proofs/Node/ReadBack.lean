import WatText.Proofs.Node.Tokens

/-!
# Reading undoes printing

`read?_render`: the text of a readable tree is read back, whatever the layout, as the tree with one
symbol per word (`Node.spread`), and the reader uses the whole text.

`tokens?_chars` leaves the tokens of the tree. Reading them inside any frame adds the spread nodes
to it (`ofTokens?_tokens`), by induction on the tree: a list opens a frame of its own, which its
closing parenthesis adds to the frame outside.
-/

namespace WatText

namespace Node

mutual

/-- A node as it is read back: a symbol as one symbol per word. -/
def spread : Node → List Node
  | symbol text => (words text).map symbol
  | string text => [string text]
  | list tag children => [list tag (spreadEach children)]

def spreadEach : List Node → List Node
  | [] => []
  | node :: nodes => spread node ++ spreadEach nodes

end

mutual

def decideReadable : (node : Node) → Decidable node.Readable
  | symbol text => inferInstanceAs (Decidable (∀ w ∈ words text, IsWord w))
  | string _ => isTrue trivial
  | list tag children =>
    have := decideReadableEach children
    inferInstanceAs (Decidable (IsWord tag ∧ ReadableEach children))

def decideReadableEach : (nodes : List Node) → Decidable (ReadableEach nodes)
  | [] => isTrue trivial
  | node :: nodes =>
    have := decideReadable node
    have := decideReadableEach nodes
    inferInstanceAs (Decidable (Readable node ∧ ReadableEach nodes))

end

instance : DecidablePred Readable := decideReadable

/-! ## Reading tokens inside a frame -/

def Frame.addEach (f : Frame) (nodes : List Node) : Frame :=
  nodes.foldl Frame.add f

theorem Frame.addEach_append (f : Frame) (ns ms : List Node) :
    f.addEach (ns ++ ms) = (f.addEach ns).addEach ms :=
  List.foldl_append

theorem Frame.toNode_addEach (tag : String) (nodes : List Node) :
    (Frame.addEach { tag } nodes).toNode = list tag nodes := by
  have h : ∀ done : List Node,
      Frame.addEach { tag, done } nodes = { tag, done := nodes.reverse ++ done } := by
    induction nodes with
    | nil => intro done; rfl
    | cons node nodes ih =>
      intro done
      show Frame.addEach { tag, done := node :: done } nodes = _
      rw [ih, List.reverse_cons, List.append_assoc]
      rfl
  rw [h, toNode, List.append_nil, List.reverse_reverse]

theorem ofTokens?_words (f : Frame) (stack : List Frame) (ws : List String) (rest : List Token) :
    ofTokens? (f :: stack) (ws.map Token.word ++ rest) =
      ofTokens? (f.addEach (ws.map symbol) :: stack) rest := by
  induction ws generalizing f with
  | nil => rfl
  | cons w ws ih =>
    show ofTokens? (f :: stack) (.word w :: (ws.map Token.word ++ rest)) = _
    rw [ofTokens?, ih]
    rfl

mutual

/-- Reading the tokens of a node adds the spread node to the innermost frame. -/
theorem ofTokens?_tokens (f : Frame) (stack : List Frame) (node : Node) (rest : List Token) :
    ofTokens? (f :: stack) (node.tokens ++ rest) =
      ofTokens? (f.addEach node.spread :: stack) rest := by
  cases node with
  | symbol text => rw [tokens, spread]; exact ofTokens?_words f stack (words text) rest
  | string text =>
    rw [tokens, spread, List.singleton_append, ofTokens?]
    rfl
  | list tag children =>
    rw [tokens, spread, List.cons_append, List.cons_append, List.append_assoc, ofTokens?,
      ofTokens?_tokensEach { tag } (f :: stack) children, List.singleton_append, ofTokens?,
      Frame.toNode_addEach]
    rfl

theorem ofTokens?_tokensEach (f : Frame) (stack : List Frame) (nodes : List Node)
    (rest : List Token) :
    ofTokens? (f :: stack) (tokensEach nodes ++ rest) =
      ofTokens? (f.addEach (spreadEach nodes) :: stack) rest := by
  cases nodes with
  | nil => rw [tokensEach, spreadEach]; rfl
  | cons node nodes =>
    rw [tokensEach, spreadEach, List.append_assoc, ofTokens?_tokens f stack node,
      ofTokens?_tokensEach _ stack nodes, Frame.addEach_append]

end

/-- The tokens of a list and further tokens: the list, if there are no further ones. -/
theorem ofTokens?_list (tag : String) (children : List Node) (rest : List Token) :
    ofTokens? [] ((list tag children).tokens ++ rest) =
      if rest = [] then some (list tag (spreadEach children)) else none := by
  rw [tokens, List.cons_append, List.cons_append, List.append_assoc, ofTokens?,
    ofTokens?_tokensEach { tag } [] children, List.singleton_append]
  cases rest with
  | nil => rw [ofTokens?, Frame.toNode_addEach, if_pos rfl]
  | cons t rest => rfl

/-! ## Reading a text -/

theorem isBlank_of_tokens?_eq_nil {cs : List Char} (h : tokens? cs = some []) :
    ∀ c ∈ cs, isBlank c = true := by
  induction cs with
  | nil => intro c hc; cases hc
  | cons c cs ih =>
    by_cases hb : isBlank c = true
    · rw [tokens?_blank hb] at h
      intro d hd
      rcases List.mem_cons.1 hd with rfl | hd
      · exact hb
      · exact ih h d hd
    · rw [tokens?, if_neg hb] at h
      exfalso
      split at h
      · simp at h
      · split at h
        · simp at h
        · split at h
          · split at h <;> simp at h
          · simp at h

/-- What is read from the text of a list and a text after it. -/
theorem read?_render_append (l : Layout) {tag : String} {children : List Node}
    (h : (list tag children).Readable) (extra : String) :
    read? (render l (list tag children) ++ extra) =
      if extra.toList.all isBlank = true then some (list tag (spreadEach children)) else none := by
  have htokens : tokens? (render l (list tag children) ++ extra).toList =
      (tokens? extra.toList).map ((list tag children).tokens ++ ·) := by
    rw [String.toList_append, render_eq_ofList, String.toList_ofList]
    rw [Readable] at h
    exact tokens?_list l 0 h.1 extra.toList fun inner sep after hs ha =>
      tokens?_charsEach l inner hs h.2 ha
  rw [read?, htokens]
  by_cases hb : extra.toList.all isBlank = true
  · have he := tokens?_blanks (List.all_eq_true.1 hb) []
    rw [List.append_nil, tokens?_nil] at he
    rw [if_pos hb, he]
    exact (ofTokens?_list tag children []).trans (if_pos rfl)
  · rw [if_neg hb]
    cases he : tokens? extra.toList with
    | none => rfl
    | some ts =>
      -- a further token stands after the closing parenthesis of the whole tree
      have hts : ts ≠ [] := fun hn =>
        hb (List.all_eq_true.2 (isBlank_of_tokens?_eq_nil (hn ▸ he)))
      exact (ofTokens?_list tag children ts).trans (if_neg hts)

theorem read?_render_list (l : Layout) {tag : String} {children : List Node}
    (h : (list tag children).Readable) :
    read? (render l (list tag children)) = some (list tag (spreadEach children)) := by
  have hr := read?_render_append l h ""
  rwa [String.append_empty, if_pos (show "".toList.all isBlank = true from rfl)] at hr

/-- **Reading undoes printing.** The text of a readable list is read back under every layout, as
the same list with every symbol replaced, in its place, by one symbol per word. The whole text
counts: with anything but blanks after it nothing is read. -/
theorem read?_render {tag : String} {children : List Node} (h : (list tag children).Readable)
    (l : Layout) :
    read? (render l (list tag children)) = some (list tag (spreadEach children)) ∧
      ∀ extra : String, (∃ c ∈ extra.toList, isBlank c = false) →
        read? (render l (list tag children) ++ extra) = none := by
  refine ⟨read?_render_list l h, ?_⟩
  rintro extra ⟨c, hc, hb⟩
  rw [read?_render_append l h, if_neg]
  intro hall
  have hblank := List.all_eq_true.1 hall c hc
  rw [hb] at hblank
  cases hblank

/-- A function whose second instruction takes an operand that reads like an instruction, printed
with every list broken and no indentation. -/
theorem read?_render_func :
    (list "func" [string "a\"\\ \u0007", symbol "get_local nop", list "block" []]).Readable ∧
      read? (render { indent := 0, inlineHeight := 0, breakTags := [] }
          (list "func" [string "a\"\\ \u0007", symbol "get_local nop", list "block" []])) =
        some (list "func"
          [string "a\"\\ \u0007", symbol "get_local", symbol "nop", list "block" []]) :=
  have h : (list "func" [string "a\"\\ \u0007", symbol "get_local nop", list "block" []]).Readable :=
    by decide
  ⟨h, (read?_render h { indent := 0, inlineHeight := 0, breakTags := [] }).1⟩

end Node

end WatText
