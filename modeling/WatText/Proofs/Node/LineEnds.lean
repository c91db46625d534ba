import Mathlib.Algebra.Order.BigOperators.Group.List
import Mathlib.Algebra.Order.Ring.Nat
import WatText.Node.Layout
import WatText.Proofs.Text.Quoted

/-!
# The line ends of a printed tree

`lineLaw_render`: a text has one line end for each child of every list that breaks, and one more for
each of these lists, wherever they stand in the tree. From this one sum follows when a text is one
line, and how the number of lines changes with the layout.

The lists of a tree are among its subnodes (`Node.subnodes`), so the sum is one over a flat list. It
is split at the root and its children (`lineEnds_list`) to be compared with the printer, which
recurses on the tree (`count_chars`).
-/

namespace WatText

namespace Node

/-! ## Subnodes -/

mutual

/-- The nodes of a tree, the tree itself first. -/
def subnodes : Node → List Node
  | symbol text => [symbol text]
  | string text => [string text]
  | list tag children => list tag children :: subnodesEach children

def subnodesEach : List Node → List Node
  | [] => []
  | node :: nodes => subnodes node ++ subnodesEach nodes

end

theorem subnodesEach_eq_flatMap (nodes : List Node) :
    subnodesEach nodes = nodes.flatMap subnodes := by
  induction nodes with
  | nil => rw [subnodesEach, List.flatMap_nil]
  | cons node nodes ih => rw [subnodesEach, ih, List.flatMap_cons]

theorem subnodes_list (tag : String) (children : List Node) :
    (list tag children).subnodes = list tag children :: children.flatMap subnodes := by
  rw [subnodes, subnodesEach_eq_flatMap]

theorem mem_subnodes_self (n : Node) : n ∈ n.subnodes := by
  cases n <;> rw [subnodes] <;> exact List.mem_cons_self

theorem mem_subnodes_list {m : Node} {tag : String} {children : List Node} :
    m ∈ (list tag children).subnodes ↔ m = list tag children ∨ ∃ c ∈ children, m ∈ c.subnodes := by
  rw [subnodes_list, List.mem_cons, List.mem_flatMap]

/-- No subnode is higher than the tree. -/
theorem height_le_of_mem_subnodes {m : Node} : {n : Node} → m ∈ n.subnodes → m.height ≤ n.height
  | symbol _, h => by rw [subnodes] at h; rw [List.mem_singleton.1 h]
  | string _, h => by rw [subnodes] at h; rw [List.mem_singleton.1 h]
  | list tag children, h => by
    rcases mem_subnodes_list.1 h with rfl | ⟨c, hc, hm⟩
    · exact Nat.le_refl _
    · exact (height_le_of_mem_subnodes hm).trans (height_lt_of_mem hc).le
  termination_by n => n.height
  decreasing_by exact height_lt_of_mem hc

/-- A tree with a subnode that has children has children. -/
theorem children_ne_nil_of_mem_subnodes {m n : Node} (h : m ∈ n.subnodes)
    (hm : m.children ≠ []) : n.children ≠ [] := by
  cases n with
  | symbol text => rw [subnodes] at h; rwa [List.mem_singleton.1 h] at hm
  | string text => rw [subnodes] at h; rwa [List.mem_singleton.1 h] at hm
  | list tag children =>
    rcases mem_subnodes_list.1 h with rfl | ⟨c, hc, -⟩
    · exact hm
    · exact List.ne_nil_of_mem hc

/-! ## Trees without line ends of their own -/

/-- What a node shows as it is: the text of a symbol, the tag of a list. -/
def bare : Node → String
  | symbol text => text
  | string _ => ""
  | list tag _ => tag

/-- Whether no symbol and no tag of a tree has a line end in it. -/
def Plain (n : Node) : Prop :=
  ∀ m ∈ n.subnodes, '\n' ∉ m.bare.toList

instance : DecidablePred Plain := fun n =>
  inferInstanceAs (Decidable (∀ m ∈ n.subnodes, '\n' ∉ m.bare.toList))

theorem plain_symbol {text : String} (h : (symbol text).Plain) : '\n' ∉ text.toList :=
  h _ (mem_subnodes_self _)

theorem plain_list {tag : String} {children : List Node} (h : (list tag children).Plain) :
    '\n' ∉ tag.toList ∧ ∀ c ∈ children, c.Plain :=
  ⟨h _ (mem_subnodes_self _), fun c hc m hm => h m (mem_subnodes_list.2 (.inr ⟨c, hc, hm⟩))⟩

/-! ## Lists that break -/

/-- Whether a node is a list that breaks: it has children, and it is higher than a line allows or
its tag is a break tag. -/
def Breaking (l : Layout) (n : Node) : Prop :=
  n.children ≠ [] ∧ (l.inlineHeight < n.height ∨ ∃ tag ∈ l.breakTags, n.tag? = some tag)

instance (l : Layout) : DecidablePred (Breaking l) := fun n =>
  inferInstanceAs (Decidable
    (n.children ≠ [] ∧ (l.inlineHeight < n.height ∨ ∃ tag ∈ l.breakTags, n.tag? = some tag)))

theorem breaking_list {l : Layout} {tag : String} {children : List Node} :
    (list tag children).Breaking l ↔ l.breaks tag children = true := by
  have htag : (∃ t ∈ l.breakTags, (list tag children).tag? = some t) ↔ tag ∈ l.breakTags := by
    simp [tag?]
  unfold Breaking Layout.breaks
  rw [htag]
  cases children <;> simp [Node.children]

/-- Wider layouts break fewer lists. -/
theorem Breaking.mono {l l' : Layout} (hh : l.inlineHeight ≤ l'.inlineHeight)
    (ht : l'.breakTags ⊆ l.breakTags) {n : Node} (h : n.Breaking l') : n.Breaking l := by
  obtain ⟨hne, hhigh | ⟨tag, hmem, htag⟩⟩ := h
  · exact ⟨hne, .inl (Nat.lt_of_le_of_lt hh hhigh)⟩
  · exact ⟨hne, .inr ⟨tag, ht hmem, htag⟩⟩

/-- The line ends that a layout puts into a tree: one before each child of a list that breaks, and
one before the end of the list. -/
def lineEnds (l : Layout) (n : Node) : Nat :=
  ((n.subnodes.filter fun m => m.Breaking l).map fun m => m.children.length + 1).sum

theorem lineEnds_of_children_eq_nil (l : Layout) {n : Node} (h : n.children = []) :
    n.lineEnds l = 0 := by
  have hnone : n.subnodes.filter (fun m => m.Breaking l) = [] := by
    rw [List.filter_eq_nil_iff]
    intro m hm hb
    exact children_ne_nil_of_mem_subnodes hm (of_decide_eq_true hb).1 h
  rw [lineEnds, hnone]
  rfl

/-- The line ends of a list are its own and those of its children. -/
theorem lineEnds_list (l : Layout) (tag : String) (children : List Node) :
    (list tag children).lineEnds l =
      (if l.breaks tag children then children.length + 1 else 0)
        + (children.map (lineEnds l)).sum := by
  have hchildren : (((children.flatMap subnodes).filter fun m => m.Breaking l).map
      fun m => m.children.length + 1).sum = (children.map (lineEnds l)).sum := by
    induction children with
    | nil => rfl
    | cons c children ih =>
      rw [List.flatMap_cons, List.filter_append, List.map_append, List.sum_append, ih,
        List.map_cons, List.sum_cons]
      rfl
  rw [← hchildren, lineEnds, subnodes_list]
  by_cases h : l.breaks tag children = true
  · rw [List.filter_cons_of_pos (by simpa [breaking_list] using h), List.map_cons, List.sum_cons,
      if_pos h]
    rfl
  · rw [List.filter_cons_of_neg (by simpa [breaking_list] using h), if_neg h, Nat.zero_add]

theorem lineEnds_eq_zero_iff {l : Layout} {n : Node} :
    n.lineEnds l = 0 ↔ ∀ m ∈ n.subnodes, ¬m.Breaking l := by
  unfold lineEnds
  rw [List.sum_eq_zero_iff]
  constructor
  · intro hzero m hm hb
    have hmem : m ∈ n.subnodes.filter fun m => m.Breaking l :=
      List.mem_filter.2 ⟨hm, decide_eq_true hb⟩
    exact Nat.succ_ne_zero _ (hzero _ (List.mem_map.2 ⟨m, hmem, rfl⟩))
  · intro hnone x hx
    obtain ⟨m, hmem, -⟩ := List.mem_map.1 hx
    obtain ⟨hm, hb⟩ := List.mem_filter.1 hmem
    exact absurd (of_decide_eq_true hb) (hnone m hm)

/-- Wider layouts put fewer line ends into a tree. -/
theorem lineEnds_le {l l' : Layout} (hh : l.inlineHeight ≤ l'.inlineHeight)
    (ht : l'.breakTags ⊆ l.breakTags) (n : Node) : n.lineEnds l' ≤ n.lineEnds l := by
  have hsub : (n.subnodes.filter fun m => m.Breaking l').Sublist
      (n.subnodes.filter fun m => m.Breaking l) := by
    apply List.monotone_filter_right
    intro m hm
    exact decide_eq_true ((of_decide_eq_true hm).mono hh ht)
  exact (hsub.map _).sum_le_sum fun _ _ => Nat.zero_le _

/-! ## The text of a tree -/

theorem count_newline (indent : Nat) : (newline indent).count '\n' = 1 := by
  simp [newline, List.count_replicate]

mutual

/-- **The printer puts a line end where a list breaks, and nowhere else.** -/
theorem count_chars (l : Layout) (indent : Nat) (node : Node) (h : node.Plain) :
    (chars l indent node).count '\n' = node.lineEnds l := by
  cases node with
  | symbol text =>
    rw [chars, List.count_eq_zero.2 (plain_symbol h), lineEnds_of_children_eq_nil l rfl]
  | string text =>
    rw [chars, List.count_eq_zero.2 (Text.newline_not_mem_quote text.toList),
      lineEnds_of_children_eq_nil l rfl]
  | list tag children =>
    obtain ⟨htag, hchildren⟩ := plain_list h
    have heach := fun indent sep => count_charsEach l indent sep children hchildren
    rw [chars, List.count_cons_of_ne (by decide), List.count_append, List.count_eq_zero.2 htag,
      lineEnds_list]
    by_cases hb : l.breaks tag children = true
    · rw [if_pos hb, if_pos hb, List.count_append, List.count_append, heach, count_newline,
        count_newline, List.count_singleton, if_neg (by decide)]
      omega
    · rw [if_neg hb, if_neg hb, List.count_append, heach, List.count_singleton,
        List.count_singleton, if_neg (by decide), if_neg (by decide)]
      omega

theorem count_charsEach (l : Layout) (indent : Nat) (sep : List Char) (nodes : List Node)
    (h : ∀ n ∈ nodes, n.Plain) :
    (charsEach l indent sep nodes).count '\n' =
      nodes.length * sep.count '\n' + (nodes.map (lineEnds l)).sum := by
  cases nodes with
  | nil => rw [charsEach, List.length_nil, Nat.zero_mul]; rfl
  | cons node nodes =>
    rw [charsEach, List.count_append, List.count_append,
      count_chars l indent node (h node List.mem_cons_self),
      count_charsEach l indent sep nodes fun n hn => h n (List.mem_cons_of_mem node hn),
      List.length_cons, List.map_cons, List.sum_cons, Nat.succ_mul]
    omega

end

/-- The number of lines of a tree's text. -/
def lineCount (l : Layout) (n : Node) : Nat :=
  (n.render l).toList.count '\n' + 1

theorem lineCount_eq (l : Layout) {n : Node} (h : n.Plain) : n.lineCount l = n.lineEnds l + 1 := by
  rw [lineCount, render_eq_ofList, String.toList_ofList, count_chars l 0 n h]

/-- How a layout and a tree decide on the lines of the text. -/
structure LineLaw (l : Layout) (n : Node) : Prop where
  /-- Every list that breaks, at any depth, adds a line end for each child and one more. -/
  count : (n.render l).toList.count '\n' =
    ((n.subnodes.filter fun m => m.Breaking l).map fun m => m.children.length + 1).sum
  /-- The text is one line exactly if the root is not too high and no list has a break tag, lists
  without children apart. -/
  oneLine : '\n' ∉ (n.render l).toList ↔
    ¬(n.children ≠ [] ∧ l.inlineHeight < n.height) ∧
      ∀ m ∈ n.subnodes, m.children ≠ [] → ∀ tag ∈ l.breakTags, m.tag? ≠ some tag
  indent : ∀ l' : Layout, l'.inlineHeight = l.inlineHeight → l'.breakTags = l.breakTags →
    n.lineCount l' = n.lineCount l
  inlineHeight : ∀ l' : Layout, l.inlineHeight ≤ l'.inlineHeight → l'.breakTags = l.breakTags →
    n.lineCount l' ≤ n.lineCount l
  breakTags : ∀ l' : Layout, l'.inlineHeight = l.inlineHeight → l.breakTags ⊆ l'.breakTags →
    n.lineCount l ≤ n.lineCount l'

/-- **The law of lines.** -/
theorem lineLaw_render (l : Layout) {n : Node} (h : n.Plain) : LineLaw l n := by
  have hcount : (n.render l).toList.count '\n' = n.lineEnds l := by
    have := lineCount_eq l h
    unfold lineCount at this
    omega
  refine ⟨hcount, ?_, ?_, ?_, ?_⟩
  · rw [← List.count_eq_zero, hcount, lineEnds_eq_zero_iff]
    constructor
    · intro hnone
      refine ⟨fun ⟨hne, hhigh⟩ => hnone n n.mem_subnodes_self ⟨hne, .inl hhigh⟩, ?_⟩
      exact fun m hm hne tag hmem htag => hnone m hm ⟨hne, .inr ⟨tag, hmem, htag⟩⟩
    · rintro ⟨hlow, htags⟩ m hm ⟨hne, hhigh | ⟨tag, hmem, htag⟩⟩
      · -- the root is at least as high as the list that breaks
        exact hlow ⟨children_ne_nil_of_mem_subnodes hm hne,
          Nat.lt_of_lt_of_le hhigh (height_le_of_mem_subnodes hm)⟩
      · exact htags m hm hne tag hmem htag
  · intro l' hh ht
    rw [lineCount_eq l' h, lineCount_eq l h]
    exact congrArg (· + 1) (Nat.le_antisymm (lineEnds_le hh.ge (ht ▸ List.Subset.refl _) n)
      (lineEnds_le hh.le (ht ▸ List.Subset.refl _) n))
  · intro l' hh ht
    rw [lineCount_eq l' h, lineCount_eq l h]
    exact Nat.add_le_add_right (lineEnds_le hh (ht ▸ List.Subset.refl _) n) 1
  · intro l' hh ht
    rw [lineCount_eq l' h, lineCount_eq l h]
    exact Nat.add_le_add_right (lineEnds_le hh.le ht n) 1

/-- A list with a break tag inside a list that does not break, and one without children. -/
def blockFunc : Node :=
  list "func" [string "a\n", list "block" [symbol "nop", list "block" []], symbol "end"]

/-- Only the list with a break tag and with children breaks, and its two children make three line
ends. -/
theorem lineLaw_blockFunc :
    blockFunc.Plain ∧
      blockFunc.render { indent := 1, inlineHeight := 3, breakTags := ["block"] } =
        "(func \"a\\n\" (block\n nop\n (block)\n) end)" ∧
      blockFunc.lineEnds { indent := 1, inlineHeight := 3, breakTags := ["block"] } = 3 ∧
      LineLaw { indent := 1, inlineHeight := 3, breakTags := ["block"] } blockFunc :=
  have h : blockFunc.Plain := by decide
  ⟨h, rfl, by decide, lineLaw_render { indent := 1, inlineHeight := 3, breakTags := ["block"] } h⟩

end Node

end WatText
