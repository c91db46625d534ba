import Mathlib.Logic.Function.Iterate
import WatText.Node.Printer
import WatText.Proofs.Node.LineEnds

/-!
# Indentation

`composed_render`: the text of a list is put together from the texts that its children have on their
own. A list that breaks moves them to the right (`shift`), any other list takes them as they are.

`chars_add`: printing at a deeper indentation is moving the text to the right. So what a node looks
like inside a tree is its own text, moved once for each list around it that breaks
(`Node.Stands`).
-/

namespace WatText

/-! ## Moving a text to the right -/

/-- A text with some blanks after each of its line ends. -/
def shift (indent : Nat) (cs : List Char) : List Char :=
  cs.flatMap fun c => if c = '\n' then newline indent else [c]

theorem shift_append (indent : Nat) (cs ds : List Char) :
    shift indent (cs ++ ds) = shift indent cs ++ shift indent ds :=
  List.flatMap_append

theorem shift_of_not_mem {indent : Nat} {cs : List Char} (h : '\n' ∉ cs) :
    shift indent cs = cs := by
  have hone : ∀ c ∈ cs, (if c = '\n' then newline indent else [c]) = [c] := by
    intro c hc
    have hne : c ≠ '\n' := fun he => h (he ▸ hc)
    exact if_neg hne
  rw [shift, List.flatMap_congr hone]
  exact List.flatMap_singleton' cs

theorem shift_newline (indent k : Nat) : shift k (newline indent) = newline (indent + k) := by
  have hblanks : '\n' ∉ List.replicate indent ' ' := fun h =>
    absurd (List.eq_of_mem_replicate h) (by decide)
  have hcons : newline indent = ['\n'] ++ List.replicate indent ' ' := rfl
  rw [hcons, shift_append, shift_of_not_mem hblanks]
  show newline k ++ [] ++ List.replicate indent ' ' = _
  rw [List.append_nil, newline, List.cons_append, List.replicate_append_replicate, Nat.add_comm]
  rfl

namespace Node

mutual

/-- **Printing deeper is printing and moving to the right.** -/
theorem chars_add (l : Layout) (indent k : Nat) (node : Node) (h : node.Plain) :
    chars l (indent + k) node = shift k (chars l indent node) := by
  cases node with
  | symbol text => rw [chars, chars, shift_of_not_mem (plain_symbol h)]
  | string text =>
    rw [chars, chars, shift_of_not_mem (Text.newline_not_mem_quote text.toList)]
  | list tag children =>
    obtain ⟨htag, hchildren⟩ := plain_list h
    have hopen : '\n' ∉ '(' :: tag.toList := fun hmem =>
      (List.mem_cons.1 hmem).elim (by decide) htag
    have hclose : shift k [')'] = [')'] := rfl
    rw [chars, chars, ← List.cons_append, ← List.cons_append, shift_append, shift_of_not_mem hopen]
    split
    · rw [shift_append, shift_append, hclose, shift_newline,
        ← charsEach_add l (indent + l.indent) k _ children hchildren, shift_newline,
        Nat.add_right_comm]
    · rw [shift_append, hclose, ← charsEach_add l indent k [' '] children hchildren]
      rfl

theorem charsEach_add (l : Layout) (indent k : Nat) (sep : List Char) (nodes : List Node)
    (h : ∀ n ∈ nodes, n.Plain) :
    charsEach l (indent + k) (shift k sep) nodes = shift k (charsEach l indent sep nodes) := by
  cases nodes with
  | nil => rw [charsEach, charsEach]; rfl
  | cons node nodes =>
    rw [charsEach, charsEach, shift_append, shift_append,
      chars_add l indent k node (h node List.mem_cons_self),
      charsEach_add l indent k sep nodes fun n hn => h n (List.mem_cons_of_mem node hn)]

end

/-- A node some levels deeper. -/
theorem chars_mul (l : Layout) (levels : Nat) (node : Node) (h : node.Plain) :
    chars l (levels * l.indent) node = (shift l.indent)^[levels] (chars l 0 node) := by
  induction levels with
  | zero => rw [Nat.zero_mul]; rfl
  | succ n ih => rw [Nat.succ_mul, chars_add l _ _ node h, ih, Function.iterate_succ_apply']

end Node

/-! ## Trees around a node -/

/-- A list with a place for one more child. -/
structure Enclosure where
  tag : String
  before : List Node
  after : List Node

/-- The list with a node at its place. -/
def Enclosure.around (e : Enclosure) (n : Node) : Node :=
  .list e.tag (e.before ++ n :: e.after)

namespace Node

/-- A node inside some lists, the innermost first. -/
def enclosed (n : Node) : List Enclosure → Node
  | [] => n
  | e :: es => (e.around n).enclosed es

/-- How many of the lists around a node break. -/
def levels (l : Layout) (n : Node) : List Enclosure → Nat
  | [] => 0
  | e :: es => (if (e.around n).Breaking l then 1 else 0) + (e.around n).levels l es

theorem maxHeight_append (ns ms : List Node) :
    maxHeight (ns ++ ms) = max (maxHeight ns) (maxHeight ms) := by
  induction ns with
  | nil => rw [List.nil_append, maxHeight, Nat.zero_max]
  | cons n ns ih => rw [List.cons_append, maxHeight, maxHeight, ih, Nat.max_assoc]

theorem height_around_congr {n n' : Node} (h : n'.height = n.height) (e : Enclosure) :
    (e.around n').height = (e.around n).height := by
  unfold Enclosure.around
  rw [height_list, height_list, maxHeight_append, maxHeight_append, maxHeight, maxHeight, h]

theorem breaks_around_congr (l : Layout) {n n' : Node} (h : n'.height = n.height)
    (e : Enclosure) :
    l.breaks e.tag (e.before ++ n' :: e.after) = l.breaks e.tag (e.before ++ n :: e.after) := by
  have hheight := height_around_congr h e
  have hne : ∀ m : Node, (e.before ++ m :: e.after).isEmpty = false := by
    intro m
    cases e.before <;> rfl
  unfold Enclosure.around at hheight
  rw [Layout.breaks, Layout.breaks, hne, hne, hheight]

/-- How a printer comes to a node inside some lists, and how it goes on behind it. -/
structure Stands (l : Layout) (n : Node) (es : List Enclosure) (before after : List PrintStep) :
    Prop where
  /-- Nothing but the height of the node decides on the steps around it. -/
  steps : ∀ n' : Node, n'.height = n.height →
    (n'.enclosed es).steps l = before ++ (n'.steps l ++ after)
  /-- One level for each list around the node that breaks. -/
  indent : ∀ p : Printer, (p.run l before).indent = p.indent + n.levels l es * l.indent

/-- A node inside one list. -/
theorem stands_around (l : Layout) (n : Node) (e : Enclosure) :
    ∃ before after, Stands l n [e] before after := by
  have hlevels : n.levels l [e] = if l.breaks e.tag (e.before ++ n :: e.after) then 1 else 0 := by
    rw [levels, levels, Nat.add_zero]
    exact if_congr breaking_list rfl rfl
  by_cases hb : l.breaks e.tag (e.before ++ n :: e.after) = true
  · refine ⟨.put ('(' :: e.tag.toList) :: .raise :: (stepsEach l .lineEnd e.before ++ [.lineEnd]),
      stepsEach l .lineEnd e.after ++ [.lower, .lineEnd, .put [')']], fun n' h => ?_, fun p => ?_⟩
    · rw [enclosed, enclosed, Enclosure.around, Node.steps, breaks_around_congr l h e, if_pos hb,
        stepsEach_append, stepsEach]
      simp
    · rw [hlevels, if_pos hb, Nat.one_mul, Printer.run_cons, Printer.run_cons, Printer.run_append,
        run_stepsEach l _ .lineEnd (newline (p.indent + l.indent)) _ fun q hq => by
          rw [Printer.take, hq]; rfl]
      rfl
  · refine ⟨.put ('(' :: e.tag.toList) :: (stepsEach l (.put [' ']) e.before ++ [.put [' ']]),
      stepsEach l (.put [' ']) e.after ++ [.put [')']], fun n' h => ?_, fun p => ?_⟩
    · rw [enclosed, enclosed, Enclosure.around, Node.steps, breaks_around_congr l h e, if_neg hb,
        stepsEach_append, stepsEach]
      simp
    · rw [hlevels, if_neg hb, Nat.zero_mul, Printer.run_cons, Printer.run_append,
        run_stepsEach l _ (.put [' ']) [' '] _ fun q _ => rfl]
      rfl

theorem exists_stands (l : Layout) (n : Node) (es : List Enclosure) :
    ∃ before after, Stands l n es before after := by
  induction es generalizing n with
  | nil =>
    refine ⟨[], [], fun n' _ => ?_, fun p => ?_⟩
    · rw [enclosed, List.append_nil, List.nil_append]
    · rw [levels, Nat.zero_mul]; rfl
  | cons e es ih =>
    obtain ⟨before, after, hinner⟩ := stands_around l n e
    obtain ⟨before', after', houter⟩ := ih (e.around n)
    refine ⟨before' ++ before, after ++ after', fun n' h => ?_, fun p => ?_⟩
    · have hone := hinner.steps n' h
      rw [enclosed, enclosed] at hone
      rw [enclosed, houter.steps _ (height_around_congr h e), hone]
      simp
    · have hone := hinner.indent (p.run l before')
      rw [levels, levels, Nat.add_zero] at hone
      rw [Printer.run_append, hone, houter.indent, levels, Nat.add_mul]
      omega

/-- What the text of a list is made of. -/
structure Composed (l : Layout) (tag : String) (children : List Node) : Prop where
  /-- A list that breaks: every child on a line of its own and moved to the right. -/
  broken : (list tag children).Breaking l →
    ((list tag children).render l).toList =
      '(' :: (tag.toList
        ++ (children.flatMap fun c => newline l.indent ++ shift l.indent (c.render l).toList)
        ++ ['\n', ')'])
  /-- A list that does not break: every child as it is. -/
  unbroken : ¬(list tag children).Breaking l →
    ((list tag children).render l).toList =
      '(' :: (tag.toList ++ (children.flatMap fun c => ' ' :: (c.render l).toList) ++ [')'])
  /-- The running indentation is the same after the list as before it. -/
  restored : ∀ p : Printer, (p.run l ((list tag children).steps l)).indent = p.indent
  /-- Inside other lists the printer does for the list what it does for the list alone, at an
  indentation of one level for each of them that breaks. -/
  stands : ∀ es : List Enclosure, ∃ before after, Stands l (list tag children) es before after
  /-- So the text of the list is moved once for each of them that breaks, and what stands around it
  is the same for every node as high as the list. -/
  inside : ∀ es : List Enclosure, ∃ before after, ∀ n : Node,
    n.height = (list tag children).height → n.Plain →
      ((n.enclosed es).render l).toList =
        before ++ (shift l.indent)^[(list tag children).levels l es] (n.render l).toList ++ after

/-- **Printing is compositional in the indentation.** -/
theorem composed_render (l : Layout) {tag : String} {children : List Node}
    (h : (list tag children).Plain) : Composed l tag children := by
  have hchildren := (plain_list h).2
  refine ⟨fun hb => ?_, fun hb => ?_, fun p => ?_, fun es => ?_, fun es => ?_⟩
  · have heach : ∀ c ∈ children, newline l.indent ++ chars l l.indent c =
        newline l.indent ++ shift l.indent (c.render l).toList := by
      intro c hc
      have hdeeper := chars_add l 0 l.indent c (hchildren c hc)
      rw [Nat.zero_add] at hdeeper
      rw [hdeeper, render_eq_ofList, String.toList_ofList]
    rw [render_eq_ofList, String.toList_ofList, chars, if_pos (breaking_list.1 hb), Nat.zero_add,
      charsEach_eq_flatMap, List.flatMap_congr heach]
    simp [newline]
  · have heach : ∀ c ∈ children, [' '] ++ chars l 0 c = ' ' :: (c.render l).toList := by
      intro c _
      rw [render_eq_ofList, String.toList_ofList]
      rfl
    rw [render_eq_ofList, String.toList_ofList, chars, if_neg fun hn => hb (breaking_list.2 hn),
      charsEach_eq_flatMap, List.flatMap_congr heach, List.append_assoc]
  · rw [run_steps, Printer.indent_put]
  · exact exists_stands l (list tag children) es
  · obtain ⟨before, after, hs⟩ := exists_stands l (list tag children) es
    have hindent := hs.indent {}
    rw [Nat.zero_add] at hindent
    refine ⟨(Printer.run l {} before).written,
      (Printer.run l { indent := (list tag children).levels l es * l.indent } after).written, ?_⟩
    intro n hn hplain
    rw [toList_render, hs.steps n hn, Printer.run_append, Printer.run_append, run_steps,
      Printer.written_run, Printer.indent_put, hindent, chars_mul l _ n hplain, render_eq_ofList,
      String.toList_ofList]
    rfl

/-- A list that breaks, with one that breaks inside. -/
def nestedBlocks : Node :=
  list "block" [symbol "nop", list "block" [symbol "end"]]

/-- Two lists around it, of which only the outer one breaks. -/
def funcInModule : List Enclosure :=
  [{ tag := "func", before := [string "$f"], after := [] },
    { tag := "module", before := [], after := [list "func" []] }]

/-- Nested in two lists, the block stands one level deep, and what follows it is not deeper. -/
theorem composed_nestedBlocks :
    nestedBlocks.Plain ∧
      nestedBlocks.levels { breakTags := ["module", "block"] } funcInModule = 1 ∧
      (nestedBlocks.enclosed funcInModule).render { breakTags := ["module", "block"] } =
        "(module\n  (func \"$f\" (block\n    nop\n    (block\n      end\n    )\n  ))\n  (func)\n)" ∧
      Composed { breakTags := ["module", "block"] } "block"
        [symbol "nop", list "block" [symbol "end"]] :=
  have h : nestedBlocks.Plain := by decide
  ⟨h, by decide, rfl, composed_render { breakTags := ["module", "block"] } h⟩

end Node

end WatText
