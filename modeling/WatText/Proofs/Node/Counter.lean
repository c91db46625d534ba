import Mathlib.Data.String.Basic
import Mathlib.Tactic.Ring
import WatText.Node.Printer

/-!
# A counter for the indentation

`Node.counted_steps`: a printer may keep its running indentation in a word of 64 bits. Before a step
would take the counter out of the range of the word, more has been written than a string can hold.

The indentation of each list that breaks was written at least once before anything deeper is, as the
blanks that open the line of its first child. So below `d` such lists the text has at least
`(1 + 2 + ⋯ + d) * l.indent` characters (`Printer.Backed`), and from `(d + 1) * l.indent ≥ 2 ^ 64` and
`d ≥ 1` follows that these are `2 ^ 63` or more. With `d = 0` the sum is the indentation of one level,
which is a word.
-/

namespace WatText

namespace Printer

/-! ## What holds at each step of a run -/

/-- Whether something holds at each step, of the printer that comes to the step. -/
def Along (l : Layout) (P : Printer → PrintStep → Prop) : Printer → List PrintStep → Prop
  | _, [] => True
  | p, s :: steps => P p s ∧ Along l P (p.take l s) steps

section Along

variable {l : Layout} {P Q : Printer → PrintStep → Prop} {p : Printer}

theorem along_append {steps steps' : List PrintStep} :
    Along l P p (steps ++ steps') ↔ Along l P p steps ∧ Along l P (p.run l steps) steps' := by
  induction steps generalizing p with
  | nil => exact (true_and _).to_iff.symm
  | cons s steps ih => rw [List.cons_append, Along, Along, ih, and_assoc, run_cons]

/-- What holds along a run holds at every place where the run can be cut. -/
theorem Along.at {steps before after : List PrintStep} {s : PrintStep} (h : Along l P p steps)
    (hs : steps = before ++ s :: after) : P (p.run l before) s := by
  rw [hs, along_append] at h
  exact h.2.1

end Along

/-! ## What has been written -/

/-- The number of bytes that the written text takes. -/
def bytes (p : Printer) : Nat :=
  (String.ofList p.written).utf8ByteSize

theorem bytes_le_bytes_run (l : Layout) (p : Printer) (steps : List PrintStep) :
    p.bytes ≤ (p.run l steps).bytes := by
  unfold bytes
  rw [written_run, String.ofList_append, String.utf8ByteSize_append]
  exact Nat.le_add_right _ _

theorem length_le_bytes (p : Printer) : p.written.length ≤ p.bytes := by
  unfold bytes
  rw [String.utf8ByteSize_ofList]
  induction p.written with
  | nil => exact Nat.zero_le _
  | cons c cs ih =>
    have hc := c.utf8Size_pos
    rw [List.length_cons, String.utf8Len_cons]
    omega

/-- Whether the indentation is that of some levels, with as many blanks written before as it takes
to open a line on each of them. -/
def Backed (l : Layout) (p : Printer) : Prop :=
  ∃ d, p.indent = d * l.indent ∧ d * (d + 1) * l.indent ≤ 2 * p.written.length

theorem backed_of_indent_eq_zero (l : Layout) {p : Printer} (h : p.indent = 0) : p.Backed l :=
  ⟨0, by rw [h, Nat.zero_mul], by rw [Nat.zero_mul]; omega⟩

theorem Backed.put {l : Layout} {p : Printer} (h : p.Backed l) (cs : List Char) :
    (p.put cs).Backed l := by
  obtain ⟨d, hindent, hwritten⟩ := h
  refine ⟨d, hindent, ?_⟩
  show _ ≤ 2 * (p.written ++ cs).length
  rw [List.length_append]
  omega

/-- The line that opens a new level pays for it. -/
theorem Backed.newline_raise {l : Layout} {p : Printer} (h : p.Backed l) :
    ((p.take l .raise).put (newline (p.indent + l.indent))).Backed l := by
  obtain ⟨d, hindent, hwritten⟩ := h
  have hsum : p.indent + l.indent = (d + 1) * l.indent := by rw [hindent, Nat.succ_mul]
  refine ⟨d + 1, hsum, ?_⟩
  have hline : (p.written ++ newline (p.indent + l.indent)).length =
      p.written.length + ((d + 1) * l.indent + 1) := by
    rw [List.length_append, newline, List.length_cons, List.length_replicate, hsum]
  show (d + 1) * (d + 1 + 1) * l.indent ≤ 2 * (p.written ++ newline (p.indent + l.indent)).length
  rw [hline]
  calc (d + 1) * (d + 1 + 1) * l.indent
      = d * (d + 1) * l.indent + 2 * ((d + 1) * l.indent) := by ring
    _ ≤ 2 * p.written.length + 2 * ((d + 1) * l.indent) := Nat.add_le_add_right hwritten _
    _ ≤ 2 * (p.written.length + ((d + 1) * l.indent + 1)) := by omega

/-- **The text is too long before the indentation is.** -/
theorem Backed.lt_bytes {l : Layout} {p : Printer} (h : p.Backed l) (hl : l.indent < 2 ^ 64)
    (hsum : 2 ^ 64 ≤ p.indent + l.indent) : 2 ^ 63 - 1 < p.bytes := by
  obtain ⟨d, hindent, hwritten⟩ := h
  have hlength := p.length_le_bytes
  cases d with
  | zero =>
    rw [Nat.zero_mul] at hindent
    omega
  | succ d =>
    have hlevels : 2 ^ 64 ≤ (d + 1 + 1) * l.indent := by
      rw [Nat.succ_mul, ← hindent]
      exact hsum
    have hblanks : 2 ^ 64 ≤ (d + 1) * (d + 1 + 1) * l.indent :=
      calc 2 ^ 64 ≤ (d + 1 + 1) * l.indent := hlevels
        _ ≤ (d + 1) * ((d + 1 + 1) * l.indent) := Nat.le_mul_of_pos_left _ d.succ_pos
        _ = (d + 1) * (d + 1 + 1) * l.indent := (Nat.mul_assoc _ _ _).symm
    omega

/-- Whether a step finds an indentation that it may change. -/
def Safe (l : Layout) (p : Printer) : PrintStep → Prop
  | .raise => p.Backed l
  | .lower => l.indent ≤ p.indent
  | .put _ | .lineEnd => True

end Printer

namespace Node

open Printer

mutual

/-- Along the steps of a node, the written text backs the indentation. -/
theorem along_steps (l : Layout) (p : Printer) (node : Node) (hp : p.Backed l) :
    Along l (Safe l) p (steps l node) := by
  cases node with
  | symbol text => rw [steps]; exact ⟨trivial, trivial⟩
  | string text => rw [steps]; exact ⟨trivial, trivial⟩
  | list tag children =>
    have hopened := hp.put ('(' :: tag.toList)
    rw [steps]
    refine ⟨trivial, along_append.2 ⟨?_, trivial, trivial⟩⟩
    show Along l (Safe l) (p.put ('(' :: tag.toList)) _
    generalize p.put ('(' :: tag.toList) = p at hopened
    split
    · -- right after the raise nothing backs the new level: the line end before the first child does
      have hsep : ∀ q : Printer, q.indent = p.indent + l.indent →
          q.take l .lineEnd = q.put (newline (p.indent + l.indent)) := fun q hq => by
        rw [Printer.take, hq]
      refine ⟨hopened, along_append.2 ⟨?_, ?_, trivial, trivial⟩⟩
      · exact along_stepsEach l _ .lineEnd _ children (fun _ => trivial) hsep hopened.newline_raise
      · rw [run_stepsEach l _ .lineEnd _ children hsep]
        exact Nat.le_add_left _ _
    · exact along_stepsEach l p (.put [' ']) [' '] children (fun _ => trivial) (fun _ _ => rfl)
        (hopened.put [' '])

theorem along_stepsEach (l : Layout) (p : Printer) (sep : PrintStep) (cs : List Char)
    (nodes : List Node) (hsafe : ∀ q, Safe l q sep)
    (hsep : ∀ q : Printer, q.indent = p.indent → q.take l sep = q.put cs)
    (hp : (p.put cs).Backed l) : Along l (Safe l) p (stepsEach l sep nodes) := by
  cases nodes with
  | nil => rw [stepsEach]; exact trivial
  | cons node nodes =>
    rw [stepsEach]
    refine ⟨hsafe p, ?_⟩
    rw [hsep p rfl]
    refine along_append.2 ⟨along_steps l _ node hp, ?_⟩
    rw [run_steps l _ node]
    exact along_stepsEach l _ sep cs nodes hsafe hsep ((hp.put _).put cs)

end

end Node

/-! ## Counting in a word -/

/-- A printer whose indentation is a word of 64 bits, with what goes beyond it lost. -/
structure WordPrinter where
  written : List Char := []
  indent : UInt64 := 0

namespace WordPrinter

/-- The printer that has written the same and counts without a limit. -/
def toPrinter (w : WordPrinter) : Printer :=
  { written := w.written, indent := w.indent.toNat }

theorem toPrinter_injective : Function.Injective toPrinter := by
  rintro ⟨written, indent⟩ ⟨written', indent'⟩ h
  obtain ⟨hwritten, hindent⟩ := Printer.mk.inj h
  dsimp only at hwritten hindent
  rw [hwritten, UInt64.toNat_inj.1 hindent]

/-- Carries out one step. -/
def take (l : Layout) (w : WordPrinter) : PrintStep → WordPrinter
  | .put cs => { w with written := w.written ++ cs }
  | .lineEnd => { w with written := w.written ++ newline w.indent.toNat }
  | .raise => { w with indent := w.indent + UInt64.ofNat l.indent }
  | .lower => { w with indent := w.indent - UInt64.ofNat l.indent }

/-- Carries out some steps, one after another. -/
def run (l : Layout) (w : WordPrinter) (steps : List PrintStep) : WordPrinter :=
  steps.foldl (take l) w

/-- Whether a step leaves the indentation of a printer in the range of a word. -/
def InRange (l : Layout) (p : Printer) : PrintStep → Prop
  | .raise => p.indent + l.indent < 2 ^ 64
  | .lower => l.indent ≤ p.indent
  | .put _ | .lineEnd => True

theorem toPrinter_take {l : Layout} (hl : l.indent < 2 ^ 64) {w : WordPrinter} {s : PrintStep}
    (h : InRange l w.toPrinter s) : (w.take l s).toPrinter = w.toPrinter.take l s := by
  have hlevel : (UInt64.ofNat l.indent).toNat = l.indent := UInt64.toNat_ofNat_of_lt' hl
  cases s with
  | put cs => rfl
  | lineEnd => rfl
  | raise =>
    have hsum : (w.indent + UInt64.ofNat l.indent).toNat = w.indent.toNat + l.indent := by
      rw [UInt64.toNat_add, hlevel]
      exact Nat.mod_eq_of_lt h
    unfold toPrinter take Printer.take
    rw [hsum]
  | lower =>
    have hle : UInt64.ofNat l.indent ≤ w.indent := by
      rw [UInt64.le_iff_toNat_le, hlevel]
      exact h
    unfold toPrinter take Printer.take
    rw [UInt64.toNat_sub_of_le _ _ hle, hlevel]

/-- While the indentation stays in range, the word counts it. -/
theorem toPrinter_run {l : Layout} (hl : l.indent < 2 ^ 64) {w : WordPrinter}
    {steps : List PrintStep} (h : Printer.Along l (InRange l) w.toPrinter steps) :
    (w.run l steps).toPrinter = w.toPrinter.run l steps := by
  induction steps generalizing w with
  | nil => rfl
  | cons s steps ih =>
    obtain ⟨hs, hrest⟩ := h
    have hone := toPrinter_take hl hs
    rw [← hone] at hrest
    show ((w.take l s).run l steps).toPrinter = _
    rw [ih hrest, hone, Printer.run_cons]

end WordPrinter

/-- A run that backs its indentation and whose text fits in a string stays in range. -/
theorem Printer.along_inRange {l : Layout} (hl : l.indent < 2 ^ 64) {p : Printer}
    {steps : List PrintStep} (h : Along l (Safe l) p steps)
    (hfits : (p.run l steps).bytes ≤ 2 ^ 63 - 1) : Along l (WordPrinter.InRange l) p steps := by
  induction steps generalizing p with
  | nil => exact trivial
  | cons s steps ih =>
    obtain ⟨hs, hrest⟩ := h
    have hbytes := p.bytes_le_bytes_run l (s :: steps)
    refine ⟨?_, ih hrest hfits⟩
    cases s with
    | put cs => exact trivial
    | lineEnd => exact trivial
    | lower => exact hs
    | raise =>
      by_contra hsum
      have hlong := hs.lt_bytes hl (Nat.le_of_not_lt hsum)
      omega

namespace Node

open Printer

/-- What a word of 64 bits is for a printer of a node that counts its indentation in it. -/
structure Counted (l : Layout) (node : Node) : Prop where
  /-- Where the indentation is about to leave the range of the word, the text is longer than any
  string. -/
  raised : ∀ before after, node.steps l = before ++ .raise :: after →
    2 ^ 64 ≤ (Printer.run l {} before).indent + l.indent →
      2 ^ 63 - 1 < (Printer.run l {} before).bytes
  /-- Lowering the indentation takes away no more than there is. -/
  lowered : ∀ before after, node.steps l = before ++ .lower :: after →
    l.indent ≤ (Printer.run l {} before).indent
  /-- As long as the text fits in a string, the word counts the indentation and the text is the
  same. -/
  counted : ∀ before after, node.steps l = before ++ after →
    (Printer.run l {} before).bytes ≤ 2 ^ 63 - 1 →
      (WordPrinter.run l {} before).toPrinter = Printer.run l {} before
  /-- After a list, and after any other node, the word is what it was before it. -/
  restored : ∀ before (n : Node) after, node.steps l = before ++ n.steps l ++ after →
    (Printer.run l {} (before ++ n.steps l)).bytes ≤ 2 ^ 63 - 1 →
      (WordPrinter.run l {} (before ++ n.steps l)).indent = (WordPrinter.run l {} before).indent
  /-- A text that fits in a string is written whole, and the word is zero again. -/
  written : (node.render l).utf8ByteSize ≤ 2 ^ 63 - 1 →
    WordPrinter.run l {} (node.steps l) = { written := (node.render l).toList, indent := 0 }

/-- **The indentation does not overflow before memory does.** -/
theorem counted_steps {l : Layout} (hl : l.indent < 2 ^ 64) (node : Node) : Counted l node := by
  have hsafe := along_steps l {} node (backed_of_indent_eq_zero l rfl)
  have hcounted : ∀ before after, node.steps l = before ++ after →
      (Printer.run l {} before).bytes ≤ 2 ^ 63 - 1 →
        (WordPrinter.run l {} before).toPrinter = Printer.run l {} before := by
    intro before after hs hfits
    rw [hs, along_append] at hsafe
    exact WordPrinter.toPrinter_run hl (along_inRange hl hsafe.1 hfits)
  refine ⟨fun before after hs hsum => ?_, fun before after hs => hsafe.at hs, hcounted,
    fun before n after hs hfits => ?_, fun hfits => ?_⟩
  · exact Backed.lt_bytes (hsafe.at hs) hl hsum
  · have hbefore := bytes_le_bytes_run l (Printer.run l {} before) (n.steps l)
    rw [← run_append] at hbefore
    have hlater := congrArg Printer.indent (hcounted _ after hs hfits)
    have hearlier := congrArg Printer.indent
      (hcounted before (n.steps l ++ after) (by rw [hs, List.append_assoc])
        (Nat.le_trans hbefore hfits))
    rw [run_append, run_steps, indent_put, ← hearlier] at hlater
    exact UInt64.toNat_inj.1 hlater
  · have hrun := run_steps l {} node
    have hbytes : (Printer.run l {} (node.steps l)).bytes = (node.render l).utf8ByteSize := by
      unfold bytes
      rw [← toList_render, String.ofList_toList]
    have hword := hcounted (node.steps l) [] (List.append_nil _).symm (by rw [hbytes]; exact hfits)
    apply WordPrinter.toPrinter_injective
    rw [hword, hrun, render_eq_ofList, String.toList_ofList]
    rfl

/-- A list inside a list. -/
def listInList : Node :=
  list "a" [list "b" [symbol "c"]]

/-- Two levels of `2 ^ 63` blanks, which break whatever their height. -/
def widest : Layout :=
  { indent := 2 ^ 63, inlineHeight := 0 }

/-- At the second level, before the fifth step, the sum is one more than the greatest word. -/
theorem counted_listInList :
    widest.indent < 2 ^ 64 ∧
      (listInList.steps widest)[4]? = some .raise ∧
      (Printer.run widest {} ((listInList.steps widest).take 4)).indent + widest.indent = 2 ^ 64 ∧
      Counted widest listInList :=
  have hl : widest.indent < 2 ^ 64 := by decide
  ⟨hl, by decide, by decide, counted_steps hl listInList⟩

end Node

end WatText
