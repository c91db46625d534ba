import WatText.Node.Layout

/-!
# Nodes that stay on one line

`chars_eq_flat`: a node in which no list breaks (`Node.Unbroken`) is written as its flat text,
however far its line is indented.

`Fits.list` builds such nodes from below: a list of nodes that fit some height fits the next height,
if the layout allows that height and the tag is no break tag.
-/

namespace WatText

namespace Node

mutual

/-- Whether no list breaks, neither the node itself nor any list inside it. -/
def Unbroken (l : Layout) : Node → Prop
  | symbol _ | string _ => True
  | list tag children => l.breaks tag children = false ∧ UnbrokenEach l children

def UnbrokenEach (l : Layout) : List Node → Prop
  | [] => True
  | node :: nodes => Unbroken l node ∧ UnbrokenEach l nodes

end

theorem unbrokenEach_iff {l : Layout} {nodes : List Node} :
    UnbrokenEach l nodes ↔ ∀ n ∈ nodes, n.Unbroken l := by
  induction nodes with
  | nil => rw [UnbrokenEach]; exact iff_of_true trivial nofun
  | cons node nodes ih => rw [UnbrokenEach, ih, List.forall_mem_cons]

mutual

/-- **A node in which no list breaks is written as its flat text.** -/
theorem chars_eq_flat {l : Layout} (indent : Nat) (node : Node) (h : node.Unbroken l) :
    chars l indent node = flat node := by
  cases node with
  | symbol text => rw [chars, flat]
  | string text => rw [chars, flat]
  | list tag children =>
    rw [Unbroken] at h
    have hbreaks : ¬l.breaks tag children = true := by rw [h.1]; exact Bool.false_ne_true
    rw [chars, flat, if_neg hbreaks, charsEach_eq_flatEach indent children h.2, List.append_assoc]

theorem charsEach_eq_flatEach {l : Layout} (indent : Nat) (nodes : List Node)
    (h : UnbrokenEach l nodes) : charsEach l indent [' '] nodes = flatEach nodes := by
  cases nodes with
  | nil => rw [charsEach, flatEach]
  | cons node nodes =>
    rw [UnbrokenEach] at h
    rw [charsEach, flatEach, chars_eq_flat indent node h.1, charsEach_eq_flatEach indent nodes h.2]
    rfl

end

/-! ## Nodes that fit a height -/

theorem maxHeight_le {h : Nat} {nodes : List Node} (hn : ∀ n ∈ nodes, n.height ≤ h) :
    maxHeight nodes ≤ h := by
  induction nodes with
  | nil => rw [maxHeight]; exact Nat.zero_le h
  | cons node nodes ih =>
    rw [maxHeight]
    exact Nat.max_le.2
      ⟨hn node List.mem_cons_self, ih fun n hm => hn n (List.mem_cons_of_mem node hm)⟩

/-- Whether a node is unbroken and not higher than `h`. -/
structure Fits (l : Layout) (h : Nat) (n : Node) : Prop where
  height : n.height ≤ h
  unbroken : n.Unbroken l

theorem Fits.symbol (l : Layout) (h : Nat) (text : String) : (symbol text).Fits l h where
  height := by rw [height_symbol]; exact Nat.zero_le h
  unbroken := by rw [Unbroken]; trivial

theorem Fits.string (l : Layout) (h : Nat) (text : String) : (string text).Fits l h where
  height := by rw [height_string]; exact Nat.zero_le h
  unbroken := by rw [Unbroken]; trivial

theorem Fits.mono {l : Layout} {h h' : Nat} (hle : h ≤ h') {n : Node} (hn : n.Fits l h) :
    n.Fits l h' where
  height := Nat.le_trans hn.height hle
  unbroken := hn.unbroken

theorem Fits.list {l : Layout} {h : Nat} (hh : h < l.inlineHeight) {tag : String}
    (ht : tag ∉ l.breakTags) {children : List Node} (hc : ∀ n ∈ children, n.Fits l h) :
    (list tag children).Fits l (h + 1) := by
  have hheight : (Node.list tag children).height ≤ h + 1 := by
    have := maxHeight_le fun n hn => (hc n hn).height
    rw [height_list]
    omega
  refine ⟨hheight, ?_⟩
  rw [Unbroken]
  refine ⟨?_, unbrokenEach_iff.2 fun n hn => (hc n hn).unbroken⟩
  have hlow : ¬l.inlineHeight < (Node.list tag children).height := by omega
  simp [Layout.breaks, hlow, ht]

end Node

end WatText
