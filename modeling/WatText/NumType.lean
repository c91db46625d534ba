/-!
# Number types

The four value types of the text format, and the signedness that some integer operations need.
Integers are not signed or unsigned by themselves: an operation such as `div_s` decides.
`Sign.ofText?_text` says that reading a sign's flag gives the sign back.
-/

namespace WatText

/-- A value type. -/
inductive NumType where
  | i32
  | i64
  | f32
  | f64
  deriving DecidableEq, Inhabited

namespace NumType

/-- The keyword of a value type. -/
def text : NumType → String
  | i32 => "i32"
  | i64 => "i64"
  | f32 => "f32"
  | f64 => "f64"

/-- Whether a value type holds integers. -/
def isInteger : NumType → Bool
  | i32 | i64 => true
  | f32 | f64 => false

end NumType

/-- The reading of an integer as signed or unsigned. -/
inductive Sign where
  | signed
  | unsigned
  deriving DecidableEq, Inhabited

namespace Sign

/-- The flag of a sign, as it ends a mnemonic. -/
def text : Sign → String
  | signed => "s"
  | unsigned => "u"

/-- The sign of a flag, if the flag is exactly `s` or `u`. -/
def ofText? (flag : String) : Option Sign :=
  if flag = "s" then some signed
  else if flag = "u" then some unsigned
  else none

@[simp] theorem ofText?_text (s : Sign) : ofText? s.text = some s := by
  cases s <;> rfl

theorem ofText?_eq_some_iff {flag : String} {s : Sign} :
    ofText? flag = some s ↔ flag = s.text := by
  constructor
  · unfold ofText?
    split
    · rintro ⟨⟩; assumption
    · split
      · rintro ⟨⟩; assumption
      · simp
  · rintro rfl; exact ofText?_text s

end Sign

end WatText
