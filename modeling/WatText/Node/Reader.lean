import WatText.Node.Basic
import WatText.Text.Quoted

/-!
# Reading text trees

The text of a tree is cut into tokens: parentheses, quoted strings and words, which blanks and line
ends separate. A parenthesis opens a list and the word after it is the list's tag. `Node.read?`
reads a whole text that holds one list and nothing else. Every word becomes a symbol of its own, so
a symbol that holds blanks is read back as several.
-/

namespace WatText

/-- A token of the text of a tree. -/
inductive Token where
  | opening
  | closing
  | string (text : String)
  | word (text : String)
  deriving DecidableEq

/-- The characters that only separate tokens. -/
def isBlank (c : Char) : Bool :=
  c = ' ' || c = '\n' || c = '\t' || c = '\r'

/-- The characters that words are made of. -/
def isWordChar (c : Char) : Bool :=
  !isBlank c && c ≠ '(' && c ≠ ')' && c ≠ '"'

/-- The tokens of a text; `none` if a quoted string does not end or holds a bad escape. -/
def tokens? : List Char → Option (List Token)
  | [] => some []
  | c :: rest =>
    if isBlank c then tokens? rest
    else if c = '(' then (tokens? rest).map (Token.opening :: ·)
    else if c = ')' then (tokens? rest).map (Token.closing :: ·)
    else if c = '"' then
      match h : Text.unescape? .plain rest with
      | none => none
      | some read =>
        have : read.2.length < rest.length := Text.length_snd_unescape? h
        (tokens? read.2).map (Token.string (String.ofList read.1) :: ·)
    else
      have : (rest.dropWhile isWordChar).length ≤ rest.length :=
        (List.dropWhile_suffix isWordChar).length_le
      (tokens? (rest.dropWhile isWordChar)).map
        (Token.word (String.ofList (c :: rest.takeWhile isWordChar)) :: ·)
  termination_by cs => cs.length

namespace Node

/-- A list that is being read: its tag, and its children so far from last to first. -/
structure Frame where
  tag : String
  done : List Node := []

/-- Adds a child that has been read. -/
def Frame.add (f : Frame) (n : Node) : Frame :=
  { f with done := n :: f.done }

/-- The list of a frame whose end has been read. -/
def Frame.toNode (f : Frame) : Node :=
  .list f.tag f.done.reverse

/-- Reads tokens inside the lists of a stack, innermost first, up to the end of the outermost. -/
def ofTokens? : List Frame → List Token → Option Node
  | stack, .opening :: .word tag :: rest => ofTokens? ({ tag } :: stack) rest
  | f :: g :: stack, .closing :: rest => ofTokens? (g.add f.toNode :: stack) rest
  | [f], [.closing] => some f.toNode
  | f :: stack, .word text :: rest => ofTokens? (f.add (.symbol text) :: stack) rest
  | f :: stack, .string text :: rest => ofTokens? (f.add (.string text) :: stack) rest
  | _, _ => none

/-- Reads a text that holds one list. -/
def read? (text : String) : Option Node :=
  (tokens? text.toList).bind (ofTokens? [])

end Node

end WatText
