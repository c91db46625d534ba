import WatText.Cli.Program
import WatText.Table

/-!
# Worlds to run in

A world is a system that a program can run on: what opening a path leads to, what stands at each
place, where the standard streams go, and which writes fail. A write may fail at any byte, and what
was taken before stays. Two paths or streams may lead to one place, so a path can lead to what the
standard output is.
-/

namespace WatText.Cli

/-- What becomes of bytes that are written. -/
inductive Kind where
  /-- A file: it keeps bytes by position and is emptied when it is opened. -/
  | file
  /-- A disk: it keeps bytes by position. -/
  | disk
  /-- A pipe, a terminal or another device that takes bytes one after another. -/
  | stream
  deriving DecidableEq

/-- What stands at a place: the bytes that it keeps, or that it has taken. -/
structure Object where
  kind : Kind := .file
  content : List UInt8 := []
  deriving DecidableEq

/-- An open way to a place. -/
structure Handle (ι : Type) where
  place : ι
  position : Nat := 0
  /-- Whether a file is always written at its end. -/
  append : Bool := false

/-- Bytes with some of them replaced from a position on. What is missing before is filled with
zeros. -/
def overwrite (content : List UInt8) (position : Nat) (bytes : List UInt8) : List UInt8 :=
  content.take position ++ List.replicate (position - content.length) 0 ++ bytes
    ++ content.drop (position + bytes.length)

namespace Object

/-- What stands at a place after it was opened for writing. A new place gets an empty file. -/
def opened : Option Object → Object
  | none => {}
  | some o => if o.kind = .file then { o with content := [] } else o

/-- The object after it took some bytes through a handle. -/
def put {ι : Type} (o : Object) (h : Handle ι) (bytes : List UInt8) : Object :=
  if o.kind = .stream ∨ h.append then { o with content := o.content ++ bytes }
  else { o with content := overwrite o.content h.position bytes }

end Object

/-- A world with places in `ι`. -/
structure World (ι : Type) where
  /-- The place that opening a path for writing leads to. -/
  opens : List UInt8 → Except SystemError ι
  objects : Table ι Object := {}
  /-- How the write with a given number fails at a place, if it does: after how many bytes, and
  why. -/
  fault : ι → Nat → Option (Nat × SystemError) := fun _ _ => none
  /-- The number of writes so far. -/
  writes : Nat := 0
  stdout : Handle ι
  /-- The standard error, if it does not share the handle of the standard output. -/
  stderr : Option (Handle ι)

namespace World

variable {ι : Type}

/-- What a place takes of some bytes in the write with a given number, and how the write ends. -/
def take (w : World ι) (number : Nat) (place : ι) (bytes : List UInt8) :
    List UInt8 × Except SystemError Unit :=
  match w.fault place number with
  | none => (bytes, .ok ())
  | some (n, e) => (bytes.take n, .error e)

/-- The handle of a stream. -/
def handle (w : World ι) : Stream → Handle ι
  | .stdout => w.stdout
  | .stderr => w.stderr.getD w.stdout

/-- Moves the handle of a stream. -/
def setHandle (w : World ι) (stream : Stream) (h : Handle ι) : World ι :=
  match stream, w.stderr with
  | .stderr, some _ => { w with stderr := some h }
  | .stderr, none | .stdout, _ => { w with stdout := h }

variable [DecidableEq ι]

/-- What stands at a place, if anything does. -/
def at? (w : World ι) (place : ι) : Option Object :=
  w.objects.get? place

/-- Writes bytes through a handle, as far as its place takes them. -/
def write (w : World ι) (h : Handle ι) (bytes : List UInt8) :
    Except SystemError Unit × Handle ι × World ι :=
  let (taken, result) := w.take w.writes h.place bytes
  let o := ((w.at? h.place).getD {}).put h taken
  (result, { h with position := h.position + taken.length },
    { w with objects := w.objects.put h.place o, writes := w.writes + 1 })

/-- Prints a text on a stream. -/
def print (w : World ι) (stream : Stream) (text : String) : Except SystemError Unit × World ι :=
  let (result, h, w) := w.write (w.handle stream) (Text.bytesOf text)
  (result, w.setHandle stream h)

/-- Opens a place for writing. -/
def openAt (w : World ι) (place : ι) : World ι :=
  { w with objects := w.objects.put place (.opened (w.at? place)) }

/-- Writes a text at a path. -/
def writeFile (w : World ι) (path : List UInt8) (text : String) :
    Except SystemError Unit × World ι :=
  match w.opens path with
  | .error e => (.error e, w)
  | .ok place =>
    let (result, _, w) := (w.openAt place).write { place } (Text.bytesOf text)
    (result, w)

/-- A world as the system of a program. -/
def system (panicReport : String → String) : System (StateM (World ι)) where
  print stream text := fun w => w.print stream text
  writeFile path text := fun w => w.writeFile path text
  panicReport

end World

end WatText.Cli
