import WatText.Func.Basic
import WatText.Text.Split

/-!
# Modules

A module collects imports by local name and exported functions by export name. Registering under a
name that is taken replaces the entry and keeps its place. The module's tree has the imports first,
then the exported functions, then the export entries, each group in the order of its table.
-/

namespace WatText

/-- An imported function: the segments of its source path, and the function without a body that it
is bound to. -/
structure Import where
  path : List String
  func : Func

/-- A value offered for export. -/
inductive Item where
  | func (f : Func)
  | signature (σ : Signature)
  | operand (o : Operand)

/-- The kind of a value offered for export. -/
def Item.kind : Item → ItemKind
  | func _ => .function
  | signature _ => .signature
  | operand _ => .operand

/-- The function among the values offered for export. -/
def Item.func? : Item → Option Func
  | func f => some f
  | signature _ | operand _ => none

/-- Imports by local name and exported functions by export name. -/
structure Module where
  imports : Table String Import := {}
  exports : Table String Func := {}

/-- The node of an import. -/
def Import.toNode (i : Import) : BuildM Node :=
  return .list "import" (i.path.map .string ++ [← i.func.toNode])

/-- The entry that exports the function `func` under a name. -/
def exportEntry (name func : String) : Node :=
  .list "export" [.string name, .list "func" [.string func]]

namespace Module

/-- Imports a function. No segment of its dot-separated path may be empty, nor its local name; the
path is looked at first. -/
def addImport (path name : String) (σ : Signature) : BuildOn Module Unit := do
  let segments := Text.splitString '.' path
  if "" ∈ segments then
    throw (.invalidArgument (.emptySegment path))
  let func ← MonadExcept.ofExcept (Func.create name σ)
  noteEvents [.imported path name]
  modify fun m => { m with imports := m.imports.put name { path := segments, func } }

/-- Exports a value. It has to be a function, and the export name may not be empty; the value is
looked at first. -/
def addExport (name : String) (item : Item) : BuildOn Module Unit :=
  match item.func? with
  | none => throw (.notAFunction item.kind)
  | some f => do
    if name = "" then
      throw (.invalidArgument .emptyExportName)
    noteEvents [.exported name f.name]
    modify fun m => { m with exports := m.exports.put name f }

/-- The tree of a module. Every exported body is run once, in the order of the table, up to the
first that fails. -/
def toNode (m : Module) : BuildM Node := do
  let imports ← m.imports.values.mapM Import.toNode
  let funcs ← m.exports.values.mapM Func.toNode
  noteEvents [.moduleRendered m.imports.size m.exports.size]
  return .list "module"
    (imports ++ funcs ++ m.exports.entries.map fun (name, f) => exportEntry name f.name)

/-- The text of a module. -/
def toText (m : Module) (l : Layout := {}) : BuildM String :=
  return (← m.toNode).render l

end Module

end WatText
