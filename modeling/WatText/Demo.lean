import WatText.Module

/-!
# The demo module

The module that the command line prints: an import of `console.log` and an exported addition.
-/

namespace WatText.Demo

/-- The names and declarations of the addition, whose body leaves its local unused. -/
def addition (caps : WidthCaps) : FuncPlan where
  name := "$add"
  declarations := [
    .param { ty := .i32 },
    .param { ty := .i32 },
    .localVar "lhs" { ty := .i32 },
    .result { ty := .i32 }]
  extensions := [
    .caps caps,
    .body [
      { action := .indexed .getLocal (.position 0) },
      { action := .indexed .getLocal (.position 1) },
      { action := .numeric .f32 (.const (.int 5)) },
      { action := .numeric .i32 .add }]]

/-- Puts together the demo module. -/
def assemble (caps : WidthCaps) : BuildOn Module Unit := do
  Module.addImport "console.log" "$log" (.ofDeclarations [.param { ty := .i32 }])
  Module.addExport "add" (.func (← (addition caps).build))

/-- The demo module. -/
def build (caps : WidthCaps) : BuildM Module :=
  (assemble caps).made {}

/-- The text of the demo module. -/
def text (caps : WidthCaps) (l : Layout) : Except BuildError String :=
  ((do (← build caps).toText l) {}).1

end WatText.Demo
