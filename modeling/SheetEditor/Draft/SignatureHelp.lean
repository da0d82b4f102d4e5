import SheetEditor.Draft.Analysis
import SheetEditor.Function.Catalog

/-!
Contract: help with the call that the caret is in.

Owns: the function that is being called, the argument at the caret, and the
parameter that the argument belongs to.
-/

namespace SheetEditor.Draft

structure SignatureHelp where
  function : FunctionInfo
  argument : Nat
  /-- The parameter of the argument; there is none if there are too many arguments. -/
  parameter : Option Nat
deriving DecidableEq, Repr

/-- The help for an analysed text, if the caret is in a call of a built-in function. -/
def Analysis.signatureHelp? (analysis : Analysis) : Option SignatureHelp := do
  let call ← analysis.activeCall
  let function ← Catalog.find? call.function
  some ⟨function, call.argument, function.parameterOf? call.argument⟩

end SheetEditor.Draft
