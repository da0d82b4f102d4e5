import SheetEditor.Text.Basic

/-!
Contract: what is known about a function that formulas can call.

Owns: the description of a function and of its parameters, the parameter that an
argument belongs to, and the entries that completion offers.

Does not own: the built-in functions (`SheetEditor.Function.Catalog`).
-/

namespace SheetEditor

/-- A parameter of a function. A repeatable one takes any number of arguments. -/
structure ParameterInfo where
  name : Text
  description : Text
  optional : Bool
  repeatable : Bool
deriving DecidableEq, Repr, Inhabited

inductive FunctionCategory where
  | math
  | logical
  | text
  | lookup
  | dateTime
  | statistical
  | conditional
deriving DecidableEq, Repr, Inhabited

/-- A function: its name in upper case, how a call is written, and what it is for. -/
structure FunctionInfo where
  name : Text
  signature : Text
  description : Text
  category : FunctionCategory
  parameters : List ParameterInfo
deriving DecidableEq, Repr, Inhabited

namespace FunctionInfo

/-- The parameter that an argument belongs to, both counted from zero. Arguments beyond the
parameters belong to the last one if it is repeatable, and to none otherwise. -/
def parameterOf? (function : FunctionInfo) (argument : Nat) : Option Nat :=
  if argument < function.parameters.length then some argument
  else if function.parameters.getLast?.any (·.repeatable) then
    some (function.parameters.length - 1)
  else none

end FunctionInfo

structure FunctionDefinition where
  name : Text
  description : Option Text
deriving DecidableEq, Repr, Inhabited

def FunctionInfo.definition (function : FunctionInfo) : FunctionDefinition :=
  ⟨function.name, some function.description⟩

end SheetEditor
