import SheetEditor.Text.Basic

/-!
Contract: the binary operators of formulas.

Owns: the operators, and how tightly each binds.
-/

namespace SheetEditor

inductive BinaryOperator where
  | add
  | subtract
  | multiply
  | divide
  | power
  | concatenate
  | less
  | greater
  | equal
  | lessEqual
  | greaterEqual
  | notEqual
deriving DecidableEq, Repr, Inhabited

/-- The levels of binding, from the loosest to the tightest. -/
inductive Binding where
  | comparison
  | concatenation
  | sum
  | product
  | power
deriving DecidableEq, Repr, Inhabited

def BinaryOperator.binding : BinaryOperator → Binding
  | .less | .greater | .equal | .lessEqual | .greaterEqual | .notEqual => .comparison
  | .concatenate => .concatenation
  | .add | .subtract => .sum
  | .multiply | .divide => .product
  | .power => .power

end SheetEditor
