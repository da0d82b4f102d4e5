import SheetEditor.Formula.ErrorLiteral
import SheetEditor.Formula.Operator
import SheetEditor.Grid.Range
import SheetEditor.Numeric.Binary64

/-!
Contract: formulas as expression trees.

Owns: the tree of a formula. Sheet qualifiers are kept as written, and columns
and rows are counted from zero.

Does not own: how a tree is read from text (`SheetEditor.Formula.Parser`).
-/

namespace SheetEditor

inductive Expr where
  | number (value : Binary64)
  | text (content : Text)
  | boolean (value : Bool)
  | error (literal : ErrorLiteral)
  /-- One cell, with the parts that a `$` fixes. -/
  | cell (sheet : Option Text) (address : CellAddress) (columnAbsolute rowAbsolute : Bool)
  /-- A block of cells, with its corners as written. -/
  | range (sheet : Option Text) (start stop : CellAddress)
  | columns (sheet : Option Text) (start stop : Nat)
  | rows (sheet : Option Text) (start stop : Nat)
  | call (function : Text) (arguments : List Expr)
  | binary (operator : BinaryOperator) (left right : Expr)
  | negate (operand : Expr)
  | percent (operand : Expr)
  /-- An array constant, row by row. -/
  | array (rows : List (List Expr))
  /-- An identifier that is not called. -/
  | name (identifier : Text)
  /-- An argument that is left out. -/
  | omitted
deriving Inhabited

end SheetEditor
