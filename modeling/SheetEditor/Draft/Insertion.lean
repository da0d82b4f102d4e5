import SheetEditor.Grid.Range
import SheetEditor.Text.Blank
import SheetEditor.Workbook.SheetName

/-!
Contract: references picked on the grid.

Owns: where in a text a reference can be inserted, and how a picked range is
written.
-/

namespace SheetEditor.Draft

def operandLeads : List Char :=
  ['=', '+', '-', '*', '/', '^', '&', '>', '<', '(', ',', ';']

/-- Whether the last character before the caret, blanks aside, is one after which an operand is
expected. -/
def isInsertionPoint (text : Text) (caret : Nat) : Bool :=
  match (text.take caret).reverse.find? fun character => !isBlank character with
  | some character => operandLeads.contains character
  | none => false

/-- How a range is written in a formula on the sheet `current`. The sheet is named only if the
range is on another one. -/
def referenceText (range : CellRange) (current : Text) (target : Option Text) : Text :=
  match target with
  | some sheet =>
      if sheet = current then range.name else SheetName.qualifier sheet ++ range.name
  | none => range.name

end SheetEditor.Draft
