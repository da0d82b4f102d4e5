import SheetEditor.Numeric.Decimal
import SheetEditor.Numeric.Shortest
import SheetEditor.Text.Blank

/-!
Contract: what a cell holds.

Owns: cell values, the text with which a cell opens in the editor, and the value
that a committed text stands for.

Does not own: where values are stored (`SheetEditor.Workbook.Sheet`).
-/

namespace SheetEditor

-- `^` is the power of the core library here, whatever else is imported.
attribute [local instance (2000)] instPowNat

/-- The content of a cell. A formula is kept without its equals sign. -/
inductive CellValue where
  | empty
  | text (content : Text)
  | number (value : Binary64)
  | boolean (value : Bool)
  | formula (body : Text)
deriving DecidableEq, Repr, Inhabited

namespace CellValue

def isEmpty : CellValue → Bool
  | .empty => true
  | _ => false

def isFormula : CellValue → Bool
  | .formula _ => true
  | _ => false

/-- Whole numbers are written without a fraction below this magnitude. -/
def wholeTextLimit : Nat := 10 ^ (15 : Nat)

/-- The text of a number: its digits if it is a whole number below the limit, otherwise the
shortest text that reads back. -/
def numberText (value : Binary64) : Text :=
  match value.wholeMagnitude? with
  | some size =>
      if size < wholeTextLimit then
        let digits := Nat.toDigits 10 size
        if value.isNegative && size ≠ 0 then '-' :: digits else digits
      else value.shortestText
  | none => value.shortestText

def booleanText (value : Bool) : Text :=
  if value then "TRUE".toList else "FALSE".toList

/-- The text with which a cell opens in the editor. -/
def editText : CellValue → Text
  | .empty => []
  | .text content => content
  | .number value => numberText value
  | .boolean value => booleanText value
  | .formula body => '=' :: body

/-- The value of a text that is neither marked as a formula nor as plain text: a finite number,
a truth value in either letter case, nothing if it is blank, and otherwise the text itself. -/
def ofPlainInput (input : Text) : CellValue :=
  let trimmed := input.trim
  let numeral := (Binary64.read? trimmed).filter Binary64.isFinite
  if trimmed = [] then .empty
  else
    match numeral with
    | some value => .number value
    | none =>
        if trimmed.upper = booleanText true then .boolean true
        else if trimmed.upper = booleanText false then .boolean false
        else .text input

/-- The value that a committed text stands for. An equals sign before a body that is not blank
marks a formula, and an apostrophe marks plain text and is dropped. -/
def ofInput : Text → CellValue
  | '=' :: body => if Text.trim body = [] then .text ('=' :: body) else .formula body
  | '\'' :: content => .text content
  | input => ofPlainInput input

/-- Equality of contents with numbers compared as numbers. -/
def agreesWith : CellValue → CellValue → Bool
  | .number left, .number right => left.numericallyEqual right
  | left, right => left == right

end CellValue

end SheetEditor
