import SheetEditor.Grid.Address

/-!
Contract: cell references as they are written, with their `$` marks.

Owns: the one spelling of a cell that formulas, highlighting and reference
cycling share: an optional `$`, one to three letters, an optional `$`, digits.

Does not own: sheet qualifiers and ranges.
-/

namespace SheetEditor

/-- A written cell: its letters and digits, and which of them a `$` fixes. -/
structure WrittenCell where
  columnAbsolute : Bool
  letters : Text
  rowAbsolute : Bool
  digits : Text
deriving DecidableEq, Repr

namespace WrittenCell

def splitMarker : Text → Bool × Text
  | '$' :: rest => (true, rest)
  | text => (false, text)

/-- Reads the longest written cell at the start of a text; returns it and what follows. -/
def read? (text : Text) : Option (WrittenCell × Text) :=
  let (columnAbsolute, fromLetters) := splitMarker text
  let letters := (fromLetters.take 3).takeWhile Char.isAlpha
  let (rowAbsolute, fromDigits) := splitMarker (fromLetters.drop letters.length)
  let digits := fromDigits.takeWhile Char.isDigit
  if letters = [] || digits = [] then none
  else some (⟨columnAbsolute, letters, rowAbsolute, digits⟩, fromDigits.drop digits.length)

def text (cell : WrittenCell) : Text :=
  (if cell.columnAbsolute then ['$'] else []) ++ cell.letters ++
    (if cell.rowAbsolute then ['$'] else []) ++ cell.digits

/-- The cell that is meant, if the sheet has it. -/
def address? (cell : WrittenCell) : Option CellAddress := do
  let column ← Column.number? cell.letters
  CellAddress.ofOneBased? (Text.digitsValue cell.digits) column

end WrittenCell

end SheetEditor
