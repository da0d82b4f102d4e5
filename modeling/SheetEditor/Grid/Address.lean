import SheetEditor.Text.Blank

/-!
Contract: cells of the grid and their names.

Owns: the extent of a sheet, cell addresses, column letters (bijective base 26:
`A` is 1, `Z` is 26, `AA` is 27), and the plain name of a cell such as `B5`.
Rows and columns are counted from zero; names count them from one.

Does not own: references as they are written in formulas
(`SheetEditor.Grid.WrittenCell`).
-/

namespace SheetEditor

/-! ## Extent of a sheet -/

def rowCount : Nat := 1048576

def columnCount : Nat := 16384

/-! ## Column letters -/

namespace Column

def letter (digit : Nat) : Char := Char.ofNat ('A'.toNat + digit)

/-- The letters of a column, counted from zero. -/
def letters (column : Nat) : Text :=
  if column < 26 then [letter column]
  else letters (column / 26 - 1) ++ [letter (column % 26)]
termination_by column
decreasing_by omega

/-- The number that letters of either case denote in bijective base 26. -/
def lettersValue (letters : Text) : Nat :=
  letters.foldl (fun value letter => value * 26 + (letter.toUpper.toNat - 'A'.toNat + 1)) 0

/-- The number of a column, counted from one, from one to three letters. -/
def number? (letters : Text) : Option Nat :=
  if letters = [] || 3 < letters.length || !letters.all Char.isAlpha then none
  else some (lettersValue letters)

end Column

/-! ## Addresses -/

/-- A cell position, counted from zero. -/
structure CellAddress where
  row : Nat
  column : Nat
deriving DecidableEq, Repr, Inhabited

namespace CellAddress

instance : Ord CellAddress where
  compare := compareLex (compareOn CellAddress.row) (compareOn CellAddress.column)

instance : Std.TransOrd CellAddress :=
  inferInstanceAs
    (Std.TransCmp (compareLex (compareOn CellAddress.row) (compareOn CellAddress.column)))

instance : Std.LawfulEqOrd CellAddress where
  eq_of_compare {left right} same := by
    have parts : compare left.row right.row = .eq ∧ compare left.column right.column = .eq :=
      Ordering.then_eq_eq.mp same
    cases left
    cases right
    simp only [Std.LawfulEqOrd.compare_eq_iff_eq] at parts
    simp [parts]

def InBounds (address : CellAddress) : Prop :=
  address.row < rowCount ∧ address.column < columnCount

instance (address : CellAddress) : Decidable address.InBounds := by
  unfold InBounds
  infer_instance

/-- The cell with the given numbers, counted from one, if the sheet has it. -/
def ofOneBased? (row column : Nat) : Option CellAddress :=
  if row = 0 || column = 0 || rowCount < row || columnCount < column then none
  else some ⟨row - 1, column - 1⟩

/-- The name of a cell: its column letters and its row number. -/
def name (address : CellAddress) : Text :=
  Column.letters address.column ++ Nat.toDigits 10 (address.row + 1)

/-- Reads the name of a cell. Blanks around it, letter case and `$` marks are ignored. -/
def ofName? (text : Text) : Option CellAddress :=
  let bare := text.trim.filter (· ≠ '$')
  let (letters, digits) := bare.span Char.isAlpha
  if digits = [] || !digits.all Char.isDigit then none
  else do
    let column ← Column.number? letters
    ofOneBased? (Text.digitsValue digits) column

end CellAddress

end SheetEditor
