import SheetEditor.Grid.Address

/-!
Contract: rectangular blocks of cells.

Owns: ranges with their corners as written, their normal form, membership, and
their names.
-/

namespace SheetEditor

/-- A block of cells between two opposite corners, in either order. -/
structure CellRange where
  start : CellAddress
  stop : CellAddress
deriving DecidableEq, Repr, Inhabited

namespace CellRange

def single (cell : CellAddress) : CellRange := ⟨cell, cell⟩

def isSingle (range : CellRange) : Bool := range.start = range.stop

/-- The same block, from its top left to its bottom right corner. -/
def normalized (range : CellRange) : CellRange :=
  ⟨⟨min range.start.row range.stop.row, min range.start.column range.stop.column⟩,
    ⟨max range.start.row range.stop.row, max range.start.column range.stop.column⟩⟩

def contains (range : CellRange) (cell : CellAddress) : Bool :=
  let block := range.normalized
  block.start.row ≤ cell.row && cell.row ≤ block.stop.row &&
    block.start.column ≤ cell.column && cell.column ≤ block.stop.column

/-- The name of a range: the name of its cell, or its corners as written around a colon. -/
def name (range : CellRange) : Text :=
  if range.isSingle then range.start.name
  else range.start.name ++ ':' :: range.stop.name

end CellRange

end SheetEditor
