import Std.Data.ExtTreeMap
import SheetEditor.Grid.Address
import SheetEditor.Workbook.CellValue
import SheetEditor.Workbook.SheetName

/-!
Contract: one sheet of a workbook.

Owns: a sheet's identity, its name with the key under which it is found, which
belong together, and its cells as a finite map that never holds an empty value.

Does not own: the sheets beside it (`SheetEditor.Workbook.Basic`).
-/

namespace SheetEditor

/-- Identity of a sheet. It survives renaming and is never given to another sheet. -/
structure SheetId where
  value : Nat
deriving DecidableEq, Repr, Inhabited

/-- A sheet: its identity, its name, the key under which it is found, and the values of the cells
that are not empty.

The key is kept beside the name so that it need not be computed for each search. Whatever sets the
one sets the other; so no sheet has the key of another name. -/
structure Sheet where
  id : SheetId
  name : Text
  key : Text
  cells : Std.ExtTreeMap CellAddress CellValue
  keyed : key = SheetName.key name

namespace Sheet

/-- A sheet without values. Blanks around the name are dropped. -/
def named (id : SheetId) (name : Text) : Sheet where
  id := id
  name := name.trim
  key := SheetName.key name
  cells := ∅
  keyed := (SheetName.key_trim name).symm

def rename (sheet : Sheet) (name : Text) : Sheet :=
  { sheet with
    name := name.trim
    key := SheetName.key name
    keyed := (SheetName.key_trim name).symm }

def get? (sheet : Sheet) (address : CellAddress) : Option CellValue := sheet.cells[address]?

/-- The text with which a cell opens in the editor; an empty cell opens empty. -/
def editText (sheet : Sheet) (address : CellAddress) : Text :=
  ((sheet.get? address).map CellValue.editText).getD []

def cellCount (sheet : Sheet) : Nat := sheet.cells.size

/-- The sheet with a value written to a cell. Writing nothing clears the cell. -/
def write (sheet : Sheet) (address : CellAddress) (value : CellValue) : Sheet :=
  { sheet with
    cells := if value.isEmpty then sheet.cells.erase address
      else sheet.cells.insert address value }

def writeFormula (sheet : Sheet) (address : CellAddress) (body : Text) : Sheet :=
  { sheet with cells := sheet.cells.insert address (.formula body) }

/-- Equality of sheets with numbers compared as numbers. -/
def agreesWith (left right : Sheet) : Bool :=
  left.id == right.id && left.name == right.name && left.key == right.key &&
    left.cellCount == right.cellCount &&
    (left.cells.toList.zip right.cells.toList).all fun (first, second) =>
      first.1 == second.1 && first.2.agreesWith second.2

end Sheet

end SheetEditor
