import SheetEditor.Workbook.Sheet

/-!
Contract: workbooks as lists of sheets with unique names.

Owns: finding, adding, renaming, deleting and replacing sheets. An operation that
is refused yields no workbook, so there is nothing it could have changed.

Does not own: which sheet is on screen, and the history of a workbook; both
belong to a session.
-/

namespace SheetEditor

/-- The sheets in their order, and the identity that the next new sheet gets. -/
structure Workbook where
  sheets : List Sheet
  nextSheetId : Nat
deriving Inhabited

namespace Workbook

def new : Workbook := ⟨[.named ⟨1⟩ "Sheet1".toList], 2⟩

def sheet? (workbook : Workbook) (index : Nat) : Option Sheet := workbook.sheets[index]?

def sheetCount (workbook : Workbook) : Nat := workbook.sheets.length

/-- Index of the first sheet whose name counts as the same. -/
def indexOfName? (workbook : Workbook) (name : Text) : Option Nat :=
  workbook.sheets.findIdx? fun sheet => sheet.key == SheetName.key name

def hasName (workbook : Workbook) (name : Text) : Bool := (workbook.indexOfName? name).isSome

def append (workbook : Workbook) (name : Text) : Workbook :=
  ⟨workbook.sheets ++ [.named ⟨workbook.nextSheetId⟩ name], workbook.nextSheetId + 1⟩

/-! ## Adding sheets -/

def numberedName (number : Nat) : Text := "Sheet".toList ++ Nat.toDigits 10 number

/-- The least free number for a new sheet that is greater than the number of sheets. Of the
numbers tried, one more than there are sheets, at least one is free. -/
def freeNumber (workbook : Workbook) : Nat :=
  let first := workbook.sheetCount + 1
  ((List.range' first first).find? fun number => !workbook.hasName (numberedName number)).getD
    (first + first)

def addSheet (workbook : Workbook) : Workbook :=
  workbook.append (numberedName workbook.freeNumber)

def addSheetNamed? (workbook : Workbook) (name : Text) : Option Workbook :=
  if !SheetName.isValid name || workbook.hasName name then none
  else some (workbook.append name)

/-! ## Changing sheets -/

/-- Deletes a sheet, unless it is the only one. -/
def deleteSheet? (workbook : Workbook) (index : Nat) : Option Workbook :=
  if workbook.sheetCount ≤ 1 || workbook.sheetCount ≤ index then none
  else some { workbook with sheets := workbook.sheets.eraseIdx index }

/-- Renames a sheet, if the name is allowed and no other sheet has it. -/
def renameSheet? (workbook : Workbook) (index : Nat) (name : Text) : Option Workbook := do
  let sheet ← workbook.sheet? index
  let taken := workbook.sheets.any fun other =>
    other.id ≠ sheet.id && other.key == SheetName.key name
  if !SheetName.isValid name || taken then none
  else some { workbook with sheets := workbook.sheets.modify index (·.rename name) }

/-- The workbook with one sheet replaced; an index without a sheet changes nothing. -/
def withSheet (workbook : Workbook) (index : Nat) (sheet : Sheet) : Workbook :=
  { workbook with sheets := workbook.sheets.set index sheet }

/-- Equality of workbooks with numbers compared as numbers. -/
def agreesWith (left right : Workbook) : Bool :=
  left.nextSheetId == right.nextSheetId && left.sheetCount == right.sheetCount &&
    (left.sheets.zip right.sheets).all fun (first, second) => first.agreesWith second

end Workbook

end SheetEditor
