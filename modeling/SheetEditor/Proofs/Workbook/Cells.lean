import SheetEditor.Proofs.Workbook.Operations

/-!
Contract: what a write to a cell leaves as it is.

Owns: reading a sheet, also after a write, and the workbooks that differ from
another in the value of at most one cell.
-/

namespace SheetEditor

/-! ## One sheet -/

namespace Sheet

variable {sheet : Sheet} {address other : CellAddress}

/-- A cell holds what was written to it, where nothing is written by emptying the cell. -/
theorem get?_write_self (sheet : Sheet) (address : CellAddress) (value : CellValue) :
    (sheet.write address value).get? address = if value.isEmpty then none else some value := by
  unfold write get?
  split <;> simp

/-- A write changes no other cell. -/
theorem get?_write_of_ne (sheet : Sheet) (value : CellValue) (different : other ≠ address) :
    (sheet.write address value).get? other = sheet.get? other := by
  have apart : compare address other ≠ .eq := by
    rw [ne_eq, Std.LawfulEqOrd.compare_eq_iff_eq]
    exact different.symm
  unfold write get?
  split
  · simp [Std.ExtTreeMap.getElem?_erase, apart]
  · simp [Std.ExtTreeMap.getElem?_insert, apart]

/-- A cell opens in the editor with the text of its value. -/
theorem editText_of_get? {value : CellValue} (stored : sheet.get? address = some value) :
    sheet.editText address = value.editText := by
  rw [editText, stored]
  rfl

end Sheet

/-! ## One workbook -/

namespace Workbook

variable {workbook : Workbook} {index : Nat}

/-- The value of a cell of a sheet, if there is one. -/
def stored? (workbook : Workbook) (index : Nat) (address : CellAddress) : Option CellValue :=
  (workbook.sheet? index).bind (·.get? address)

theorem stored?_of_sheet? {sheet : Sheet} (found : workbook.sheet? index = some sheet)
    (address : CellAddress) : workbook.stored? index address = sheet.get? address := by
  rw [stored?, found, Option.bind_some]

/-- `written` is `workbook` with a value in one cell; every other cell and sheet, all names, all
identities and the order of the sheets are the same. -/
structure WritesCell (workbook written : Workbook) (index : Nat) (address : CellAddress)
    (value : CellValue) : Prop where
  nextSheetId : written.nextSheetId = workbook.nextSheetId
  sheetCount : written.sheetCount = workbook.sheetCount
  otherSheets : ∀ other, other ≠ index → written.sheet? other = workbook.sheet? other
  sheet : ∃ before after, workbook.sheet? index = some before ∧
    written.sheet? index = some after ∧ after.id = before.id ∧ after.name = before.name ∧
    after.get? address = (if value.isEmpty then none else some value) ∧
    ∀ cell, cell ≠ address → after.get? cell = before.get? cell

theorem writesCell_withSheet {sheet : Sheet} (found : workbook.sheet? index = some sheet)
    (address : CellAddress) (value : CellValue) :
    workbook.WritesCell (workbook.withSheet index (sheet.write address value)) index address
      value where
  nextSheetId := rfl
  sheetCount := workbook.sheetCount_withSheet index _
  otherSheets := fun _ different => sheet?_withSheet_of_ne _ different
  sheet := ⟨sheet, sheet.write address value, found,
    sheet?_withSheet_self _ (lt_sheetCount_of_sheet? found), rfl, rfl,
    sheet.get?_write_self address value, fun _ different => sheet.get?_write_of_ne value different⟩

variable {written : Workbook} {address cell : CellAddress} {value : CellValue} {other : Nat}

theorem WritesCell.stored?_self (writes : workbook.WritesCell written index address value) :
    written.stored? index address = if value.isEmpty then none else some value := by
  obtain ⟨before, after, _, found, _, _, stored, _⟩ := writes.sheet
  rw [stored?_of_sheet? found, stored]

theorem WritesCell.stored?_of_ne (writes : workbook.WritesCell written index address value)
    (different : other ≠ index ∨ cell ≠ address) :
    written.stored? other cell = workbook.stored? other cell := by
  unfold stored?
  by_cases sameSheet : other = index
  · obtain ⟨before, after, foundBefore, foundAfter, _, _, _, others⟩ := writes.sheet
    rw [sameSheet, foundBefore, foundAfter]
    exact others cell (different.resolve_left (not_not_intro sameSheet))
  · rw [writes.otherSheets other sameSheet]

end Workbook

end SheetEditor
