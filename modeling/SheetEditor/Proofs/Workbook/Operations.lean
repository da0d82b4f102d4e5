import SheetEditor.Workbook.Basic

/-!
Contract: what each operation on a workbook does to the list of its sheets.

Owns: the number of sheets after each operation, the sheet or the identity found
at each index, and the workbooks that the operations build from a new one.

Does not own: the names of sheets and whether they are unique.
-/

namespace SheetEditor

namespace Workbook

variable {workbook changed remaining : Workbook} {index deleted : Nat} {name : Text}

/-! ## Identities -/

/-- The identity of the sheet at an index. -/
def sheetId? (workbook : Workbook) (index : Nat) : Option SheetId :=
  (workbook.sheet? index).map (·.id)

theorem sheet?_isSome_iff : (workbook.sheet? index).isSome ↔ index < workbook.sheetCount := by
  simp [sheet?, sheetCount]

theorem exists_sheet?_of_lt (inside : index < workbook.sheetCount) :
    ∃ sheet, workbook.sheet? index = some sheet :=
  Option.isSome_iff_exists.mp (sheet?_isSome_iff.mpr inside)

theorem lt_sheetCount_of_sheet? {sheet : Sheet} (found : workbook.sheet? index = some sheet) :
    index < workbook.sheetCount :=
  sheet?_isSome_iff.mp (Option.isSome_of_eq_some found)

/-! ## Adding a sheet -/

@[simp] theorem sheetCount_new : new.sheetCount = 1 := rfl

@[simp] theorem sheetCount_append (workbook : Workbook) (name : Text) :
    (workbook.append name).sheetCount = workbook.sheetCount + 1 := by
  simp [append, sheetCount]

/-- A sheet that is added comes after all the others. -/
theorem sheet?_append (name : Text) (inside : index < workbook.sheetCount) :
    (workbook.append name).sheet? index = workbook.sheet? index := by
  simp only [append, sheet?]
  exact List.getElem?_append_left inside

theorem eq_append_of_addSheetNamed? (added : workbook.addSheetNamed? name = some changed) :
    changed = workbook.append name := by
  unfold addSheetNamed? at added
  split at added
  · contradiction
  · exact (Option.some.inj added).symm

/-! ## Renaming a sheet -/

/-- A renaming that is accepted changes one name and nothing else. -/
theorem eq_modify_of_renameSheet? (renamed : workbook.renameSheet? index name = some changed) :
    changed = { workbook with sheets := workbook.sheets.modify index (·.rename name) } := by
  unfold renameSheet? at renamed
  cases found : workbook.sheet? index with
  | none => simp [found] at renamed
  | some sheet =>
      simp only [found, Option.bind_eq_bind, Option.bind_some] at renamed
      split at renamed
      · contradiction
      · exact (Option.some.inj renamed).symm

theorem sheetCount_of_renameSheet? (renamed : workbook.renameSheet? index name = some changed) :
    changed.sheetCount = workbook.sheetCount := by
  rw [eq_modify_of_renameSheet? renamed]
  simp [sheetCount]

/-- Renaming keeps the identity of every sheet. -/
theorem sheetId?_of_renameSheet? (renamed : workbook.renameSheet? index name = some changed)
    (other : Nat) : changed.sheetId? other = workbook.sheetId? other := by
  rw [eq_modify_of_renameSheet? renamed]
  simp only [sheetId?, sheet?, List.getElem?_modify]
  by_cases same : index = other
  · simp [same, Sheet.rename, Function.comp_def]
  · simp [same]

/-! ## Deleting a sheet -/

/-- The only sheet is never deleted. -/
theorem deleteSheet?_eq_some_iff :
    workbook.deleteSheet? deleted = some remaining ↔
      1 < workbook.sheetCount ∧ deleted < workbook.sheetCount ∧
        remaining = { workbook with sheets := workbook.sheets.eraseIdx deleted } := by
  unfold deleteSheet?
  split
  · rename_i refused
    simp only [Bool.or_eq_true, decide_eq_true_eq] at refused
    constructor
    · intro impossible
      contradiction
    · rintro ⟨several, inside, -⟩
      omega
  · rename_i allowed
    simp only [Bool.or_eq_true, decide_eq_true_eq, not_or, Nat.not_le] at allowed
    rw [Option.some.injEq]
    exact ⟨fun same => ⟨allowed.1, allowed.2, same.symm⟩, fun parts => parts.2.2.symm⟩

theorem sheetCount_of_deleteSheet? (deletion : workbook.deleteSheet? deleted = some remaining) :
    remaining.sheetCount + 1 = workbook.sheetCount ∧ 0 < remaining.sheetCount ∧
      deleted < workbook.sheetCount := by
  obtain ⟨several, inside, rfl⟩ := deleteSheet?_eq_some_iff.mp deletion
  simp only [sheetCount, List.length_eraseIdx] at *
  rw [if_pos inside]
  omega

/-- The sheets before the deleted one keep their places. -/
theorem sheet?_of_deleteSheet?_of_lt (deletion : workbook.deleteSheet? deleted = some remaining)
    (before : index < deleted) : remaining.sheet? index = workbook.sheet? index := by
  obtain ⟨_, _, rfl⟩ := deleteSheet?_eq_some_iff.mp deletion
  exact List.getElem?_eraseIdx_of_lt before

/-- The sheets after the deleted one move up by one place. -/
theorem sheet?_of_deleteSheet?_of_gt (deletion : workbook.deleteSheet? deleted = some remaining)
    (behind : deleted < index) : remaining.sheet? (index - 1) = workbook.sheet? index := by
  obtain ⟨_, _, rfl⟩ := deleteSheet?_eq_some_iff.mp deletion
  simp only [sheet?]
  rw [List.getElem?_eraseIdx_of_ge (by omega), Nat.sub_add_cancel (by omega)]

/-! ## Replacing a sheet -/

@[simp] theorem sheetCount_withSheet (workbook : Workbook) (index : Nat) (sheet : Sheet) :
    (workbook.withSheet index sheet).sheetCount = workbook.sheetCount := by
  simp [withSheet, sheetCount]

theorem sheet?_withSheet_self (sheet : Sheet) (inside : index < workbook.sheetCount) :
    (workbook.withSheet index sheet).sheet? index = some sheet := by
  simp only [withSheet, sheet?]
  exact List.getElem?_set_self inside

theorem sheet?_withSheet_of_ne (sheet : Sheet) {other : Nat} (different : other ≠ index) :
    (workbook.withSheet index sheet).sheet? other = workbook.sheet? other := by
  simp only [withSheet, sheet?]
  exact List.getElem?_set_ne different.symm

/-! ## Reachable workbooks -/

/-- The workbooks that the operations build from a new one. A sheet may be replaced by any other
sheet. -/
inductive Reachable : Workbook → Prop where
  | new : Reachable .new
  | addSheet {workbook : Workbook} (reachable : Reachable workbook) : Reachable workbook.addSheet
  | addSheetNamed {workbook changed : Workbook} {name : Text} (reachable : Reachable workbook)
      (added : workbook.addSheetNamed? name = some changed) : Reachable changed
  | renameSheet {workbook changed : Workbook} {index : Nat} {name : Text}
      (reachable : Reachable workbook)
      (renamed : workbook.renameSheet? index name = some changed) : Reachable changed
  | deleteSheet {workbook remaining : Workbook} {index : Nat} (reachable : Reachable workbook)
      (deletion : workbook.deleteSheet? index = some remaining) : Reachable remaining
  | withSheet {workbook : Workbook} (index : Nat) (sheet : Sheet)
      (reachable : Reachable workbook) : Reachable (workbook.withSheet index sheet)

/-- A reachable workbook has a sheet. -/
theorem Reachable.sheetCount_pos (reachable : workbook.Reachable) : 0 < workbook.sheetCount := by
  induction reachable with
  | new => simp
  | addSheet => simp [Workbook.addSheet]
  | addSheetNamed _ added =>
      rw [eq_append_of_addSheetNamed? added]
      simp
  | renameSheet _ renamed inductionHypothesis =>
      rw [sheetCount_of_renameSheet? renamed]
      exact inductionHypothesis
  | deleteSheet _ deletion => exact (sheetCount_of_deleteSheet? deletion).2.1
  | withSheet index sheet _ inductionHypothesis => simpa using inductionHypothesis

end Workbook

end SheetEditor
