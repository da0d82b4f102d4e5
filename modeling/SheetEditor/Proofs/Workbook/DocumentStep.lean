import Mathlib.Data.List.Chain
import SheetEditor.Proofs.Workbook.Operations

/-!
Contract: one operation on a document, and what it does to identities.

Owns: the relation between a workbook and the one that a single write, addition, renaming or
removal leads to, that the operations on a workbook are such steps, and that an identity which is
new after any number of steps was handed out by one of them.

Does not own: that identities in one workbook are unique, and that each was handed out before
(`SheetEditor.Proofs.Workbook.Consistency`).
-/

namespace SheetEditor.Workbook

variable {workbook earlier middle later changed : Workbook} {index : Nat} {sheet : Sheet}
  {name : Text}

/-- The identities of the sheets, in their order. -/
def identities (workbook : Workbook) : List SheetId := workbook.sheets.map (·.id)

/-! ## Steps -/

/-- What one operation does to a document. All sheets but one stay as they are, in their order. -/
inductive DocumentStep : Workbook → Workbook → Prop where
  /-- A value is written to one cell. The cell may have held it before. -/
  | wrote (before : List Sheet) (sheet : Sheet) (after : List Sheet) (nextSheetId : Nat)
      (address : CellAddress) (value : CellValue) :
      DocumentStep ⟨before ++ sheet :: after, nextSheetId⟩
        ⟨before ++ sheet.write address value :: after, nextSheetId⟩
  /-- An empty sheet is added at the end. It takes the next identity. -/
  | added (sheets : List Sheet) (nextSheetId : Nat) (name : Text) :
      DocumentStep ⟨sheets, nextSheetId⟩ ⟨sheets ++ [.named ⟨nextSheetId⟩ name], nextSheetId + 1⟩
  | renamed (before : List Sheet) (sheet : Sheet) (after : List Sheet) (nextSheetId : Nat)
      (name : Text) :
      DocumentStep ⟨before ++ sheet :: after, nextSheetId⟩
        ⟨before ++ sheet.rename name :: after, nextSheetId⟩
  /-- One of several sheets is removed. Its identity is not given back. -/
  | removed (before : List Sheet) (sheet : Sheet) (after : List Sheet) (nextSheetId : Nat)
      (several : before ++ after ≠ []) :
      DocumentStep ⟨before ++ sheet :: after, nextSheetId⟩ ⟨before ++ after, nextSheetId⟩

/-- The sheet at an index, between those before it and those after it. -/
theorem sheets_eq_of_sheet? (found : workbook.sheet? index = some sheet) :
    workbook.sheets =
      workbook.sheets.take index ++ sheet :: workbook.sheets.drop (index + 1) := by
  obtain ⟨inside, rfl⟩ := List.getElem?_eq_some_iff.mp found
  rw [List.getElem_cons_drop, List.take_append_drop]

theorem documentStep_write (found : workbook.sheet? index = some sheet) (address : CellAddress)
    (value : CellValue) :
    workbook.DocumentStep (workbook.withSheet index (sheet.write address value)) := by
  have inside : index < workbook.sheets.length := lt_sheetCount_of_sheet? found
  have step := DocumentStep.wrote (workbook.sheets.take index) sheet
    (workbook.sheets.drop (index + 1)) workbook.nextSheetId address value
  rw [← sheets_eq_of_sheet? found] at step
  rwa [withSheet, List.set_eq_take_append_cons_drop, if_pos inside]

theorem documentStep_append (workbook : Workbook) (name : Text) :
    workbook.DocumentStep (workbook.append name) :=
  .added workbook.sheets workbook.nextSheetId name

theorem documentStep_renameSheet (renamed : workbook.renameSheet? index name = some changed) :
    workbook.DocumentStep changed := by
  rw [eq_modify_of_renameSheet? renamed]
  have inside : index < workbook.sheetCount := by
    by_contra outside
    simp [renameSheet?, sheet?, List.getElem?_eq_none (Nat.le_of_not_lt outside)] at renamed
  obtain ⟨sheet, found⟩ := exists_sheet?_of_lt inside
  obtain ⟨inside, rfl⟩ := List.getElem?_eq_some_iff.mp found
  have step := DocumentStep.renamed (workbook.sheets.take index) workbook.sheets[index]
    (workbook.sheets.drop (index + 1)) workbook.nextSheetId name
  rw [← sheets_eq_of_sheet? found] at step
  rwa [List.modify_eq_take_cons_drop inside]

theorem documentStep_deleteSheet (deletion : workbook.deleteSheet? index = some changed) :
    workbook.DocumentStep changed := by
  obtain ⟨several, inside, rfl⟩ := deleteSheet?_eq_some_iff.mp deletion
  obtain ⟨sheet, found⟩ := exists_sheet?_of_lt inside
  have remain : workbook.sheets.take index ++ workbook.sheets.drop (index + 1) ≠ [] := by
    rw [← List.eraseIdx_eq_take_drop_succ, ← List.length_pos_iff, List.length_eraseIdx_of_lt inside]
    exact Nat.sub_pos_of_lt several
  have step := DocumentStep.removed (workbook.sheets.take index) sheet
    (workbook.sheets.drop (index + 1)) workbook.nextSheetId remain
  rw [← sheets_eq_of_sheet? found] at step
  rwa [List.eraseIdx_eq_take_drop_succ]

/-! ## Identities -/

/-- The later workbook has no identity that the earlier one has given up: each of its identities
is one of the earlier workbook, or one that was handed out since. -/
structure Precedes (earlier later : Workbook) : Prop where
  nextSheetId_le : earlier.nextSheetId ≤ later.nextSheetId
  kept_or_new : ∀ id ∈ later.identities, id ∈ earlier.identities ∨ earlier.nextSheetId ≤ id.value

theorem Precedes.trans (first : earlier.Precedes middle) (second : middle.Precedes later) :
    earlier.Precedes later where
  nextSheetId_le := first.nextSheetId_le.trans second.nextSheetId_le
  kept_or_new := by
    intro id member
    rcases second.kept_or_new id member with kept | new
    · exact first.kept_or_new id kept
    · exact .inr (first.nextSheetId_le.trans new)

instance : Trans Precedes Precedes Precedes := ⟨Precedes.trans⟩

/-- Identities that are all kept are in order, whatever else a step does. -/
theorem precedes_of_subset (nextSheetId : Nat) {before after : List Sheet}
    (subset : after.map (·.id) ⊆ before.map (·.id)) :
    Precedes ⟨before, nextSheetId⟩ ⟨after, nextSheetId⟩ :=
  ⟨Nat.le_refl _, fun _ member => .inl (subset member)⟩

theorem DocumentStep.precedes (step : earlier.DocumentStep later) : earlier.Precedes later := by
  cases step with
  | wrote before sheet after nextSheetId address value =>
      exact precedes_of_subset nextSheetId (by simp [Sheet.write])
  | added sheets nextSheetId name =>
      refine ⟨Nat.le_succ _, ?_⟩
      intro id member
      simp only [identities, List.map_append, List.mem_append, List.map_singleton,
        List.mem_singleton] at member
      rcases member with old | rfl
      · exact .inl old
      · exact .inr (Nat.le_refl _)
  | renamed before sheet after nextSheetId name =>
      exact precedes_of_subset nextSheetId (by simp [Sheet.rename])
  | removed before sheet after nextSheetId several =>
      have fewer : (before ++ after).Sublist (before ++ sheet :: after) :=
        (List.sublist_cons_self ..).append_left _
      exact precedes_of_subset nextSheetId (fewer.map _).subset

end SheetEditor.Workbook
