import SheetEditor.Proofs.Workbook.Cells
import SheetEditor.Proofs.Workbook.Numbering

/-!
Contract: sheets are told apart by their identities and by their names.

Owns: the invariant of the names, keys and identities in a workbook, that every
operation on a workbook preserves it, and that the name of a sheet finds the sheet.

Does not own: the operations of a session (`SheetEditor.Proofs.Session.PickedRange`).
-/

namespace SheetEditor

/-! ## The name of one sheet -/

namespace Sheet

/-- The name is trimmed and not empty, and the sheet is found under the key of its name. -/
structure WellNamed (sheet : Sheet) : Prop where
  trimmed : sheet.name.trim = sheet.name
  nonempty : sheet.name ≠ []
  keyed : sheet.key = SheetName.key sheet.name

variable {sheet : Sheet} {name : Text}

theorem wellNamed_named (id : SheetId) (visible : name.trim ≠ []) :
    (named id name).WellNamed where
  trimmed := Text.trim_trim name
  nonempty := visible
  keyed := (named id name).keyed

theorem wellNamed_rename (sheet : Sheet) (visible : name.trim ≠ []) :
    (sheet.rename name).WellNamed where
  trimmed := Text.trim_trim name
  nonempty := visible
  keyed := (sheet.rename name).keyed

/-- Two sheets that differ in their cells alone. -/
structure SameLabel (sheet other : Sheet) : Prop where
  id : other.id = sheet.id
  name : other.name = sheet.name
  key : other.key = sheet.key

theorem WellNamed.of_sameLabel {other : Sheet} (named : sheet.WellNamed)
    (same : sheet.SameLabel other) : other.WellNamed where
  trimmed := by rw [same.name, named.trimmed]
  nonempty := by rw [same.name]; exact named.nonempty
  keyed := other.keyed

theorem sameLabel_write (sheet : Sheet) (address : CellAddress) (value : CellValue) :
    sheet.SameLabel (sheet.write address value) := ⟨rfl, rfl, rfl⟩

/-- A write to one cell: of a value, or of a formula, which is never taken for an empty value. -/
inductive CellWrite where
  | value (address : CellAddress) (value : CellValue)
  | formula (address : CellAddress) (body : Text)

def apply (sheet : Sheet) : CellWrite → Sheet
  | .value address value => sheet.write address value
  | .formula address body => sheet.writeFormula address body

theorem sameLabel_foldl_apply (sheet : Sheet) (writes : List CellWrite) :
    sheet.SameLabel (writes.foldl apply sheet) := by
  induction writes generalizing sheet with
  | nil => exact ⟨rfl, rfl, rfl⟩
  | cons write later inductionHypothesis =>
      have first : sheet.SameLabel (sheet.apply write) := by cases write <;> exact ⟨rfl, rfl, rfl⟩
      have rest := inductionHypothesis (sheet.apply write)
      exact ⟨rest.id.trans first.id, rest.name.trans first.name, rest.key.trans first.key⟩

end Sheet

namespace Workbook

variable {workbook changed : Workbook} {index : Nat} {name : Text}

/-! ## The invariant -/

/-- The program keeps the next identity in 64 bits. -/
def identityLimit : Nat := 18446744073709551616

/-- There is a sheet; no two sheets have the same identity or names that count as the same;
identities are given out in order; and every sheet is named well. The names are allowed as long as
the next identity fits in its 64 bits: after some 10²⁵ sheets a numbered name would be too long. -/
structure Consistent (workbook : Workbook) : Prop where
  sheetCount_pos : 0 < workbook.sheetCount
  identities : (workbook.sheets.map (·.id)).Nodup
  issued : ∀ sheet ∈ workbook.sheets, sheet.id.value < workbook.nextSheetId
  keys : (workbook.sheets.map (·.key)).Nodup
  wellNamed : ∀ sheet ∈ workbook.sheets, sheet.WellNamed
  allowed : workbook.nextSheetId ≤ identityLimit →
    ∀ sheet ∈ workbook.sheets, SheetName.isValid sheet.name = true

/-- The name of a sheet finds the sheet. -/
theorem Consistent.indexOfName? {sheet : Sheet} (consistent : workbook.Consistent)
    (found : workbook.sheet? index = some sheet) :
    workbook.indexOfName? sheet.name = some index := by
  obtain ⟨inside, rfl⟩ := List.getElem?_eq_some_iff.mp found
  have keyed := (workbook.sheets[index]).keyed
  rw [Workbook.indexOfName?, List.findIdx?_eq_some_iff_getElem]
  refine ⟨inside, beq_iff_eq.mpr keyed, ?_⟩
  intro earlier before same
  have keysEq : (workbook.sheets.map Sheet.key)[earlier]? =
      (workbook.sheets.map Sheet.key)[index]? := by
    rw [List.getElem?_map, List.getElem?_map, List.getElem?_eq_getElem (before.trans inside),
      List.getElem?_eq_getElem inside, Option.map_some, Option.map_some, keyed,
      beq_iff_eq.mp same]
  have positionsEq := (List.getElem?_inj (by rw [List.length_map]; omega) consistent.keys).mp keysEq
  exact absurd positionsEq before.ne

/-- Each sheet has used up an identity. -/
theorem Consistent.sheetCount_le (consistent : workbook.Consistent) :
    workbook.sheetCount ≤ workbook.nextSheetId := by
  have values : (workbook.sheets.map (·.id.value)).Nodup := by
    have injective : Function.Injective SheetId.value := fun ⟨_⟩ ⟨_⟩ same => congrArg _ same
    have distinct := consistent.identities.map injective
    rwa [List.map_map] at distinct
  have below : workbook.sheets.map (·.id.value) ⊆ List.range workbook.nextSheetId := by
    intro value member
    obtain ⟨sheet, isSheet, rfl⟩ := List.mem_map.mp member
    exact List.mem_range.mpr (consistent.issued sheet isSheet)
  simpa [sheetCount] using (values.subperm below).length_le

theorem consistent_new : new.Consistent where
  sheetCount_pos := by decide
  identities := List.nodup_singleton _
  issued := by
    intro sheet member
    rw [List.mem_singleton.mp member]
    decide
  keys := List.nodup_singleton _
  wellNamed := by
    intro sheet member
    rw [List.mem_singleton.mp member]
    exact Sheet.wellNamed_named _ (by decide)
  allowed := by
    intro _ sheet member
    rw [List.mem_singleton.mp member]
    decide

/-! ## What preserves it -/

theorem Consistent.append (consistent : workbook.Consistent) (visible : name.trim ≠ [])
    (free : workbook.hasName name = false)
    (allowed : workbook.nextSheetId < identityLimit → SheetName.isValid name = true) :
    (workbook.append name).Consistent where
  sheetCount_pos := by simp
  identities := by
    simp only [Workbook.append, List.map_append, List.map_singleton]
    refine consistent.identities.append (List.nodup_singleton _) ?_
    rw [List.disjoint_singleton]
    intro member
    obtain ⟨sheet, isSheet, same⟩ := List.mem_map.mp member
    have earlier := consistent.issued sheet isSheet
    rw [same] at earlier
    exact absurd earlier (Nat.lt_irrefl _)
  issued := by
    intro sheet member
    rcases List.mem_append.mp member with old | added
    · exact (consistent.issued sheet old).trans (Nat.lt_succ_self _)
    · rw [List.mem_singleton.mp added]
      exact Nat.lt_succ_self _
  keys := by
    simp only [Workbook.append, List.map_append, List.map_singleton]
    refine consistent.keys.append (List.nodup_singleton _) ?_
    rw [List.disjoint_singleton]
    exact fun member => Bool.false_ne_true (free.symm.trans (hasName_eq_true_iff.mpr member))
  wellNamed := by
    intro sheet member
    rcases List.mem_append.mp member with old | added
    · exact consistent.wellNamed sheet old
    · rw [List.mem_singleton.mp added]
      exact Sheet.wellNamed_named _ visible
  allowed := by
    intro fits sheet member
    rcases List.mem_append.mp member with old | added
    · exact consistent.allowed (Nat.le_of_succ_le fits) sheet old
    · rw [List.mem_singleton.mp added]
      exact (SheetName.isValid_trim name).trans (allowed fits)

/-- The numbered name of a new sheet is short, because each of the sheets has used up an identity. -/
theorem Consistent.addSheet (consistent : workbook.Consistent) : workbook.addSheet.Consistent := by
  refine consistent.append ?_ workbook.freeNumber_spec.1 ?_
  · rw [trim_numberedName]
    exact numberedName_ne_nil _
  · intro fits
    have count := consistent.sheetCount_le
    unfold identityLimit at fits
    exact isValid_freeNumber (by omega)

theorem Consistent.addSheetNamed (consistent : workbook.Consistent)
    (added : workbook.addSheetNamed? name = some changed) : changed.Consistent := by
  obtain ⟨valid, free⟩ : SheetName.isValid name = true ∧ workbook.hasName name = false := by
    unfold addSheetNamed? at added
    split at added
    · contradiction
    · rename_i accepted
      simpa using accepted
  rw [eq_append_of_addSheetNamed? added]
  exact consistent.append (SheetName.trim_ne_nil_of_isValid valid) free fun _ => valid

theorem Consistent.deleteSheet (consistent : workbook.Consistent)
    (deletion : workbook.deleteSheet? index = some changed) : changed.Consistent := by
  have remains := (sheetCount_of_deleteSheet? deletion).2.1
  obtain ⟨_, _, rfl⟩ := deleteSheet?_eq_some_iff.mp deletion
  have fewer : (workbook.sheets.eraseIdx index).Sublist workbook.sheets :=
    List.eraseIdx_sublist _ _
  exact {
    sheetCount_pos := remains
    identities := consistent.identities.sublist (fewer.map _)
    issued := fun sheet member => consistent.issued sheet (fewer.subset member)
    keys := consistent.keys.sublist (fewer.map _)
    wellNamed := fun sheet member => consistent.wellNamed sheet (fewer.subset member)
    allowed := fun fits sheet member => consistent.allowed fits sheet (fewer.subset member) }

/-- A list without repetition stays one when an entry makes way for one that is new to it, or for
itself. -/
theorem nodup_set {α : Type} {entries : List α} {position : Nat} {old new : α}
    (distinct : entries.Nodup) (found : entries[position]? = some old)
    (isNew : new ∈ entries → new = old) : (entries.set position new).Nodup := by
  by_cases present : new ∈ entries
  · obtain ⟨inside, rfl⟩ := List.getElem?_eq_some_iff.mp found
    rwa [isNew present, List.set_getElem_self]
  · exact distinct.set present

/-- A sheet may make way for one with its identity and a name that no other sheet has. -/
theorem Consistent.withSheet {sheet replacement : Sheet} (consistent : workbook.Consistent)
    (found : workbook.sheet? index = some sheet) (sameId : replacement.id = sheet.id)
    (named : replacement.WellNamed)
    (free : replacement.key ∈ workbook.sheets.map (·.key) → replacement.key = sheet.key)
    (allowed : workbook.nextSheetId ≤ identityLimit → SheetName.isValid replacement.name = true) :
    (workbook.withSheet index replacement).Consistent := by
  have old : sheet ∈ workbook.sheets := List.mem_of_getElem? found
  have foundMap {β : Type} (label : Sheet → β) :
      (workbook.sheets.map label)[index]? = some (label sheet) := by
    rw [List.getElem?_map]
    exact congrArg (Option.map label) found
  exact {
    sheetCount_pos := by
      rw [sheetCount_withSheet]
      exact consistent.sheetCount_pos
    identities := by
      rw [Workbook.withSheet, List.map_set]
      exact nodup_set consistent.identities (foundMap _) fun _ => sameId
    issued := by
      intro other member
      rcases List.mem_or_eq_of_mem_set member with kept | rfl
      · exact consistent.issued other kept
      · rw [sameId]
        exact consistent.issued sheet old
    keys := by
      rw [Workbook.withSheet, List.map_set]
      exact nodup_set consistent.keys (foundMap _) free
    wellNamed := by
      intro other member
      rcases List.mem_or_eq_of_mem_set member with kept | rfl
      · exact consistent.wellNamed other kept
      · exact named
    allowed := by
      intro fits other member
      rcases List.mem_or_eq_of_mem_set member with kept | rfl
      · exact consistent.allowed fits other kept
      · exact allowed fits }

/-- Writing to cells changes no label. -/
theorem Consistent.withCells {sheet written : Sheet} (consistent : workbook.Consistent)
    (found : workbook.sheet? index = some sheet) (same : sheet.SameLabel written) :
    (workbook.withSheet index written).Consistent := by
  have old : sheet ∈ workbook.sheets := List.mem_of_getElem? found
  refine consistent.withSheet found same.id ((consistent.wellNamed sheet old).of_sameLabel same)
    (fun _ => same.key) fun fits => ?_
  rw [same.name]
  exact consistent.allowed fits sheet old

/-- The clash test of a renaming goes by identity, and identities are unique: a sheet that has the
new key and is passed over is the renamed sheet itself. -/
theorem Consistent.renameSheet (consistent : workbook.Consistent)
    (renamed : workbook.renameSheet? index name = some changed) : changed.Consistent := by
  obtain ⟨sheet, found, valid, free⟩ : ∃ sheet, workbook.sheet? index = some sheet ∧
      SheetName.isValid name = true ∧ ∀ other ∈ workbook.sheets, other.id ≠ sheet.id →
        other.key ≠ SheetName.key name := by
    unfold renameSheet? at renamed
    cases found : workbook.sheet? index with
    | none => simp [found] at renamed
    | some sheet =>
        simp only [found, Option.bind_eq_bind, Option.bind_some] at renamed
        split at renamed
        · contradiction
        · rename_i accepted
          simp only [Bool.or_eq_true, Bool.not_eq_true', not_or, Bool.not_eq_false,
            Bool.not_eq_true, List.any_eq_false, Bool.and_eq_true, decide_eq_true_eq,
            beq_iff_eq, not_and] at accepted
          exact ⟨sheet, rfl, accepted⟩
  have replaced : changed = workbook.withSheet index (sheet.rename name) := by
    obtain ⟨inside, rfl⟩ := List.getElem?_eq_some_iff.mp found
    rw [eq_modify_of_renameSheet? renamed, Workbook.withSheet, List.modify_eq_set_getElem?]
    simp [inside]
  rw [replaced]
  refine consistent.withSheet found rfl
    (sheet.wellNamed_rename (SheetName.trim_ne_nil_of_isValid valid)) ?_
    fun _ => (SheetName.isValid_trim name).trans valid
  intro taken
  obtain ⟨other, isSheet, sameKey⟩ := List.mem_map.mp taken
  by_cases sameId : other.id = sheet.id
  · rw [← List.inj_on_of_nodup_map consistent.identities isSheet (List.mem_of_getElem? found) sameId]
    exact sameKey.symm
  · exact absurd sameKey (free other isSheet sameId)

/-! ## Runs of operations -/

/-- What can be done to a workbook: adding, renaming and deleting sheets, and putting a copy of a
sheet with cells written in the place of the sheet. -/
inductive Operation where
  | addSheet
  | addSheetNamed (name : Text)
  | renameSheet (index : Nat) (name : Text)
  | deleteSheet (index : Nat)
  | writeCells (index : Nat) (writes : List Sheet.CellWrite)

/-- The workbook after an operation that is accepted. -/
def perform? (workbook : Workbook) : Operation → Option Workbook
  | .addSheet => some workbook.addSheet
  | .addSheetNamed name => workbook.addSheetNamed? name
  | .renameSheet index name => workbook.renameSheet? index name
  | .deleteSheet index => workbook.deleteSheet? index
  | .writeCells index writes => (workbook.sheet? index).map fun sheet =>
      workbook.withSheet index (writes.foldl Sheet.apply sheet)

/-- The workbook after an operation, accepted or refused. -/
def perform (workbook : Workbook) (operation : Operation) : Workbook :=
  (workbook.perform? operation).getD workbook

def run (workbook : Workbook) (operations : List Operation) : Workbook :=
  operations.foldl perform workbook

theorem Reachable.perform (reachable : workbook.Reachable) (operation : Operation) :
    (workbook.perform operation).Reachable := by
  unfold Workbook.perform
  cases performed : workbook.perform? operation with
  | none => exact reachable
  | some changed =>
      rw [Option.getD_some]
      cases operation with
      | addSheet =>
          rw [← Option.some.inj performed]
          exact .addSheet reachable
      | addSheetNamed name => exact .addSheetNamed reachable performed
      | renameSheet index name => exact .renameSheet reachable performed
      | deleteSheet index => exact .deleteSheet reachable performed
      | writeCells index writes =>
          obtain ⟨sheet, _, rfl⟩ := Option.map_eq_some_iff.mp performed
          exact .withSheet index _ reachable

theorem Consistent.perform (consistent : workbook.Consistent) (operation : Operation) :
    (workbook.perform operation).Consistent := by
  unfold Workbook.perform
  cases performed : workbook.perform? operation with
  | none => exact consistent
  | some changed =>
      rw [Option.getD_some]
      cases operation with
      | addSheet =>
          rw [← Option.some.inj performed]
          exact consistent.addSheet
      | addSheetNamed name => exact consistent.addSheetNamed performed
      | renameSheet index name => exact consistent.renameSheet performed
      | deleteSheet index => exact consistent.deleteSheet performed
      | writeCells index writes =>
          obtain ⟨sheet, found, rfl⟩ := Option.map_eq_some_iff.mp performed
          exact consistent.withCells found (sheet.sameLabel_foldl_apply writes)

/-- What every operation preserves holds after any run of operations. -/
theorem run_induction {motive : Workbook → Prop} (holds : motive workbook)
    (step : ∀ workbook operation, motive workbook → motive (workbook.perform operation))
    (operations : List Operation) : motive (workbook.run operations) := by
  induction operations generalizing workbook with
  | nil => exact holds
  | cons operation later inductionHypothesis =>
      exact inductionHypothesis (step workbook operation holds)

theorem Reachable.run (reachable : workbook.Reachable) (operations : List Operation) :
    (workbook.run operations).Reachable :=
  run_induction reachable (fun _ operation before => before.perform operation) operations

theorem Consistent.run (consistent : workbook.Consistent) (operations : List Operation) :
    (workbook.run operations).Consistent :=
  run_induction consistent (fun _ operation before => before.perform operation) operations

/-- Whatever operations are tried on a new workbook, the names and identities of its sheets stay
unique, the name of each sheet finds it, and an operation that is refused changes nothing. -/
theorem run_new_consistent (operations : List Operation) :
    (new.run operations).Consistent ∧
      (∀ index sheet, (new.run operations).sheet? index = some sheet →
        (new.run operations).indexOfName? sheet.name = some index) ∧
      ∀ operation, (new.run operations).perform? operation = none →
        (new.run operations).perform operation = new.run operations := by
  have consistent := consistent_new.run operations
  refine ⟨consistent, fun _ _ found => consistent.indexOfName? found, ?_⟩
  intro operation refused
  rw [perform, refused, Option.getD_none]

/-- A name that differs in letter case is refused, and a numbered name skips a number in use. -/
theorem run_new_consistent_after_clashes :
    let operations : List Operation :=
      [.addSheetNamed " Data ".toList, .addSheetNamed "DATA".toList, .addSheet,
        .renameSheet 0 "data".toList, .deleteSheet 1, .addSheet]
    (new.run operations).Consistent ∧
      (new.run operations).sheets.map (·.name) =
        ["Sheet1".toList, "Sheet3".toList, "Sheet4".toList] ∧
      (new.run operations).indexOfName? "SHEET3".toList = some 1 := by
  intro operations
  exact ⟨(run_new_consistent operations).1, by decide +kernel, by decide +kernel⟩

end Workbook

end SheetEditor
