import Mathlib.Data.Set.Card
import SheetEditor.Proofs.Workbook.Consistency

/-!
Contract: a sheet is the finite map of the last values written to its cells.

Owns: what one write leaves in every cell, what a run of writes leaves, how many cells are counted,
and that writes to different cells can change places.

Does not own: the identity and the name of a sheet, which no write changes
(`SheetEditor.Proofs.Workbook.Consistency`).
-/

namespace SheetEditor

theorem CellValue.isEmpty_eq_false_iff {value : CellValue} :
    value.isEmpty = false ↔ value ≠ .empty := by
  cases value <;> simp [isEmpty]

namespace Sheet

/-! ## One write -/

namespace CellWrite

def address : CellWrite → CellAddress
  | .value address _ => address
  | .formula address _ => address

/-- The value that is written, where an empty one stands for clearing the cell. -/
def content : CellWrite → CellValue
  | .value _ content => content
  | .formula _ body => .formula body

end CellWrite

/-- Writing a formula is writing a value, because a formula is never empty. -/
theorem apply_eq_write (sheet : Sheet) (write : CellWrite) :
    sheet.apply write = sheet.write write.address write.content := by
  cases write <;> rfl

theorem get?_apply (sheet : Sheet) (write : CellWrite) (address : CellAddress) :
    (sheet.apply write).get? address =
      if write.address = address then (some write.content).filter (!·.isEmpty)
      else sheet.get? address := by
  rw [apply_eq_write]
  split
  · next same =>
      rw [← same, get?_write_self, Option.filter_some]
      cases write.content.isEmpty <;> rfl
  · next different => exact get?_write_of_ne sheet _ (Ne.symm different)

/-! ## A sheet as a map -/

/-- A sheet is known by its label and by what its cells hold. -/
theorem eq_of_get? {sheet other : Sheet} (same : sheet.SameLabel other)
    (cells : ∀ address, other.get? address = sheet.get? address) : other = sheet := by
  obtain ⟨idEq, nameEq, keyEq⟩ := same
  obtain ⟨id, name, key, otherCells, keyed⟩ := other
  have cellsEq : otherCells = sheet.cells := Std.ExtTreeMap.ext_getElem? cells
  subst idEq nameEq keyEq cellsEq
  rfl

/-- The cells that are counted are those that hold a value. -/
theorem encard_filled (sheet : Sheet) :
    {address | (sheet.get? address).isSome}.encard = sheet.cellCount := by
  have filled : {address | (sheet.get? address).isSome} = ↑sheet.cells.keys.toFinset := by
    ext address
    rw [Set.mem_ofPred_eq, List.coe_toFinset, Set.mem_ofPred_eq, Std.ExtTreeMap.mem_keys]
    exact Std.ExtTreeMap.isSome_getElem?_iff_mem
  rw [filled, Set.encard_coe_eq_coe_finsetCard,
    List.toFinset_card_of_nodup Std.ExtTreeMap.nodup_keys, Std.ExtTreeMap.length_keys]
  rfl

/-- Writes to different cells can change places. -/
theorem apply_comm (sheet : Sheet) {first second : CellWrite}
    (apart : first.address ≠ second.address) :
    (sheet.apply first).apply second = (sheet.apply second).apply first := by
  apply eq_of_get?
  · simp only [apply_eq_write]
    exact ⟨rfl, rfl, rfl⟩
  · intro address
    rw [get?_apply, get?_apply, get?_apply, get?_apply]
    by_cases bySecond : second.address = address
    · rw [if_pos bySecond, if_pos bySecond, if_neg (bySecond ▸ apart)]
    · rw [if_neg bySecond, if_neg bySecond]

/-! ## Runs of writes -/

/-- The value of the last of the writes to a cell, if there is one. -/
def lastWritten? (writes : List CellWrite) (address : CellAddress) : Option CellValue :=
  (writes.filter (·.address = address)).getLast?.map CellWrite.content

theorem lastWritten?_concat (writes : List CellWrite) (write : CellWrite) (address : CellAddress) :
    lastWritten? (writes ++ [write]) address =
      if write.address = address then some write.content else lastWritten? writes address := by
  unfold lastWritten?
  rw [List.filter_append]
  split
  · next same => simp [same]
  · next different => simp [different]

/-- After a run of writes each cell of a new sheet holds the last value written to it. -/
theorem get?_foldl_apply (id : SheetId) (name : Text) (writes : List CellWrite)
    (address : CellAddress) :
    (writes.foldl apply (named id name)).get? address =
      (lastWritten? writes address).filter (!·.isEmpty) := by
  -- From the end, because the last write to a cell decides.
  induction writes using List.reverseRecOn with
  | nil => rfl
  | append_singleton writes write inductionHypothesis =>
      rw [List.foldl_append, List.foldl_cons, List.foldl_nil, get?_apply, lastWritten?_concat,
        inductionHypothesis]
      split <;> rfl

theorem get?_foldl_apply_ne_empty (id : SheetId) (name : Text) (writes : List CellWrite)
    (address : CellAddress) : (writes.foldl apply (named id name)).get? address ≠ some .empty := by
  intro stored
  rw [get?_foldl_apply, Option.filter_eq_some_iff] at stored
  exact absurd stored.2 (by decide)

/-- The cells that are counted after a run of writes are those to which a value was written last. -/
theorem encard_lastWritten (id : SheetId) (name : Text) (writes : List CellWrite) :
    {address | ∃ value, lastWritten? writes address = some value ∧ value ≠ .empty}.encard =
      (writes.foldl apply (named id name)).cellCount := by
  have filled : {address | ∃ value, lastWritten? writes address = some value ∧ value ≠ .empty} =
      {address | ((writes.foldl apply (named id name)).get? address).isSome} := by
    ext address
    simp only [Set.mem_ofPred_eq, get?_foldl_apply, Option.isSome_iff_exists,
      Option.filter_eq_some_iff, Bool.not_eq_true', CellValue.isEmpty_eq_false_iff]
  rw [filled, encard_filled]

/-- Whatever is written to a new sheet, each cell holds the last value written to it, no empty value
is kept, the count is that of the cells whose last value is not empty, the label stays, and writes to
different cells can change places. -/
theorem sheet_is_map_of_last_writes (id : SheetId) (name : Text) (writes : List CellWrite) :
    let sheet := writes.foldl apply (named id name)
    (∀ address, sheet.get? address = (lastWritten? writes address).filter (!·.isEmpty)) ∧
    (∀ address, sheet.get? address ≠ some .empty) ∧
    {address | ∃ value, lastWritten? writes address = some value ∧ value ≠ .empty}.encard =
      sheet.cellCount ∧
    (named id name).SameLabel sheet ∧
    ∀ first second : CellWrite, first.address ≠ second.address →
      (sheet.apply first).apply second = (sheet.apply second).apply first := by
  intro sheet
  exact ⟨get?_foldl_apply id name writes, get?_foldl_apply_ne_empty id name writes,
    encard_lastWritten id name writes, sameLabel_foldl_apply _ writes, fun _ _ => sheet.apply_comm⟩

/-- One cell is cleared again, one gets a formula in place of a value, and a formula that says nothing
still counts. -/
theorem sheet_is_map_of_clearing_and_overwriting :
    let first : CellAddress := ⟨0, 0⟩
    let second : CellAddress := ⟨1, 2⟩
    let writes : List CellWrite :=
      [.value first (.text "x".toList), .value second (.boolean true), .value first .empty,
        .formula second "A1*2".toList, .formula ⟨4, 4⟩ []]
    let sheet := writes.foldl apply (named ⟨7⟩ " Data ".toList)
    sheet.get? first = none ∧ sheet.get? second = some (.formula "A1*2".toList) ∧
      sheet.cellCount = 2 ∧ sheet.name = "Data".toList ∧
      (CellWrite.value first .empty).address ≠ (CellWrite.formula second []).address ∧
      (sheet.apply (.value first .empty)).apply (.formula second []) =
        (sheet.apply (.formula second [])).apply (.value first .empty) := by
  intro first second writes sheet
  obtain ⟨holds, -, -, label, commutes⟩ :=
    sheet_is_map_of_last_writes ⟨7⟩ " Data ".toList writes
  have apart : (CellWrite.value first .empty).address ≠ (CellWrite.formula second []).address := by
    decide
  exact ⟨(holds first).trans (by decide), (holds second).trans (by decide), by decide +kernel,
    label.name.trans (by decide), apart, commutes _ _ apart⟩

end Sheet

end SheetEditor
