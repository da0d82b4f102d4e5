import Mathlib.Order.Bounds.Basic
import SheetEditor.Proofs.Workbook.Numbering
import SheetEditor.Proofs.Workbook.Operations

/-!
Contract: the number of a new sheet.

Owns: the search that tries one number after the other, that it ends and where,
that the number given to a new sheet is the least free one, and the workbook after
a sheet was added under it.

Does not own: why the names in a workbook are unique
(`SheetEditor.Proofs.Workbook.Consistency`).
-/

namespace SheetEditor.Workbook

variable {workbook : Workbook} {first number : Nat} {name : Text}

/-! ## Names in use -/

/-- The program counts the sheets in 64 bits. -/
def sheetCountLimit : Nat := 18446744073709551616

/-- No sheet has the name, in any letter case and with any blanks around it. -/
def NameIsFree (workbook : Workbook) (name : Text) : Prop :=
  ∀ sheet ∈ workbook.sheets, SheetName.key sheet.name ≠ SheetName.key name

theorem hasName_eq_false_iff : workbook.hasName name = false ↔ workbook.NameIsFree name := by
  rw [← Bool.not_eq_true, hasName_eq_true_iff, List.mem_map, not_exists]
  apply forall_congr'
  intro sheet
  rw [not_and, sheet.keyed]

/-! ## The search -/

/-- The numbers tried from a first one on, and the one at which the search ends: after a number in
use comes the next one, and a free number ends the search. Nothing bounds it. -/
inductive NumberSearch (workbook : Workbook) : Nat → List Nat → Nat → Prop where
  | free {number : Nat} (free : workbook.hasName (numberedName number) = false) :
      NumberSearch workbook number [number] number
  | taken {number found : Nat} {later : List Nat}
      (taken : workbook.hasName (numberedName number) = true)
      (search : NumberSearch workbook (number + 1) later found) :
      NumberSearch workbook number (number :: later) found

/-- The search ends at a free number if all numbers before it are in use. -/
theorem numberSearch_of_free (distance : Nat)
    (free : workbook.hasName (numberedName (first + distance)) = false)
    (taken : ∀ earlier, first ≤ earlier → earlier < first + distance →
      workbook.hasName (numberedName earlier) = true) :
    workbook.NumberSearch first (List.range' first (distance + 1)) (first + distance) := by
  -- Each candidate that is passed over moves the first one on, and the distance shrinks.
  induction distance generalizing first with
  | zero => exact .free free
  | succ distance inductionHypothesis =>
      have shifted : first + (distance + 1) = first + 1 + distance := by omega
      rw [List.range'_succ]
      refine .taken (taken first (Nat.le_refl _) (by omega)) ?_
      rw [shifted] at free taken ⊢
      exact inductionHypothesis free fun earlier low high => taken earlier (by omega) high

/-- From the first number after the number of sheets the search comes to the number of a new sheet,
after at most one number more than there are sheets. -/
theorem exists_numberSearch (workbook : Workbook) :
    ∃ tried, workbook.NumberSearch (workbook.sheetCount + 1) tried workbook.freeNumber ∧
      tried.length ≤ workbook.sheetCount + 1 := by
  obtain ⟨free, bound⟩ := workbook.freeNumber_spec
  obtain ⟨greater, taken⟩ := workbook.taken_before_freeNumber
  obtain ⟨distance, reached⟩ := Nat.exists_eq_add_of_le (Nat.succ_le_of_lt greater)
  refine ⟨List.range' (workbook.sheetCount + 1) (distance + 1), ?_, ?_⟩
  · rw [reached] at free taken ⊢
    exact numberSearch_of_free distance free taken
  · rw [List.length_range']
    omega

/-- The number of a new sheet is the least that is free and greater than the number of sheets. -/
theorem isLeast_freeNumber (workbook : Workbook) :
    IsLeast {number | workbook.sheetCount + 1 ≤ number ∧
      workbook.hasName (numberedName number) = false} workbook.freeNumber := by
  obtain ⟨greater, taken⟩ := workbook.taken_before_freeNumber
  refine ⟨⟨greater, workbook.freeNumber_spec.1⟩, ?_⟩
  rintro number ⟨low, free⟩
  by_contra less
  rw [taken number low (Nat.lt_of_not_le less)] at free
  cases free

/-! ## The new sheet -/

theorem sheets_addSheet (workbook : Workbook) :
    workbook.addSheet.sheets = workbook.sheets ++
      [⟨⟨workbook.nextSheetId⟩, numberedName workbook.freeNumber,
        SheetName.key (numberedName workbook.freeNumber), ∅, rfl⟩] := by
  simp only [addSheet, append, Sheet.named, trim_numberedName]

/-- Whatever the names of the sheets are, the search for the number of a new sheet ends after at most
one number more than there are sheets, and it ends at the least number from there on whose name no
sheet has, in any letter case and with any blanks around it. A sheet without values and with this
name comes after all the others, which stay as they are; so its index is the number of the others.
The name is an allowed one, if 64 bits are enough to count the sheets. -/
theorem addSheet_takes_least_free_number (workbook : Workbook) :
    let nameOf (number : Nat) : Text := "Sheet".toList ++ Nat.toDigits 10 number
    (∃ tried, workbook.NumberSearch (workbook.sheetCount + 1) tried workbook.freeNumber ∧
        tried.length ≤ workbook.sheetCount + 1) ∧
      IsLeast {number | workbook.sheetCount + 1 ≤ number ∧
        workbook.hasName (nameOf number) = false} workbook.freeNumber ∧
      IsLeast {number | workbook.sheetCount + 1 ≤ number ∧
        workbook.NameIsFree (nameOf number)} workbook.freeNumber ∧
      (workbook.sheetCount < sheetCountLimit →
        SheetName.isValid (nameOf workbook.freeNumber) = true) ∧
      workbook.addSheet.sheets = workbook.sheets ++
        [⟨⟨workbook.nextSheetId⟩, nameOf workbook.freeNumber,
          SheetName.key (nameOf workbook.freeNumber), ∅, rfl⟩] ∧
      workbook.addSheet.sheetCount - 1 = workbook.sheetCount := by
  intro nameOf
  have least := workbook.isLeast_freeNumber
  refine ⟨workbook.exists_numberSearch, least, ?_, ?_, workbook.sheets_addSheet, ?_⟩
  · simp only [hasName_eq_false_iff] at least
    exact least
  · intro fits
    unfold sheetCountLimit at fits
    exact isValid_freeNumber (by omega)
  · rw [addSheet, sheetCount_append, Nat.add_sub_cancel]

/-- Of four sheets one has blanks around its name, two share a name, and the fourth has it in other
letter case. -/
theorem addSheet_skips_names_in_use :
    let workbook : Workbook := ⟨[⟨⟨1⟩, " sheet6\t".toList, "sheet6".toList, ∅, rfl⟩,
      .named ⟨2⟩ "SHEET5".toList, .named ⟨3⟩ "sHEET5".toList, .named ⟨4⟩ "sHEET5".toList], 5⟩
    workbook.sheetCount < sheetCountLimit ∧ workbook.freeNumber = 7 ∧
      workbook.hasName "Sheet5".toList = true ∧ workbook.hasName "Sheet6".toList = true ∧
      IsLeast {number | 5 ≤ number ∧ workbook.NameIsFree (numberedName number)} 7 ∧
      SheetName.isValid "Sheet7".toList = true ∧
      workbook.addSheet.sheets.map (·.name) =
        [" sheet6\t".toList, "SHEET5".toList, "sHEET5".toList, "sHEET5".toList,
          "Sheet7".toList] := by
  intro workbook
  have fits : workbook.sheetCount < sheetCountLimit := by decide
  have number : workbook.freeNumber = 7 := by decide +kernel
  obtain ⟨-, -, least, valid, sheets, -⟩ := addSheet_takes_least_free_number workbook
  rw [number] at least
  refine ⟨fits, number, by decide +kernel, by decide +kernel, least, ?_, ?_⟩
  · have named := valid fits
    rwa [number] at named
  · rw [sheets, number]
    rfl

end SheetEditor.Workbook
