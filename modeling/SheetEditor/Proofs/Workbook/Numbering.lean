import Mathlib.Data.List.Perm.Subperm
import Mathlib.Data.Nat.Digits.Defs
import SheetEditor.Proofs.Numeric.ReadBack
import SheetEditor.Proofs.Text.Letter
import SheetEditor.Proofs.Text.Trim
import SheetEditor.Workbook.Basic

/-!
Contract: the names of sheets, given and generated, and the keys under which they
are found.

Owns: that blanks around a name do not change whether it is allowed, the keys of
numbered names, and that the number given to a new sheet is free.

Does not own: the names in a workbook (`SheetEditor.Proofs.Workbook.Consistency`).
-/

namespace SheetEditor

/-! ## Blanks around a name -/

namespace SheetName

@[simp] theorem isValid_trim (name : Text) : isValid name.trim = isValid name := by
  unfold isValid
  rw [Text.trim_trim]

theorem trim_ne_nil_of_isValid {name : Text} (valid : isValid name = true) : name.trim ≠ [] := by
  simp only [isValid, Bool.and_eq_true, decide_eq_true_eq] at valid
  exact valid.1.1

theorem length_trim_le_of_isValid {name : Text} (valid : isValid name = true) :
    name.trim.length ≤ lengthLimit := by
  simp only [isValid, Bool.and_eq_true, decide_eq_true_eq] at valid
  exact valid.1.2

end SheetName

/-! ## Letter case of ASCII texts -/

namespace Text

theorem lowercaseAfter_of_ascii (before : Text) {text : Text}
    (ascii : ∀ character ∈ text, character.toNat < 128) :
    lowercaseAfter before text = text.map Char.toLower := by
  induction text generalizing before with
  | nil => rfl
  | cons character following inductionHypothesis =>
      have code := ascii character List.mem_cons_self
      have notSigma : character ≠ 'Σ' := by
        rintro rfl
        exact absurd code (by decide)
      rw [lowercaseAfter, if_neg notSigma, lowercaseForm, if_pos code,
        inductionHypothesis (character :: before) fun later member =>
          ascii later (List.mem_cons_of_mem _ member)]
      rfl

/-- Only ASCII letters change in the lower-case form of an ASCII text. -/
theorem lowercase_of_ascii {text : Text} (ascii : ∀ character ∈ text, character.toNat < 128) :
    text.lowercase = text.map Char.toLower :=
  lowercaseAfter_of_ascii [] ascii

end Text

/-! ## Numbered names -/

namespace Workbook

theorem numberedName_eq (number : Nat) :
    numberedName number = "Sheet".toList ++ Nat.toDigits 10 number := rfl

theorem isAlphanum_of_mem_numberedName {number : Nat} {character : Char}
    (member : character ∈ numberedName number) : character.isAlphanum = true := by
  have letters : "Sheet".toList.all Char.isAlphanum = true := by decide
  rcases List.mem_append.mp member with letter | digit
  · exact List.all_eq_true.mp letters character letter
  · rw [Char.isAlphanum, Text.isDigits_toDigits number character digit, Bool.or_true]

@[simp] theorem trim_numberedName (number : Nat) : (numberedName number).trim = numberedName number :=
  Text.trim_eq_self fun _ member => isBlank_of_isAlphanum (isAlphanum_of_mem_numberedName member)

theorem numberedName_ne_nil (number : Nat) : numberedName number ≠ [] :=
  List.append_ne_nil_of_left_ne_nil (by decide) _

theorem key_numberedName (number : Nat) :
    SheetName.key (numberedName number) = "sheet".toList ++ Nat.toDigits 10 number := by
  have ascii : ∀ character ∈ numberedName number, character.toNat < 128 := by
    intro character member
    have alphanumeric := isAlphanum_of_mem_numberedName member
    rw [Char.isAlphanum, Bool.or_eq_true, isAlpha_iff, isDigit_iff] at alphanumeric
    omega
  have digits : (Nat.toDigits 10 number).map Char.toLower = Nat.toDigits 10 number :=
    (List.map_congr_left fun digit member =>
      toLower_of_isDigit (Text.isDigits_toDigits number digit member)).trans (List.map_id _)
  rw [SheetName.key, trim_numberedName, Text.lowercase_of_ascii ascii, numberedName_eq,
    List.map_append, digits]
  rfl

/-- Different numbers make names that do not count as the same. -/
theorem key_numberedName_injective :
    Function.Injective fun number => SheetName.key (numberedName number) := by
  intro first second same
  simp only [key_numberedName] at same
  rw [← Text.digitsValue_toDigits first, List.append_cancel_left same, Text.digitsValue_toDigits]

theorem length_numberedName_le {number places : Nat} (positive : 0 < places)
    (small : number < 10 ^ places) : (numberedName number).length ≤ 5 + places := by
  rw [numberedName_eq, List.length_append]
  exact Nat.add_le_add_left (Nat.toDigits_length 10 number places positive small) 5

/-- A numbered name is allowed if it is not too long. -/
theorem isValid_numberedName {number : Nat}
    (short : (numberedName number).length ≤ SheetName.lengthLimit) :
    SheetName.isValid (numberedName number) = true := by
  have plain : ∀ character ∈ numberedName number,
      SheetName.reserved.contains character = false := by
    intro character member
    have alphanumeric := isAlphanum_of_mem_numberedName member
    by_contra reserved
    rw [Bool.not_eq_false, List.contains_iff_mem] at reserved
    have symbols : SheetName.reserved.any Char.isAlphanum = false := by decide
    exact List.any_eq_false.mp symbols character reserved alphanumeric
  simp only [SheetName.isValid, trim_numberedName, Bool.and_eq_true, decide_eq_true_eq,
    Bool.not_eq_true', List.any_eq_false, Bool.not_eq_true]
  exact ⟨⟨numberedName_ne_nil number, short⟩, plain⟩

/-! ## The free number -/

variable {workbook : Workbook} {name : Text}

theorem hasName_eq_true_iff :
    workbook.hasName name = true ↔ SheetName.key name ∈ workbook.sheets.map (·.key) := by
  simp only [hasName, indexOfName?, List.findIdx?_isSome, List.any_eq_true, beq_iff_eq,
    List.mem_map]

/-- Not all of the numbers tried are taken: they make more keys than there are sheets. -/
theorem exists_number_free (workbook : Workbook) :
    ∃ number ∈ List.range' (workbook.sheetCount + 1) (workbook.sheetCount + 1),
      workbook.hasName (numberedName number) = false := by
  by_contra taken
  have allTaken : (List.range' (workbook.sheetCount + 1) (workbook.sheetCount + 1)).map
      (fun number => SheetName.key (numberedName number)) ⊆ workbook.sheets.map (·.key) := by
    intro key member
    obtain ⟨number, tried, rfl⟩ := List.mem_map.mp member
    rw [← hasName_eq_true_iff]
    by_contra free
    exact taken ⟨number, tried, Bool.not_eq_true _ ▸ free⟩
  have distinct := (List.nodup_range' (s := workbook.sheetCount + 1) (n := workbook.sheetCount + 1)).map
    key_numberedName_injective
  have fits := (distinct.subperm allTaken).length_le
  simp only [List.length_map, List.length_range'] at fits
  exact absurd fits (Nat.not_succ_le_self _)

/-- The number given to a new sheet is the first free one of those tried. -/
theorem find?_freeNumber (workbook : Workbook) :
    ((List.range' (workbook.sheetCount + 1) (workbook.sheetCount + 1)).find?
      fun number => !workbook.hasName (numberedName number)) = some workbook.freeNumber := by
  obtain ⟨witness, tried, free⟩ := workbook.exists_number_free
  have found : ((List.range' (workbook.sheetCount + 1) (workbook.sheetCount + 1)).find?
      fun number => !workbook.hasName (numberedName number)).isSome :=
    List.find?_isSome.mpr ⟨witness, tried, by rw [free]; rfl⟩
  obtain ⟨number, chosen⟩ := Option.isSome_iff_exists.mp found
  rw [freeNumber, chosen]
  rfl

/-- The number given to a new sheet is free, and it is at most one more than twice the number of
sheets. -/
theorem freeNumber_spec (workbook : Workbook) :
    workbook.hasName (numberedName workbook.freeNumber) = false ∧
      workbook.freeNumber ≤ 2 * workbook.sheetCount + 1 := by
  have chosen := workbook.find?_freeNumber
  have bounds := List.mem_range'_1.mp (List.mem_of_find?_eq_some chosen)
  refine ⟨?_, by omega⟩
  simpa using List.find?_some chosen

/-- The number given to a new sheet is greater than the number of sheets, and all numbers between
them are in use. -/
theorem taken_before_freeNumber (workbook : Workbook) :
    workbook.sheetCount < workbook.freeNumber ∧
      ∀ earlier, workbook.sheetCount < earlier → earlier < workbook.freeNumber →
        workbook.hasName (numberedName earlier) = true := by
  obtain ⟨-, member, taken⟩ := List.find?_range'_eq_some.mp workbook.find?_freeNumber
  refine ⟨(List.mem_range'_1.mp member).1, fun earlier low high => ?_⟩
  simpa using taken earlier low high

/-- The name of a new sheet is allowed, unless there are very many sheets. -/
theorem isValid_freeNumber (few : workbook.sheetCount < 10 ^ 20) :
    SheetName.isValid (numberedName workbook.freeNumber) = true := by
  have bound := workbook.freeNumber_spec.2
  have small : workbook.freeNumber < 10 ^ 21 := by omega
  exact isValid_numberedName ((length_numberedName_le (by decide) small).trans (by decide))

end Workbook

end SheetEditor
