import Mathlib.Data.Nat.Digits.Defs
import SheetEditor.Proofs.Grid.CellName
import SheetEditor.Proofs.Text.Trim
import SheetEditor.Proofs.Text.UpperCase

/-!
Contract: column letters and columns, and names and cells, stand for each other.

Owns: column letters as numerals of bijective base 26, the texts that are read as a
cell, and the name of the cell that such a text is read as.

Does not own: the written cells of formulas (`SheetEditor.Proofs.Formula.CellReaders`).
-/

namespace SheetEditor

/-! ## Column letters -/

namespace Column

/-- The digit that a capital letter is: `A` is one, and `Z` is 26. There is no zero. -/
def digit (letter : Char) : Nat := letter.toNat - 'A'.toNat + 1

theorem digit_letter {offset : Nat} (small : offset < 26) : digit (letter offset) = offset + 1 := by
  revert offset
  decide

/-- The letters of a column, from the last to the first, are the digits of the number after it. -/
theorem ofDigits_letters (column : Nat) :
    Nat.ofDigits 26 ((letters column).reverse.map digit) = column + 1 := by
  induction column using letters.induct with
  | case1 column small =>
      rw [letters, if_pos small, List.reverse_singleton, List.map_singleton, digit_letter small,
        Nat.ofDigits_singleton]
  | case2 column large inductionHypothesis =>
      have last : column % 26 < 26 := Nat.mod_lt _ (by decide)
      rw [letters, if_neg large, List.reverse_append, List.reverse_singleton, List.singleton_append,
        List.map_cons, Nat.ofDigits_cons, inductionHypothesis, digit_letter last]
      omega

/-- A column has as many letters as its number has digits; each further one takes a number that is
26 times as great. -/
theorem pow_length_letters_le (column : Nat) : 26 ^ ((letters column).length - 1) ≤ column + 1 := by
  induction column using letters.induct with
  | case1 column small =>
      rw [letters, if_pos small]
      exact Nat.le_add_left 1 column
  | case2 column large inductionHypothesis =>
      have front := List.length_pos_iff.mpr (letters_ne_nil (column / 26 - 1))
      obtain ⟨others, length⟩ := Nat.exists_eq_add_of_lt front
      rw [Nat.zero_add] at length
      rw [length, Nat.add_sub_cancel] at inductionHypothesis
      rw [letters, if_neg large, List.length_append, List.length_singleton, Nat.add_sub_cancel,
        length, Nat.pow_succ]
      omega

theorem letters_injective : Function.Injective letters := by
  intro first second same
  have values := congrArg lettersValue same
  rw [lettersValue_letters, lettersValue_letters] at values
  exact Nat.succ.inj values

theorem lettersValue_pos {text : Text} (nonempty : text ≠ []) : 0 < lettersValue text := by
  rw [← List.dropLast_append_getLast nonempty, lettersValue_append, ← Nat.add_assoc]
  exact Nat.succ_pos _

/-- Columns are counted from one. -/
theorem number?_pos {text : Text} {number : Nat} (found : number? text = some number) :
    0 < number := by
  obtain ⟨nonempty, -, -, rfl⟩ := number?_eq_some_iff.mp found
  exact lettersValue_pos nonempty

/-- In upper case a letter is one of the 26 letters of columns. -/
theorem letter_of_isAlpha {character : Char} (isAlpha : character.isAlpha = true) :
    character.toUpper.toNat - 'A'.toNat < 26 ∧
      letter (character.toUpper.toNat - 'A'.toNat) = character.toUpper := by
  have ascii : ∀ code < 128, (Char.ofNat code).isAlpha = true →
      (Char.ofNat code).toUpper.toNat - 'A'.toNat < 26 ∧
        letter ((Char.ofNat code).toUpper.toNat - 'A'.toNat) = (Char.ofNat code).toUpper := by
    decide
  have small : character.toNat < 128 := by
    rw [isAlpha_iff] at isAlpha
    omega
  have found := ascii character.toNat small
  rw [Char.ofNat_toNat] at found
  exact found isAlpha

/-- Letters in any case are the letters of the column before the number that they denote. -/
theorem letters_of_lettersValue {text : Text} {column : Nat}
    (alphabetic : ∀ character ∈ text, character.isAlpha = true)
    (value : lettersValue text = column + 1) : letters column = text.upper := by
  induction text using List.reverseRecOn generalizing column with
  | nil => exact absurd value (Nat.succ_ne_zero column).symm
  | append_singleton front last inductionHypothesis =>
      obtain ⟨isFront, isLast⟩ := List.forall_mem_append.mp alphabetic
      rw [List.forall_mem_singleton] at isLast
      obtain ⟨small, isLetter⟩ := letter_of_isAlpha isLast
      rw [lettersValue_append] at value
      rw [Text.upper_append, Text.upper_cons, ← isLetter]
      cases front with
      | nil =>
          have isColumn : column = last.toUpper.toNat - 'A'.toNat := by
            rw [lettersValue, List.foldl_nil] at value
            omega
          rw [letters, if_pos (by omega), isColumn]
          rfl
      | cons first others =>
          obtain ⟨number, isNumber⟩ :=
            Nat.exists_eq_succ_of_ne_zero (lettersValue_pos (List.cons_ne_nil first others)).ne'
          rw [isNumber] at value
          have front : column / 26 - 1 = number := by omega
          have rest : column % 26 = last.toUpper.toNat - 'A'.toNat := by omega
          rw [letters, if_neg (by omega), front, rest, inductionHypothesis isFront isNumber]
          rfl

end Column

/-! ## Cells -/

theorem WrittenCell.address?_eq_some_iff {cell : WrittenCell} {address : CellAddress} :
    cell.address? = some address ↔ Column.number? cell.letters = some (address.column + 1) ∧
      Text.digitsValue cell.digits = address.row + 1 ∧ address.InBounds := by
  simp only [address?, Option.bind_eq_bind, Option.bind_eq_some_iff,
    CellAddress.ofOneBased?_eq_some_iff]
  constructor
  · rintro ⟨_, found, isRow, rfl, inBounds⟩
    exact ⟨found, isRow, inBounds⟩
  · rintro ⟨found, isRow, inBounds⟩
    exact ⟨_, found, isRow, rfl, inBounds⟩

theorem WrittenCell.inBounds_of_address? {cell : WrittenCell} {address : CellAddress}
    (found : cell.address? = some address) : address.InBounds :=
  (address?_eq_some_iff.mp found).2.2

namespace CellAddress

open Text (Stops)

variable {address : CellAddress} {text : Text}

/-- A text is the name of a cell if the letters and digits of a written cell are left of it without
the blanks around it and the marks in it. -/
theorem ofName?_eq_some_iff :
    ofName? text = some address ↔ ∃ cell : WrittenCell, cell.WellSpelled ∧
      text.trim.filter (· ≠ '$') = cell.letters ++ cell.digits ∧ cell.address? = some address := by
  unfold ofName?
  generalize text.trim.filter (· ≠ '$') = bare
  dsimp only
  rw [List.span_eq_takeWhile_dropWhile]
  constructor
  · intro found
    obtain ⟨decimal, isAddress⟩ := Option.ite_none_left_eq_some.mp found
    simp only [Bool.or_eq_true, decide_eq_true_eq, Bool.not_eq_true', not_or, Bool.not_eq_false,
      List.all_eq_true] at decimal
    obtain ⟨column, isColumn, -⟩ := Option.bind_eq_some_iff.mp isAddress
    obtain ⟨nonempty, short, alphabetic, -⟩ := Column.number?_eq_some_iff.mp isColumn
    exact ⟨⟨false, bare.takeWhile Char.isAlpha, false, bare.dropWhile Char.isAlpha⟩,
      ⟨nonempty, short, alphabetic, decimal.1, decimal.2⟩, List.takeWhile_append_dropWhile.symm,
      isAddress⟩
  · rintro ⟨cell, spelled, rfl, isAddress⟩
    have stops : Stops Char.isAlpha cell.digits := by
      simpa using WrittenCell.stops_run [] spelled.digits_ne_nil spelled.digits_decimal
        fun _ => not_isAlpha_of_isDigit
    rw [Text.takeWhile_run spelled.letters_alphabetic stops, Text.dropWhile_append stops,
      List.dropWhile_eq_nil_iff.mpr spelled.letters_alphabetic, List.nil_append]
    refine Option.ite_none_left_eq_some.mpr ⟨?_, isAddress⟩
    simpa [spelled.digits_ne_nil] using spelled.digits_decimal

/-- The name of a cell is read as the cell. -/
theorem ofName?_name (inBounds : address.InBounds) : ofName? address.name = some address := by
  have solid : ∀ character ∈ address.name, isBlank character = false := fun character member =>
    isBlank_of_isAlphanum (address.isAlphanum_of_mem_name character member)
  have unmarked : ∀ character ∈ address.name, decide (character ≠ '$') = true := by
    intro character member
    rw [decide_eq_true_iff]
    rintro rfl
    cases address.isAlphanum_of_mem_name '$' member
  refine ofName?_eq_some_iff.mpr
    ⟨address.written, wellSpelled_written inBounds, ?_, address?_written inBounds⟩
  rw [Text.trim_eq_self solid, List.filter_eq_self.mpr unmarked]
  rfl

/-- The name of the cell that a text is read as is the text without the blanks around it and the
marks in it, with its letters in upper case and without the zeros in front of its row. -/
theorem exists_of_ofName? (read : ofName? text = some address) :
    address.InBounds ∧ ∃ letters digits : Text, text.trim.filter (· ≠ '$') = letters ++ digits ∧
      (∀ letter ∈ letters, letter.isAlpha = true) ∧ digits.IsDigits ∧
      address.name = letters.upper ++ digits.dropWhile (· = '0') := by
  obtain ⟨cell, spelled, bare, isAddress⟩ := ofName?_eq_some_iff.mp read
  obtain ⟨isColumn, isRow, inBounds⟩ := WrittenCell.address?_eq_some_iff.mp isAddress
  obtain ⟨-, -, alphabetic, value⟩ := Column.number?_eq_some_iff.mp isColumn
  refine ⟨inBounds, cell.letters, cell.digits, bare, alphabetic, spelled.digits_decimal, ?_⟩
  have digits := Text.toDigits_digitsValue spelled.digits_decimal (isRow ▸ Nat.succ_pos _)
  rw [name, Column.letters_of_lettersValue alphabetic value, ← isRow, digits]

end CellAddress

/-! ## Names and addresses -/

/-- The letters of a column are its number in bijective base 26, of which `A` to `Z` are the digits,
so there are few of them and no other column has them; up to three of them are read as the number.
The name of a cell of the sheet is read as the cell. Any text that is read as a cell is read as one of
the sheet, and is its name but for blanks around it, marks, letter case and zeros before the row. -/
theorem cell_names_and_addresses_inverse :
    (∀ column, (∀ letter ∈ Column.letters column, letter.isUpper = true) ∧
        Nat.ofDigits 26 ((Column.letters column).reverse.map Column.digit) = column + 1 ∧
        26 ^ ((Column.letters column).length - 1) ≤ column + 1 ∧
        Column.number? (Column.letters column) =
          if (Column.letters column).length ≤ 3 then some (column + 1) else none) ∧
      Function.Injective Column.letters ∧
      (∀ address : CellAddress, address.InBounds →
        CellAddress.ofName? address.name = some address) ∧
      ∀ (text : Text) address, CellAddress.ofName? text = some address →
        address.InBounds ∧ ∃ letters digits : Text, text.trim.filter (· ≠ '$') = letters ++ digits ∧
          (∀ letter ∈ letters, letter.isAlpha = true) ∧ digits.IsDigits ∧
          address.name = letters.upper ++ digits.dropWhile (· = '0') :=
  ⟨fun column => ⟨Column.isUpper_of_mem_letters column, Column.ofDigits_letters column,
      Column.pow_length_letters_le column, Column.number?_letters_eq column⟩,
    Column.letters_injective, fun _ => CellAddress.ofName?_name,
    fun _ _ => CellAddress.exists_of_ofName?⟩

/-- The last cell of the sheet, written with blanks, marks, small letters and zeros. -/
theorem last_cell_name_and_address_inverse :
    let last : CellAddress := ⟨1048575, 16383⟩
    let text : Text := " x$fD$001048576\t".toList
    last.InBounds ∧ CellAddress.ofName? last.name = some last ∧
      CellAddress.ofName? text = some last ∧
      ∃ letters digits : Text, text.trim.filter (· ≠ '$') = letters ++ digits ∧
        (∀ letter ∈ letters, letter.isAlpha = true) ∧ digits.IsDigits ∧
        last.name = letters.upper ++ digits.dropWhile (· = '0') := by
  intro last text
  have inBounds : last.InBounds := by decide
  have read : CellAddress.ofName? text = some last := by decide +kernel
  obtain ⟨-, -, named, spelled⟩ := cell_names_and_addresses_inverse
  exact ⟨inBounds, named last inBounds, read, (spelled text last read).2⟩

end SheetEditor
