import SheetEditor.Proofs.Draft.Area
import SheetEditor.Proofs.Numeric.ReadBack
import SheetEditor.Proofs.Text.Letter

/-!
Contract: the name of a cell reads back as the cell.

Owns: the number that the letters of a column denote, how many letters a column
of the sheet has, the texts that are numbers of columns, and the written cell that
the name of a cell is.

Does not own: ranges and qualifiers (`SheetEditor.Proofs.Draft.Picking`).
-/

namespace SheetEditor

open Text (Stops)

/-! ## Column letters -/

namespace Column

theorem letter_spec {digit : Nat} (small : digit < 26) :
    (letter digit).isUpper = true ∧ (letter digit).toUpper.toNat - 'A'.toNat + 1 = digit + 1 := by
  revert digit
  decide

theorem lettersValue_append (front : Text) (last : Char) :
    lettersValue (front ++ [last]) =
      lettersValue front * 26 + (last.toUpper.toNat - 'A'.toNat + 1) := by
  rw [lettersValue, List.foldl_append]
  rfl

/-- The letters of a column denote the number after it, which counts the column from one. -/
theorem lettersValue_letters (column : Nat) : lettersValue (letters column) = column + 1 := by
  induction column using letters.induct with
  | case1 column small =>
      rw [letters, if_pos small, ← List.nil_append [letter column], lettersValue_append,
        (letter_spec small).2]
      exact Nat.zero_add _
  | case2 column large inductionHypothesis =>
      have last : column % 26 < 26 := Nat.mod_lt _ (by decide)
      rw [letters, if_neg large, lettersValue_append, inductionHypothesis, (letter_spec last).2]
      omega

theorem isUpper_of_mem_letters (column : Nat) :
    ∀ character ∈ letters column, character.isUpper = true := by
  induction column using letters.induct with
  | case1 column small =>
      rw [letters, if_pos small, List.forall_mem_singleton]
      exact (letter_spec small).1
  | case2 column large inductionHypothesis =>
      rw [letters, if_neg large, List.forall_mem_append, List.forall_mem_singleton]
      exact ⟨inductionHypothesis, (letter_spec (Nat.mod_lt _ (by decide))).1⟩

theorem isAlpha_of_mem_letters (column : Nat) :
    ∀ character ∈ letters column, character.isAlpha = true := fun character member =>
  Bool.or_eq_true_iff.mpr (.inl (isUpper_of_mem_letters column character member))

theorem letters_ne_nil (column : Nat) : letters column ≠ [] := by
  rw [letters]
  split <;> simp

theorem length_letters_le (column : Nat) (inBounds : column < columnCount) :
    (letters column).length ≤ 3 := by
  have step {limit column : Nat} (front : ¬column < 26 → (letters (column / 26 - 1)).length ≤ limit) :
      (letters column).length ≤ limit + 1 := by
    rw [letters]
    split
    · simp
    · next large => simpa using front large
  refine step fun _ => step fun _ => step fun tooLarge => ?_
  unfold columnCount at inBounds
  omega

theorem number?_eq_some_iff {text : Text} {number : Nat} :
    number? text = some number ↔ text ≠ [] ∧ text.length ≤ 3 ∧
      (∀ character ∈ text, character.isAlpha = true) ∧ lettersValue text = number := by
  simp only [number?, Option.ite_none_left_eq_some, Bool.or_eq_true, decide_eq_true_eq,
    Bool.not_eq_true', not_or, Nat.not_lt, Bool.not_eq_false, List.all_eq_true, Option.some.injEq,
    and_assoc]

/-- The letters of a column are the number after it unless there are more than three of them. -/
theorem number?_letters_eq (column : Nat) :
    number? (letters column) =
      if (letters column).length ≤ 3 then some (column + 1) else none := by
  split
  · next short =>
      exact number?_eq_some_iff.mpr ⟨letters_ne_nil column, short, isAlpha_of_mem_letters column,
        lettersValue_letters column⟩
  · next long =>
      rw [Option.eq_none_iff_forall_ne_some]
      intro number found
      exact long (number?_eq_some_iff.mp found).2.1

theorem number?_letters {column : Nat} (inBounds : column < columnCount) :
    number? (letters column) = some (column + 1) := by
  rw [number?_letters_eq, if_pos (length_letters_le column inBounds)]

end Column

/-! ## Written cells -/

namespace WrittenCell

/-- One to three letters, and digits. -/
structure WellSpelled (cell : WrittenCell) : Prop where
  letters_ne_nil : cell.letters ≠ []
  length_letters_le : cell.letters.length ≤ 3
  letters_alphabetic : ∀ letter ∈ cell.letters, letter.isAlpha = true
  digits_ne_nil : cell.digits ≠ []
  digits_decimal : ∀ digit ∈ cell.digits, digit.isDigit = true

theorem splitMarker_marker (marked : Bool) {text : Text} (stops : Stops (· = '$') text) :
    splitMarker ((if marked then ['$'] else []) ++ text) = (marked, text) := by
  cases marked with
  | true => rfl
  | false =>
      cases text with
      | nil => rfl
      | cons first following =>
          have unmarked : first ≠ '$' := by simpa using stops
          simp [splitMarker, unmarked]

/-- A run of one class, and what follows it, does not go on with a class apart. -/
theorem stops_run {inside continues : Char → Bool} {run : Text} (rest : Text) (nonempty : run ≠ [])
    (members : ∀ character ∈ run, inside character = true)
    (apart : ∀ character, inside character = true → continues character = false) :
    Stops continues (run ++ rest) := by
  obtain ⟨first, others, rfl⟩ := List.exists_cons_of_ne_nil nonempty
  exact Text.stops_cons.mpr (apart first (members first List.mem_cons_self))

theorem WellSpelled.splitMarker_text {cell : WrittenCell} (spelled : cell.WellSpelled)
    (rest : Text) : splitMarker (cell.text ++ rest) = (cell.columnAbsolute, cell.letters ++
      ((if cell.rowAbsolute then ['$'] else []) ++ (cell.digits ++ rest))) := by
  have notMarker (character : Char) (isAlpha : character.isAlpha = true) :
      decide (character = '$') = false := by
    rw [decide_eq_false_iff_not]
    rintro rfl
    cases isAlpha
  simp only [WrittenCell.text, List.append_assoc]
  exact splitMarker_marker cell.columnAbsolute
    (stops_run _ spelled.letters_ne_nil spelled.letters_alphabetic notMarker)

/-- After its letters a cell goes on with a mark or with a digit. -/
theorem WellSpelled.stops_row {cell : WrittenCell} (spelled : cell.WellSpelled)
    {continues : Char → Bool}
    (noDigit : ∀ digit : Char, digit.isDigit = true → continues digit = false)
    (noMarker : continues '$' = false) (rest : Text) :
    Stops continues ((if cell.rowAbsolute then ['$'] else []) ++ (cell.digits ++ rest)) := by
  cases cell.rowAbsolute with
  | true => exact Text.stops_cons.mpr noMarker
  | false => exact stops_run rest spelled.digits_ne_nil spelled.digits_decimal noDigit

theorem WellSpelled.letters_eq {cell : WrittenCell} (spelled : cell.WellSpelled) (rest : Text) :
    ((cell.letters ++ ((if cell.rowAbsolute then ['$'] else []) ++ (cell.digits ++ rest))).take
      3).takeWhile Char.isAlpha = cell.letters := by
  rw [Text.takeWhile_take, Text.takeWhile_run spelled.letters_alphabetic
    (spelled.stops_row (fun _ => not_isAlpha_of_isDigit) rfl rest),
    List.take_of_length_le spelled.length_letters_le]

/-- A cell that is spelled well is read back, as long as no digit follows it. -/
theorem WellSpelled.read? {cell : WrittenCell} (spelled : cell.WellSpelled) {rest : Text}
    (stops : Stops Char.isDigit rest) : read? (cell.text ++ rest) = some (cell, rest) := by
  have notMarker (character : Char) (isDigit : character.isDigit = true) :
      decide (character = '$') = false := by
    rw [decide_eq_false_iff_not]
    rintro rfl
    cases isDigit
  have fromDigits := splitMarker_marker cell.rowAbsolute
    (stops_run rest spelled.digits_ne_nil spelled.digits_decimal notMarker)
  unfold WrittenCell.read?
  rw [spelled.splitMarker_text]
  dsimp only
  rw [spelled.letters_eq, List.drop_left, fromDigits]
  dsimp only
  rw [Text.takeWhile_run spelled.digits_decimal stops, List.drop_left]
  simp [spelled.letters_ne_nil, spelled.digits_ne_nil]

/-- A cell that is read is spelled well, and no digit is left after it. -/
theorem wellSpelled_of_read? {cell : WrittenCell} {text rest : Text}
    (read : WrittenCell.read? text = some (cell, rest)) :
    cell.WellSpelled ∧ Stops Char.isDigit rest := by
  unfold WrittenCell.read? at read
  dsimp only at read
  split at read
  · cases read
  · next nonempty =>
      cases read
      rw [Bool.not_eq_true, Bool.or_eq_false_iff, decide_eq_false_iff_not,
        decide_eq_false_iff_not] at nonempty
      refine ⟨⟨nonempty.1, ?_, fun letter => List.mem_takeWhile_imp, nonempty.2,
        fun digit => List.mem_takeWhile_imp⟩, Text.stops_drop_takeWhile _⟩
      exact (Text.length_takeWhile_le ..).trans (List.length_take_le ..)

/-- A cell that is read to the end of a text is what the text spells. -/
theorem read?_eq_some_iff {cell : WrittenCell} {text : Text} :
    WrittenCell.read? text = some (cell, []) ↔ cell.WellSpelled ∧ cell.text = text := by
  constructor
  · exact fun read => ⟨(wellSpelled_of_read? read).1, text_of_whole read⟩
  · rintro ⟨spelled, rfl⟩
    simpa using spelled.read? (Text.stops_nil : Stops Char.isDigit [])

theorem inCell_of_mem_marker (marked : Bool) :
    ∀ character ∈ (if marked then ['$'] else ([] : Text)), inCell character = true := by
  cases marked <;> simp [inCell]

theorem WellSpelled.inCell {cell : WrittenCell} (spelled : cell.WellSpelled) :
    ∀ character ∈ cell.text, WrittenCell.inCell character = true := by
  rw [WrittenCell.text]
  simp only [List.forall_mem_append]
  exact ⟨⟨⟨inCell_of_mem_marker _, fun letter member =>
    inCell_of_isAlpha (spelled.letters_alphabetic letter member)⟩, inCell_of_mem_marker _⟩,
    fun digit member => inCell_of_isDigit (spelled.digits_decimal digit member)⟩

theorem WellSpelled.text_ne_nil {cell : WrittenCell} (spelled : cell.WellSpelled) : cell.text ≠ [] := by
  simp [WrittenCell.text, spelled.letters_ne_nil]

/-- A cell begins with its mark or with a letter. -/
theorem WellSpelled.stops_text {cell : WrittenCell} {continues : Char → Bool} (spelled : cell.WellSpelled)
    (noLetter : ∀ letter : Char, letter.isAlpha = true → continues letter = false)
    (noMarker : continues '$' = false) (rest : Text) : Stops continues (cell.text ++ rest) := by
  obtain ⟨letter, letters, lettersEq⟩ := List.exists_cons_of_ne_nil spelled.letters_ne_nil
  have isAlpha := spelled.letters_alphabetic letter (lettersEq ▸ List.mem_cons_self)
  cases marked : cell.columnAbsolute with
  | true => simpa [WrittenCell.text, marked] using noMarker
  | false => simpa [WrittenCell.text, marked, lettersEq] using noLetter letter isAlpha

theorem WellSpelled.stops_mark {cell : WrittenCell} (spelled : cell.WellSpelled) {mark : Char}
    (notLetter : mark.isAlpha = false) (notMarker : mark ≠ '$') (rest : Text) :
    Stops (· = mark) (cell.text ++ rest) := by
  refine spelled.stops_text (fun letter isAlpha => ?_) (by simpa using notMarker.symm) rest
  rw [decide_eq_false_iff_not]
  rintro rfl
  rw [isAlpha] at notLetter
  cases notLetter

end WrittenCell

/-! ## Names of cells -/

namespace CellAddress

variable {address : CellAddress} {rest : Text}

/-- The name of a cell as a written cell, without `$` marks. -/
def written (address : CellAddress) : WrittenCell :=
  ⟨false, Column.letters address.column, false, Nat.toDigits 10 (address.row + 1)⟩

theorem text_written (address : CellAddress) : address.written.text = address.name := by
  simp [WrittenCell.text, written, name]

theorem wellSpelled_written (inBounds : address.InBounds) : address.written.WellSpelled where
  letters_ne_nil := Column.letters_ne_nil address.column
  length_letters_le := Column.length_letters_le address.column inBounds.2
  letters_alphabetic := Column.isAlpha_of_mem_letters address.column
  digits_ne_nil := Nat.toDigits_ne_nil
  digits_decimal := Text.isDigits_toDigits (address.row + 1)

/-- The name of a cell reads back as the cell. -/
theorem read?_name (inBounds : address.InBounds) (stops : Stops Char.isDigit rest) :
    WrittenCell.read? (address.name ++ rest) = some (address.written, rest) := by
  rw [← text_written]
  exact (wellSpelled_written inBounds).read? stops

theorem ofOneBased?_eq_some_iff {row column : Nat} :
    ofOneBased? row column = some address ↔
      row = address.row + 1 ∧ column = address.column + 1 ∧ address.InBounds := by
  obtain ⟨addressRow, addressColumn⟩ := address
  simp only [ofOneBased?, Option.ite_none_left_eq_some, Bool.or_eq_true, decide_eq_true_eq,
    Option.some.injEq, CellAddress.mk.injEq, InBounds]
  omega

theorem address?_written (inBounds : address.InBounds) :
    address.written.address? = some address := by
  rw [WrittenCell.address?, written, Column.number?_letters inBounds.2]
  exact ofOneBased?_eq_some_iff.mpr ⟨Text.digitsValue_toDigits _, rfl, inBounds⟩

theorem isAlphanum_of_mem_name (address : CellAddress) :
    ∀ character ∈ address.name, character.isAlphanum = true := by
  rw [name, List.forall_mem_append]
  constructor
  · intro letter member
    rw [Char.isAlphanum, Column.isAlpha_of_mem_letters address.column letter member, Bool.true_or]
  · intro digit member
    rw [Char.isAlphanum, Text.isDigits_toDigits (address.row + 1) digit member, Bool.or_true]

theorem name_eq_cons (address : CellAddress) :
    ∃ first following, address.name = first :: following ∧ first.isAlpha = true := by
  obtain ⟨first, following, lettersEq⟩ :=
    List.exists_cons_of_ne_nil (Column.letters_ne_nil address.column)
  have isAlpha := Column.isAlpha_of_mem_letters address.column first
    (lettersEq ▸ List.mem_cons_self)
  exact ⟨first, _, by rw [name, lettersEq, List.cons_append], isAlpha⟩

end CellAddress

end SheetEditor
