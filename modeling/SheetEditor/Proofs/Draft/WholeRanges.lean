import SheetEditor.Proofs.Draft.Picking
import SheetEditor.Proofs.Formula.LetterCase

/-!
Contract: whole columns and whole rows, as they are written, are one reference of a draft.

Owns: the columns and rows that a range names with or without `$` marks, the text of
such a range, and the token that it is.

Does not own: what the strict reader makes of the same text
(`SheetEditor.Proofs.Formula.WholeRanges`).
-/

namespace SheetEditor

open Text (Stops)

/-! ## Written columns and rows -/

/-- The mark of a fixed column or row, if it is fixed. -/
def marker (absolute : Bool) : Text := if absolute then ['$'] else []

/-- A column of the sheet as it is written: its letters, in either case, after an optional mark. -/
structure WrittenColumn where
  column : Nat
  inBounds : column < columnCount
  absolute : Bool
  letters : Text
  spelled : letters.upper = Column.letters column

/-- A row of the sheet as it is written: its number, counted from one, after an optional mark. -/
structure WrittenRow where
  row : Nat
  inBounds : row < rowCount
  absolute : Bool

namespace WrittenColumn

def text (column : WrittenColumn) : Text := marker column.absolute ++ column.letters

variable (column : WrittenColumn)

theorem letters_alphabetic : ∀ letter ∈ column.letters, letter.isAlpha = true := by
  intro letter member
  rw [← isAlpha_toUpper]
  refine Column.isAlpha_of_mem_letters column.column _ ?_
  rw [← column.spelled]
  exact List.mem_map_of_mem member

theorem letters_ne_nil : column.letters ≠ [] := by
  rw [ne_eq, ← Text.upper_eq_nil, column.spelled]
  exact Column.letters_ne_nil column.column

theorem length_letters_le : column.letters.length ≤ 3 := by
  rw [← Text.length_upper, column.spelled]
  exact Column.length_letters_le column.column column.inBounds

end WrittenColumn

namespace WrittenRow

def digits (row : WrittenRow) : Text := Nat.toDigits 10 (row.row + 1)

def text (row : WrittenRow) : Text := marker row.absolute ++ row.digits

variable (row : WrittenRow)

theorem digits_decimal : ∀ digit ∈ row.digits, digit.isDigit = true :=
  Text.isDigits_toDigits (row.row + 1)

theorem digits_ne_nil : row.digits ≠ [] := Nat.toDigits_ne_nil

theorem length_digits_le : row.digits.length ≤ 7 := by
  refine (Nat.length_toDigits_le_iff (by decide) (by decide)).mpr ?_
  have inBounds := row.inBounds
  unfold rowCount at inBounds
  omega

end WrittenRow

/-! ## Whole ranges -/

/-- Two written columns or two written rows around a colon. -/
inductive WholeRange where
  | columns (first last : WrittenColumn)
  | rows (first last : WrittenRow)

def WholeRange.text : WholeRange → Text
  | .columns first last => first.text ++ ':' :: last.text
  | .rows first last => first.text ++ ':' :: last.text

namespace Draft

variable {rest : Text}

/-- Letters or digits are no mark. -/
theorem splitMarker_run {inside : Char → Bool} (marked : Bool) {run : Text} (nonempty : run ≠ [])
    (members : ∀ character ∈ run, inside character = true) (apart : inside '$' = false)
    (rest : Text) :
    WrittenCell.splitMarker (marker marked ++ run ++ rest) = (marked, run ++ rest) := by
  rw [List.append_assoc]
  refine WrittenCell.splitMarker_marker marked ?_
  refine WrittenCell.stops_run rest nonempty members fun character isInside => ?_
  rw [decide_eq_false_iff_not]
  rintro rfl
  rw [apart] at isInside
  cases isInside

theorem splitMarker_column (column : WrittenColumn) (rest : Text) :
    WrittenCell.splitMarker (column.text ++ rest) = (column.absolute, column.letters ++ rest) :=
  splitMarker_run column.absolute column.letters_ne_nil column.letters_alphabetic rfl rest

theorem splitMarker_row (row : WrittenRow) (rest : Text) :
    WrittenCell.splitMarker (row.text ++ rest) = (row.absolute, row.digits ++ rest) :=
  splitMarker_run row.absolute row.digits_ne_nil row.digits_decimal rfl rest

theorem takeWhile_letters (column : WrittenColumn) (stops : Stops Char.isAlpha rest) :
    ((column.letters ++ rest).take 3).takeWhile Char.isAlpha = column.letters := by
  rw [Text.takeWhile_take, Text.takeWhile_run column.letters_alphabetic stops,
    List.take_of_length_le column.length_letters_le]

theorem takeWhile_row_letters (row : WrittenRow) (rest : Text) :
    ((row.digits ++ rest).take 3).takeWhile Char.isAlpha = [] := by
  have stops : Stops Char.isAlpha (row.digits ++ rest) :=
    WrittenCell.stops_run rest row.digits_ne_nil row.digits_decimal fun _ => not_isAlpha_of_isDigit
  rw [Text.takeWhile_take, ← List.nil_append (row.digits ++ rest),
    Text.takeWhile_run (List.forall_mem_nil _) stops, List.take_nil]

theorem length_marker (marked : Bool) : (marker marked).length = if marked then 1 else 0 := by
  cases marked <;> rfl

theorem columnLength?_column (column : WrittenColumn) (stops : Stops Char.isAlpha rest) :
    Token.columnLength? (column.text ++ rest) = some column.text.length := by
  rw [Token.columnLength?, splitMarker_column]
  dsimp only
  rw [takeWhile_letters column stops, if_neg column.letters_ne_nil, WrittenColumn.text,
    List.length_append, length_marker, Nat.add_comm]

theorem rowLength?_row (row : WrittenRow) (stops : Stops Char.isDigit rest) :
    Token.rowLength? (row.text ++ rest) = some row.text.length := by
  rw [Token.rowLength?, splitMarker_row]
  dsimp only
  rw [Text.takeWhile_run row.digits_decimal stops, if_neg row.digits_ne_nil, WrittenRow.text,
    List.length_append, length_marker, Nat.add_comm]

/-- Two parts around a colon are read as a pair. -/
theorem pairLength?_colon {part : Text → Option Nat} {first last : Text}
    (firstRead : part (first ++ ':' :: last) = some first.length)
    (lastRead : part last = some last.length) :
    Token.pairLength? part (first ++ ':' :: last) = some (first ++ ':' :: last).length := by
  unfold Token.pairLength?
  rw [firstRead]
  simp only [Option.bind_eq_bind, Option.bind_some, List.drop_left, lastRead, Option.map_some]
  rw [List.length_append, List.length_cons, Nat.add_assoc, Nat.add_comm 1]

/-- A column without a row is no cell. -/
theorem read?_column (column : WrittenColumn) (stops : Stops WrittenCell.inCell rest) :
    WrittenCell.read? (column.text ++ rest) = none := by
  have noLetter : Stops Char.isAlpha rest :=
    stops.mono fun _ => WrittenCell.inCell_of_isAlpha
  have noDigit : Stops Char.isDigit rest :=
    stops.mono fun _ => WrittenCell.inCell_of_isDigit
  have noMarker := WrittenCell.splitMarker_marker false (WrittenCell.stops_marker stops)
  unfold WrittenCell.read?
  rw [splitMarker_column]
  dsimp only
  rw [takeWhile_letters column noLetter, List.drop_left]
  simp only [Bool.false_eq_true, if_false, List.nil_append] at noMarker
  rw [noMarker]
  dsimp only
  rw [← List.nil_append rest, Text.takeWhile_run (List.forall_mem_nil _) noDigit]
  simp

theorem read?_row (row : WrittenRow) (rest : Text) :
    WrittenCell.read? (row.text ++ rest) = none := by
  unfold WrittenCell.read?
  rw [splitMarker_row]
  dsimp only
  rw [takeWhile_row_letters]
  simp

/-- A whole range is an area. -/
theorem areaLength?_wholeRange (range : WholeRange) :
    Token.areaLength? range.text = some range.text.length := by
  unfold Token.areaLength? Token.cellsLength?
  cases range with
  | columns first last =>
      have lastRead := columnLength?_column last Text.stops_nil
      rw [List.append_nil] at lastRead
      rw [WholeRange.text, read?_column first (Text.stops_cons.mpr rfl),
        pairLength?_colon (columnLength?_column first (Text.stops_cons.mpr rfl)) lastRead]
      rfl
  | rows first last =>
      have lastRead := rowLength?_row last Text.stops_nil
      rw [List.append_nil] at lastRead
      have noColumn : Token.columnLength? (first.text ++ ':' :: last.text) = none := by
        rw [Token.columnLength?, splitMarker_row]
        dsimp only
        rw [takeWhile_row_letters]
        rfl
      have noColumns : Token.pairLength? Token.columnLength? (first.text ++ ':' :: last.text) =
          none := by
        rw [Token.pairLength?, noColumn]
        rfl
      rw [WholeRange.text, read?_row, noColumns,
        pairLength?_colon (rowLength?_row first (Text.stops_cons.mpr rfl)) lastRead]
      rfl

/-! ## References -/

theorem qualifierLength?_marker (marked : Bool) {text : Text}
    (unqualified : Token.qualifierLength? text = none) :
    Token.qualifierLength? (marker marked ++ text) = none := by
  cases marked with
  | true => rfl
  | false => exact unqualified

theorem qualifierLength?_letters (column : WrittenColumn) (rest : Text) :
    Token.qualifierLength? (column.letters ++ ':' :: rest) = none := by
  have alphabetic := column.letters_alphabetic
  obtain ⟨letter, others, lettersEq⟩ := List.exists_cons_of_ne_nil column.letters_ne_nil
  rw [lettersEq] at alphabetic ⊢
  have isAlpha := alphabetic letter List.mem_cons_self
  have inside : ∀ character ∈ others, Token.inName character = true := fun character member =>
    Token.inName_of_begins (.inl (alphabetic character (List.mem_cons_of_mem _ member)))
  have length := Token.identifierLength?_run (.inl isAlpha) inside
    (Text.stops_cons.mpr rfl : Stops Token.inName (':' :: rest))
  rw [List.cons_append, Token.qualifierLength?, Token.qualifierNameLength?,
    if_neg (ne_quote_of_begins (.inl isAlpha)), length]
  simp

theorem qualifierLength?_digits (row : WrittenRow) (rest : Text) :
    Token.qualifierLength? (row.digits ++ rest) = none := by
  have decimal := row.digits_decimal
  obtain ⟨digit, others, digitsEq⟩ := List.exists_cons_of_ne_nil row.digits_ne_nil
  rw [digitsEq] at decimal ⊢
  obtain ⟨notLetter, notUnderscore, _, notQuote⟩ :=
    beginsNumeral_cases (.inl (decimal digit List.mem_cons_self))
  rw [List.cons_append, Token.qualifierLength?, Token.qualifierNameLength?, if_neg notQuote,
    Token.identifierLength?_eq_none_of_ne notLetter notUnderscore]
  rfl

/-- No qualifier begins like a column or a row in front of a colon. -/
theorem qualifierLength?_wholeRange (range : WholeRange) :
    Token.qualifierLength? range.text = none := by
  cases range with
  | columns first last =>
      rw [WholeRange.text, WrittenColumn.text, List.append_assoc]
      exact qualifierLength?_marker first.absolute (qualifierLength?_letters first _)
  | rows first last =>
      rw [WholeRange.text, WrittenRow.text, List.append_assoc]
      exact qualifierLength?_marker first.absolute (qualifierLength?_digits first _)

theorem referenceLength?_wholeRange (range : WholeRange) :
    Token.referenceLength? range.text = some range.text.length := by
  unfold Token.referenceLength?
  rw [qualifierLength?_wholeRange]
  simp [areaLength?_wholeRange, Token.isBoundary]

/-- A reference that takes a whole text is its only token. -/
theorem scanAll_reference {text : Text} (nonempty : text ≠ [])
    (found : Token.referenceLength? text = some text.length) :
    Token.scanAll text = [⟨.reference, text, 0⟩] := by
  obtain ⟨first, following, rfl⟩ := List.exists_cons_of_ne_nil nonempty
  rw [Token.scanAll, Token.scanFrom_cons, Token.classify_reference found]
  simp [Token.scanFrom]

theorem wholeRange_ne_nil (range : WholeRange) : range.text ≠ [] := by
  cases range <;> simp [WholeRange.text]

/-- A whole range is one reference. -/
theorem scanAll_wholeRange (range : WholeRange) :
    Token.scanAll range.text = [⟨.reference, range.text, 0⟩] :=
  scanAll_reference (wholeRange_ne_nil range) (referenceLength?_wholeRange range)

/-- It is one reference with the qualifier of a sheet, too. -/
theorem scanAll_qualified_wholeRange {sheet : Text} (nonempty : sheet ≠ []) (range : WholeRange) :
    Token.scanAll (SheetName.qualifier sheet ++ range.text) =
      [⟨.reference, SheetName.qualifier sheet ++ range.text, 0⟩] := by
  refine scanAll_reference (List.append_ne_nil_of_right_ne_nil _ (wholeRange_ne_nil range)) ?_
  rw [(qualifies_qualifier nonempty).referenceLength? (qualifierLength?_wholeRange range),
    referenceLength?_wholeRange, Option.map_some, List.length_append]

end Draft

end SheetEditor
