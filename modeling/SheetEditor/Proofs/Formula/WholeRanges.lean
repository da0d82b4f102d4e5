import SheetEditor.Proofs.Draft.WholeRanges
import SheetEditor.Proofs.Formula.Call
import SheetEditor.Proofs.Formula.Respelling
import SheetEditor.Proofs.Numeric.WholeNumber
import SheetEditor.Proofs.Workbook.Numbering

/-!
Contract: whole columns and whole rows read as ranges of the sheet.

Owns: the tokens of the columns and rows that a range names, the ranges that formulas of
one whole range are, and the rows that no formula can name.

Does not own: the single reference that a draft makes of the same text
(`SheetEditor.Proofs.Draft.WholeRanges`).

A column is an identifier, its mark included, and a row is a number. A number has no mark, so
the strict scan takes a marked row for an identifier that is none.
-/

namespace SheetEditor

/-- The whole columns or rows that a written range means on a sheet. -/
def WholeRange.expression (sheet : Option Text) : WholeRange → Expr
  | .columns first last => .columns sheet first.column last.column
  | .rows first last => .rows sheet first.row last.row

/-- The first marked row of a range. -/
def WholeRange.markedRow? : WholeRange → Option WrittenRow
  | .columns _ _ => none
  | .rows first last => [first, last].find? WrittenRow.absolute

namespace Formula

open Text (Stops)

variable {text rest : Text} {tokens : List Token}

/-! ## Failures -/

/-- The scan fails on a text, wherever in a body the text stands. -/
def Fails (text : Text) (failure : ParseError) : Prop :=
  ∀ position, Token.scanFrom position text = .error failure

theorem Lexeme.IsStep.fails {lexeme : Lexeme} (isStep : lexeme.IsStep) {failure : ParseError}
    (stops : Stops (Token.continuedBy lexeme.token) rest) (later : Fails rest failure) :
    Fails (lexeme.text ++ rest) failure := by
  obtain ⟨first, following, text, step⟩ := isStep
  intro position
  rw [text, List.cons_append, Token.scanFrom, step position rest stops]
  simp only [bind, Except.bind, List.drop_left, later _]

/-- A short body on which the scan fails is refused with that failure. -/
theorem parse_of_fails {body : Text} {failure : ParseError} (short : body.length ≤ lengthLimit)
    (fails : Fails body failure) : parse body = .error failure := by
  unfold parse
  rw [if_neg (Nat.not_lt.mpr short), Token.scanAll, fails 0]
  rfl

/-! ## Lexemes -/

namespace Lexeme

theorem isStep_qualifier {sheet : Text} (nonempty : sheet ≠ []) :
    IsStep ⟨SheetName.qualifier sheet, some (.qualifier sheet)⟩ := by
  obtain ⟨first, following, written, step⟩ := exists_qualifier_step nonempty
  exact ⟨first, following, written, fun position rest _ => step position rest⟩

theorem isStep_colon : IsStep ⟨[':'], some .colon⟩ := ⟨':', [], rfl, fun _ _ _ => rfl⟩

theorem isStep_digits {digits : Text} (nonempty : digits ≠ [])
    (decimal : ∀ digit ∈ digits, digit.isDigit = true) {value : Binary64}
    (read : Binary64.read? digits = some value) : IsStep ⟨digits, some (.number value)⟩ := by
  obtain ⟨first, following, rfl⟩ := List.exists_cons_of_ne_nil nonempty
  rw [List.forall_mem_cons] at decimal
  refine ⟨first, following, rfl, fun position rest stops => ?_⟩
  have numberStops := Token.stops_continuesDigits stops
  have inside : ∀ character ∈ following, (character.isDigit || decide (character = '.')) = true :=
    fun character member => by rw [decimal.2 character member, Bool.true_or]
  rw [Token.scan_of_isDigit position decimal.1, Token.scanNumber]
  dsimp only
  rw [Text.takeWhile_run inside (Token.stops_digitOrPoint numberStops), List.drop_left,
    Decimal.exponentLength_eq_zero numberStops, Nat.add_zero, List.take_left, read]

end Lexeme

/-! ## Columns -/

section Columns

variable (column : WrittenColumn)

theorem dropWhile_column : column.text.dropWhile (· = '$') = column.letters := by
  have unmarked : column.letters.dropWhile (· = '$') = column.letters := by
    obtain ⟨letter, others, lettersEq⟩ := List.exists_cons_of_ne_nil column.letters_ne_nil
    have isAlpha := column.letters_alphabetic letter (lettersEq ▸ List.mem_cons_self)
    have notMarker : letter ≠ '$' := by
      rintro rfl
      cases isAlpha
    simp [lettersEq, notMarker]
  unfold WrittenColumn.text marker
  cases column.absolute with
  | true => exact unmarked
  | false => exact unmarked

theorem number?_column : Column.number? column.letters = some (column.column + 1) := by
  rw [← Column.number?_upper, column.spelled, Column.number?_letters column.inBounds]

/-- A column is a name, since it has no row. -/
theorem ofIdentifier_column :
    Token.ofIdentifier column.text = .ok (.identifier column.text.upper) := by
  have unread : WrittenCell.read? column.text = none := by
    simpa using Draft.read?_column column Text.stops_nil
  unfold Token.ofIdentifier
  rw [unread, dropWhile_column, number?_column]
  simp

theorem isStep_column : Lexeme.IsStep ⟨column.text, some (.identifier column.text.upper)⟩ := by
  have named := ofIdentifier_column column
  have inside : ∀ character ∈ column.letters, WrittenCell.inCell character = true :=
    fun letter member => WrittenCell.inCell_of_isAlpha (column.letters_alphabetic letter member)
  have word {first : Char} {following : Text} (textEq : column.text = first :: following)
      (begins : Token.beginsIdentifier first = true)
      (inside : ∀ character ∈ following, WrittenCell.inCell character = true) :
      Lexeme.IsStep ⟨column.text, some (.identifier column.text.upper)⟩ := by
    have whole := Token.identifierLength_inCell inside (Text.stops_nil : Stops _ [])
    rw [List.append_nil] at whole
    rw [textEq] at named ⊢
    exact Lexeme.isStep_word begins whole named
  cases absolute : column.absolute with
  | true => exact word (by rw [WrittenColumn.text, absolute]; rfl) rfl inside
  | false =>
      obtain ⟨letter, others, lettersEq⟩ := List.exists_cons_of_ne_nil column.letters_ne_nil
      have isAlpha := column.letters_alphabetic letter (lettersEq ▸ List.mem_cons_self)
      refine word (by rw [WrittenColumn.text, absolute, lettersEq]; rfl)
        (by simp [Token.beginsIdentifier, isAlpha]) fun character member => ?_
      exact inside character (lettersEq ▸ List.mem_cons_of_mem _ member)

theorem number?_identifier :
    Column.number? (column.text.upper.dropWhile (· = '$')) = some (column.column + 1) := by
  have unmarked (character : Char) : decide (character.toUpper = '$') = decide (character = '$') :=
    decide_eq_decide.mpr (toUpper_eq_iff rfl)
  rw [Text.dropWhile_upper unmarked, dropWhile_column, Column.number?_upper, number?_column]

end Columns

/-! ## Rows -/

section Rows

variable (row : WrittenRow)

/-- A row without a mark is a number. -/
theorem exists_number (unmarked : row.absolute = false) :
    ∃ value, Lexeme.IsStep ⟨row.text, some (.number value)⟩ ∧
      value.wholeNumber? = some (row.row + 1 : Nat) := by
  have inBounds := row.inBounds
  have small : row.row + 1 < 2 ^ 53 := by
    unfold rowCount at inBounds
    omega
  obtain ⟨value, read, whole⟩ := Binary64.exists_read?_toDigits (Nat.succ_pos row.row) small
  have textEq : row.text = row.digits := by rw [WrittenRow.text, unmarked]; rfl
  rw [textEq]
  exact ⟨value, Lexeme.isStep_digits row.digits_ne_nil row.digits_decimal read, whole⟩

/-- A marked row is an identifier, of which the mark stands in front of no column. -/
theorem ofIdentifier_row (marked : row.absolute = true) :
    Token.ofIdentifier row.text = .error (.invalidReference row.text) := by
  have unread : WrittenCell.read? row.text = none := by
    simpa using Draft.read?_row row []
  have textEq : row.text = '$' :: row.digits := by rw [WrittenRow.text, marked]; rfl
  have noColumn : Column.number? (row.text.dropWhile (· = '$')) = none := by
    by_contra isColumn
    obtain ⟨column, found⟩ := Option.ne_none_iff_exists'.mp isColumn
    obtain ⟨digit, others, digitsEq⟩ := List.exists_cons_of_ne_nil row.digits_ne_nil
    have isDigit := row.digits_decimal digit (digitsEq ▸ List.mem_cons_self)
    rcases lettered_of_number? found digit (by simp [textEq, digitsEq]) with isAlpha | rfl
    · rw [not_isAlpha_of_isDigit isDigit] at isAlpha
      cases isAlpha
    · cases isDigit
  unfold Token.ofIdentifier
  rw [unread, noColumn]
  simp [textEq]

/-- No scan reads past a marked row. -/
theorem fails_markedRow (marked : row.absolute = true) (stops : Stops continuesIdentifier rest) :
    Fails (row.text ++ rest) (.invalidReference row.text) := by
  have textEq : row.text = '$' :: row.digits := by rw [WrittenRow.text, marked]; rfl
  have inside : ∀ digit ∈ row.digits, WrittenCell.inCell digit = true :=
    fun digit member => WrittenCell.inCell_of_isDigit (row.digits_decimal digit member)
  have length := Token.identifierLength_inCell inside (Token.stops_inIdentifier stops)
  have named := ofIdentifier_row row marked
  rw [textEq] at named ⊢
  intro position
  rw [List.cons_append, Token.scanFrom, Token.scan_of_beginsIdentifier position rfl,
    Token.scanIdentifier_unmarked length stops, named]
  rfl

end Rows

/-! ## Whole ranges -/

/-- No brackets and no signs are in a reference. -/
theorem Refers.isShallow {sheet : Option Text} {value : Expr} (refers : Refers sheet tokens value) :
    isShallow tokens = true ∧ ∀ name, isShallow (.qualifier name :: tokens) = true := by
  cases refers with
  | cell | range | columns | rows => exact ⟨rfl, fun _ => rfl⟩

/-- Two lexemes around a colon. -/
theorem apart_pair {first last : Lexeme} (firstStep : first.IsStep) (lastStep : last.IsStep)
    (stops : Token.continuedBy first.token ':' = false) :
    Lexeme.Apart [first, ⟨[':'], some .colon⟩, last] :=
  .cons firstStep (Text.stops_cons.mpr stops)
    (.cons Lexeme.isStep_colon (fun _ _ => rfl) (.cons lastStep Text.stops_nil .nil))

/-- The lexemes of a range without marked rows refer to the columns or rows of the range. -/
theorem exists_lexemes_of_wholeRange {range : WholeRange} (unmarked : range.markedRow? = none) :
    ∃ lexemes, Lexeme.Apart lexemes ∧ Lexeme.written lexemes = range.text ∧
      ∀ sheet, Refers sheet (Lexeme.tokens lexemes) (range.expression sheet) := by
  cases range with
  | columns first last =>
      refine ⟨_, apart_pair (isStep_column first) (isStep_column last) rfl, ?_, fun sheet => ?_⟩
      · simp [WholeRange.text]
      · exact .columns (number?_identifier first) (number?_identifier last)
          ⟨first.inBounds, last.inBounds⟩
  | rows first last =>
      obtain ⟨firstUnmarked, lastUnmarked⟩ : first.absolute = false ∧ last.absolute = false := by
        simpa [WholeRange.markedRow?] using unmarked
      obtain ⟨start, startStep, startWhole⟩ := exists_number first firstUnmarked
      obtain ⟨stop, stopStep, stopWhole⟩ := exists_number last lastUnmarked
      have inBounds (row : WrittenRow) : 1 ≤ ((row.row + 1 : Nat) : Int) ∧
          ((row.row + 1 : Nat) : Int) ≤ rowCount := by
        have inBounds := row.inBounds
        omega
      refine ⟨_, apart_pair startStep stopStep rfl, ?_, fun sheet => ?_⟩
      · simp [WholeRange.text]
      · exact .rows startWhole stopWhole (inBounds first) (inBounds last)

/-- The scan of a range with a marked row fails there. -/
theorem fails_wholeRange {range : WholeRange} {row : WrittenRow}
    (marked : range.markedRow? = some row) : Fails range.text (.invalidReference row.text) := by
  cases range with
  | columns first last => cases marked
  | rows first last =>
      rw [WholeRange.text]
      cases firstMarked : first.absolute with
      | true =>
          obtain rfl : first = row := by
            simpa [WholeRange.markedRow?, firstMarked] using marked
          exact fails_markedRow first firstMarked (Text.stops_cons.mpr rfl)
      | false =>
          obtain ⟨lastMarked, rfl⟩ : last.absolute = true ∧ last = row := by
            rw [WholeRange.markedRow?, List.find?_cons, firstMarked, List.find?_singleton] at marked
            simpa using marked
          obtain ⟨value, isStep, _⟩ := exists_number first firstMarked
          have later : Fails ([':'] ++ last.text) (.invalidReference last.text) := by
            refine Lexeme.isStep_colon.fails (fun _ _ => rfl) ?_
            simpa using fails_markedRow last lastMarked Text.stops_nil
          exact isStep.fails (Text.stops_cons.mpr rfl) later

/-- What a formula of one whole range is, without or with a sheet: a marked row is refused. -/
def WholeRange.outcome (sheet : Option Text) (range : WholeRange) : Except ParseError Expr :=
  match range.markedRow? with
  | some row => .error (.invalidReference row.text)
  | none => .ok (range.expression sheet)

theorem parse_wholeRange (range : WholeRange) (short : range.text.length ≤ lengthLimit) :
    parse range.text = WholeRange.outcome none range := by
  unfold WholeRange.outcome
  cases marked : range.markedRow? with
  | some row => exact parse_of_fails short (fails_wholeRange marked)
  | none =>
      obtain ⟨lexemes, apart, written, refers⟩ := exists_lexemes_of_wholeRange marked
      rw [← written] at short ⊢
      exact parse_of_single short (apart.scanned 0) (refers none).isShallow.1
        (.reference (refers none))

theorem parse_qualified_wholeRange {sheet : Text} (nonempty : sheet ≠ []) (range : WholeRange)
    (short : (SheetName.qualifier sheet ++ range.text).length ≤ lengthLimit) :
    parse (SheetName.qualifier sheet ++ range.text) = WholeRange.outcome (some sheet) range := by
  have isStep := Lexeme.isStep_qualifier nonempty
  unfold WholeRange.outcome
  cases marked : range.markedRow? with
  | some row => exact parse_of_fails short (isStep.fails (fun _ _ => rfl) (fails_wholeRange marked))
  | none =>
      obtain ⟨lexemes, apart, written, refers⟩ := exists_lexemes_of_wholeRange marked
      have scanned := scanned_qualifier nonempty (written ▸ apart.scanned)
      exact parse_of_single short (scanned 0) ((refers (some sheet)).isShallow.2 sheet)
        (.qualified (refers (some sheet)))

/-! ## Lengths -/

theorem length_marker_le (absolute : Bool) : (marker absolute).length ≤ 1 := by
  cases absolute <;> decide

theorem length_wholeRange_le (range : WholeRange) : range.text.length ≤ 17 := by
  cases range with
  | columns first last =>
      have firstMarker := length_marker_le first.absolute
      have lastMarker := length_marker_le last.absolute
      have firstLetters := first.length_letters_le
      have lastLetters := last.length_letters_le
      simp only [WholeRange.text, WrittenColumn.text, List.length_append, List.length_cons]
      omega
  | rows first last =>
      have firstMarker := length_marker_le first.absolute
      have lastMarker := length_marker_le last.absolute
      have firstDigits := first.length_digits_le
      have lastDigits := last.length_digits_le
      simp only [WholeRange.text, WrittenRow.text, List.length_append, List.length_cons]
      omega

theorem length_qualifier_le (name : Text) :
    (SheetName.qualifier name).length ≤ 2 * name.length + 3 := by
  have doubled := Text.length_doubleQuotes_le SheetName.quote name
  unfold SheetName.qualifier
  split <;> simp only [List.length_append, List.length_cons, List.length_nil] <;> omega

/-- Whole columns, and whole rows of which none is marked, read as ranges of the sheet, with the
qualifier of a sheet as well as without one. Blanks around the name of the sheet could make the
formula too long, but nothing else could. A marked row is refused, although the range is one
reference of a draft. -/
theorem whole_ranges_read_unless_row_marked (range : WholeRange) :
    Draft.Token.scanAll range.text = [⟨.reference, range.text, 0⟩] ∧
      parse range.text = WholeRange.outcome none range ∧
      ∀ name, SheetName.isValid name = true →
        Draft.Token.scanAll (SheetName.qualifier name ++ range.text) =
            [⟨.reference, SheetName.qualifier name ++ range.text, 0⟩] ∧
          (name.trim = name ∨ (SheetName.qualifier name ++ range.text).length ≤ lengthLimit →
            parse (SheetName.qualifier name ++ range.text) =
              WholeRange.outcome (some name) range) := by
  have rangeFits := length_wholeRange_le range
  refine ⟨Draft.scanAll_wholeRange range, parse_wholeRange range (by unfold lengthLimit; omega),
    fun name valid => ?_⟩
  have nonempty : name ≠ [] := by
    rintro rfl
    exact SheetName.trim_ne_nil_of_isValid valid rfl
  refine ⟨Draft.scanAll_qualified_wholeRange nonempty range, fun fits => ?_⟩
  refine parse_qualified_wholeRange nonempty range ?_
  rcases fits with trimmed | short
  · have nameFits := SheetName.length_trim_le_of_isValid valid
    rw [trimmed] at nameFits
    have qualifierFits := length_qualifier_le name
    rw [List.length_append]
    unfold SheetName.lengthLimit at nameFits
    unfold lengthLimit
    omega
  · exact short

/-- Columns in both letter cases on a sheet that needs quotes, and rows without and with a mark. -/
theorem whole_ranges_on_quoted_sheet :
    SheetName.isValid "It's".toList = true ∧ Text.trim "It's".toList = "It's".toList ∧
      parse "'It''s'!$a:XfD".toList = .ok (.columns (some "It's".toList) 0 16383) ∧
      parse "'It''s'!4:2".toList = .ok (.rows (some "It's".toList) 3 1) ∧
      parse "4:$2".toList = .error (.invalidReference "$2".toList) := by
  have valid : SheetName.isValid "It's".toList = true := by decide
  have trimmed : Text.trim "It's".toList = "It's".toList := by decide
  have onSheet (range : WholeRange) :=
    ((whole_ranges_read_unless_row_marked range).2.2 "It's".toList valid).2 (.inl trimmed)
  have columns := onSheet (.columns ⟨0, by decide, true, "a".toList, by decide +kernel⟩
    ⟨16383, by decide, false, "XfD".toList, by decide +kernel⟩)
  have rows := onSheet (.rows ⟨3, by decide, false⟩ ⟨1, by decide, false⟩)
  have marked := (whole_ranges_read_unless_row_marked
    (.rows ⟨3, by decide, false⟩ ⟨1, by decide, true⟩)).2.1
  exact ⟨valid, trimmed, columns, rows, marked⟩

/-- Not every whole range is read: marked rows are not. -/
theorem not_parse_marked_rows :
    ¬ ∀ range : WholeRange, parse range.text = .ok (range.expression none) := by
  intro accepted
  have accepted := accepted (.rows ⟨1, by decide, true⟩ ⟨3, by decide, true⟩)
  have refused : (parse "$2:$4".toList).isOk = false := by decide +kernel
  change parse "$2:$4".toList = _ at accepted
  rw [accepted] at refused
  cases refused

end Formula

end SheetEditor
