import SheetEditor.Proofs.Draft.Targets
import SheetEditor.Proofs.Formula.LetterCase
import SheetEditor.Proofs.Formula.Respelling
import SheetEditor.Proofs.Grid.NameReading

/-!
Contract: all readers of cells read the same cells.

Owns: that the identifiers of a formula, the references of a draft, the names of
cells and whole formulas that are one cell are read alike, and from which texts.

Does not own: cells inside of a longer formula (`SheetEditor.Proofs.Formula.Respelling`),
and the texts that are read as the name of a cell only
(`SheetEditor.Proofs.Grid.NameReading`).
-/

namespace SheetEditor

variable {text : Text} {address : CellAddress} {columnAbsolute rowAbsolute : Bool}

/-! ## Names -/

/-- A written cell is read as a name too, whatever its marks. -/
theorem CellAddress.ofName?_text {cell : WrittenCell} (spelled : cell.WellSpelled)
    (isAddress : cell.address? = some address) : ofName? cell.text = some address := by
  have solid : ∀ character ∈ cell.text, isBlank character = false := by
    intro character member
    have inside := spelled.inCell character member
    rw [WrittenCell.inCell, Bool.or_eq_true, decide_eq_true_iff] at inside
    rcases inside with isAlphanum | rfl
    · exact isBlank_of_isAlphanum isAlphanum
    · rfl
  have kept {inside : Char → Bool} (unmarked : inside '$' = false) {run : Text}
      (members : ∀ character ∈ run, inside character = true) :
      run.filter (fun character => decide (character ≠ '$')) = run := by
    rw [List.filter_eq_self]
    intro character member
    rw [decide_eq_true_iff]
    rintro rfl
    rw [members _ member] at unmarked
    cases unmarked
  have marker (marked : Bool) :
      (if marked then ['$'] else ([] : Text)).filter (fun character => decide (character ≠ '$')) =
        [] := by
    cases marked <;> rfl
  refine ofName?_eq_some_iff.mpr ⟨cell, spelled, ?_, isAddress⟩
  rw [Text.trim_eq_self solid, WrittenCell.text]
  simp only [List.filter_append, marker, kept rfl spelled.letters_alphabetic,
    kept rfl spelled.digits_decimal, List.nil_append, List.append_nil]

/-! ## References of a draft -/

namespace Draft

/-- A text without a qualifier is all of it the area. -/
theorem splitQualifier?_eq_none {area : Text} (split : splitQualifier? text = some (none, area)) :
    area = text := by
  cases text with
  | nil =>
      cases split
      rfl
  | cons first following =>
      rw [splitQualifier?] at split
      split at split
      · obtain ⟨⟨name, count⟩, -, found⟩ := Option.bind_eq_some_iff.mp split
        dsimp only at found
        split at found
        · split at found <;> cases found
        · cases found
      · dsimp only at split
        split at split
        · split at split <;> cases split
        · cases split
          rfl

/-- A text without a colon is a reference to one cell if it spells the cell. -/
theorem Target.ofText?_single_iff :
    ':' ∉ text ∧ ofText? text = some ⟨.single address, none⟩ ↔
      ∃ cell : WrittenCell, cell.WellSpelled ∧ cell.text = text ∧
        cell.address? = some address := by
  constructor
  · rintro ⟨noColon, resolves⟩
    obtain ⟨⟨sheet, area⟩, split, inArea⟩ := Option.bind_eq_some_iff.mp resolves
    obtain ⟨range, isRange, same⟩ := Option.bind_eq_some_iff.mp inArea
    obtain ⟨rfl, rfl⟩ := Target.mk.inj (Option.some.inj same)
    obtain rfl := splitQualifier?_eq_none split
    obtain ⟨⟨cell, rest⟩, read, found⟩ := Option.bind_eq_some_iff.mp isRange
    cases rest with
    | nil =>
        obtain ⟨spelled, written⟩ := WrittenCell.read?_eq_some_iff.mp read
        obtain ⟨first, inSheet, same⟩ := Option.map_eq_some_iff.mp found
        obtain ⟨rfl, -⟩ := CellRange.mk.inj same
        exact ⟨cell, spelled, written, inSheet⟩
    | cons next others =>
        have isColon : next = ':' := by
          by_contra other
          simp [other] at found
        refine absurd ?_ noColon
        rw [WrittenCell.eq_append_of_read? read, isColon]
        simp
  · rintro ⟨cell, spelled, rfl, inSheet⟩
    have plain {mark : Char} (outside : WrittenCell.inCell mark = false) : mark ∉ cell.text := by
      intro member
      rw [spelled.inCell mark member] at outside
      cases outside
    refine ⟨plain rfl, ?_⟩
    rw [ofText?_unqualified fun character member =>
      ⟨fun same => plain rfl (same ▸ member), fun same => plain rfl (same ▸ member)⟩]
    rw [Target.rangeOf?, WrittenCell.read?_eq_some_iff.mpr ⟨spelled, rfl⟩]
    simp only [Option.bind_eq_bind, Option.bind_some, inSheet, Option.map_some]

end Draft

/-! ## Formulas -/

namespace Formula

/-- An identifier is a cell if it spells the cell. -/
theorem Token.ofIdentifier_eq_cell_iff :
    ofIdentifier text = .ok (.cell address columnAbsolute rowAbsolute) ↔
      ∃ cell : WrittenCell, cell.WellSpelled ∧ cell.text = text ∧ cell.address? = some address ∧
        cell.columnAbsolute = columnAbsolute ∧ cell.rowAbsolute = rowAbsolute := by
  constructor
  · intro named
    rcases ofIdentifier_cases named with ⟨cell, _, read, inSheet, same⟩ | ⟨_, _, isName⟩
    · obtain ⟨rfl, rfl, rfl⟩ := Token.cell.inj same
      obtain ⟨spelled, written⟩ := WrittenCell.read?_eq_some_iff.mp read
      exact ⟨cell, spelled, written, inSheet, rfl, rfl⟩
    · cases isName
  · rintro ⟨cell, spelled, rfl, inSheet, rfl, rfl⟩
    rw [ofIdentifier_cell spelled, inSheet]

namespace Token

/-- The number that digits denote, if it has no more than 64 bits. -/
def wordValue? (digits : Text) : Option Nat :=
  if Text.digitsValue digits < 18446744073709551616 then some (Text.digitsValue digits) else none

/-- Reads a cell as the scanner of the program does: in upper case, one part after the other is cut
off, a mark, all capital letters and a mark again, and digits have to be left. -/
def cellByParts? (identifier : Text) : Option Token :=
  let (columnAbsolute, fromLetters) := WrittenCell.splitMarker identifier.upper
  let letters := fromLetters.takeWhile Char.isUpper
  let (rowAbsolute, digits) := WrittenCell.splitMarker (fromLetters.drop letters.length)
  if digits = [] || !digits.all Char.isDigit then none
  else do
    let column ← Column.number? letters
    let row ← wordValue? digits
    let address ← CellAddress.ofOneBased? row column
    some (.cell address columnAbsolute rowAbsolute)

/-- No row of the sheet has a number of more than 64 bits. -/
theorem bind_wordValue? (digits : Text) (column : Nat) :
    ((wordValue? digits).bind fun row => CellAddress.ofOneBased? row column) =
      CellAddress.ofOneBased? (Text.digitsValue digits) column := by
  unfold wordValue?
  split
  · rfl
  · next large =>
      have beyond : rowCount < Text.digitsValue digits := by
        unfold rowCount
        omega
      rw [CellAddress.ofOneBased?, if_pos (by simp [beyond])]
      rfl

/-- Both ways of reading a cell find the same cells. -/
theorem cellByParts?_eq_some_iff :
    cellByParts? text = some (.cell address columnAbsolute rowAbsolute) ↔
      ofIdentifier text = .ok (.cell address columnAbsolute rowAbsolute) := by
  constructor
  · intro read
    unfold cellByParts? at read
    dsimp only at read
    obtain ⟨decimal, read⟩ := Option.ite_none_left_eq_some.mp read
    obtain ⟨column, isColumn, read⟩ := Option.bind_eq_some_iff.mp read
    obtain ⟨row, isRow, read⟩ := Option.bind_eq_some_iff.mp read
    obtain ⟨found, inSheet, same⟩ := Option.bind_eq_some_iff.mp read
    obtain ⟨rfl, rfl, rfl⟩ := Token.cell.inj (Option.some.inj same)
    simp only [Bool.or_eq_true, decide_eq_true_eq, Bool.not_eq_true', not_or, Bool.not_eq_false,
      List.all_eq_true] at decimal
    obtain ⟨nonempty, short, alphabetic, -⟩ := Column.number?_eq_some_iff.mp isColumn
    refine ofIdentifier_upper_eq_ok_iff.mp (ofIdentifier_eq_cell_iff.mpr ⟨⟨_, _, _, _⟩,
      ⟨nonempty, short, alphabetic, decimal.1, decimal.2⟩, ?_, ?_, rfl, rfl⟩)
    · simp only [WrittenCell.text, List.append_assoc]
      rw [WrittenCell.marker_append, ← List.prefix_append_drop (List.takeWhile_prefix _),
        WrittenCell.marker_append]
    · rw [WrittenCell.address?, isColumn]
      change CellAddress.ofOneBased? _ column = some _
      rw [← bind_wordValue?, isRow]
      exact inSheet
  · intro named
    obtain ⟨cell, spelled, written, inSheet, rfl, rfl⟩ :=
      ofIdentifier_eq_cell_iff.mp (ofIdentifier_upper_eq_ok_iff.mpr named)
    have capitals : ∀ letter ∈ cell.letters, letter.isUpper = true := by
      intro letter member
      have inText : letter ∈ text.upper := by
        rw [← written, WrittenCell.text]
        simp [member]
      obtain ⟨character, -, rfl⟩ := List.mem_map.mp inText
      have isAlpha := spelled.letters_alphabetic _ member
      obtain ⟨small, isLetter⟩ := Column.letter_of_isAlpha isAlpha
      rw [← toUpper_toUpper, ← isLetter]
      exact (Column.letter_spec small).1
    have parts := spelled.splitMarker_text []
    rw [List.append_nil, List.append_nil] at parts
    have noCapital (digit : Char) (isDigit : digit.isDigit = true) : digit.isUpper = false := by
      have noLetter := not_isAlpha_of_isDigit isDigit
      exact (Bool.or_eq_false_iff.mp noLetter).1
    have noMarker (digit : Char) (isDigit : digit.isDigit = true) : decide (digit = '$') = false := by
      rw [decide_eq_false_iff_not]
      rintro rfl
      cases isDigit
    have lettersEq := Text.takeWhile_run capitals (spelled.stops_row noCapital rfl [])
    have digitsEq := WrittenCell.splitMarker_marker cell.rowAbsolute
      (WrittenCell.stops_run [] spelled.digits_ne_nil spelled.digits_decimal noMarker)
    rw [List.append_nil] at lettersEq digitsEq
    unfold cellByParts?
    rw [← written, parts]
    dsimp only
    rw [lettersEq, List.drop_left, digitsEq]
    dsimp only
    obtain ⟨isColumn, isRow, inBounds⟩ := WrittenCell.address?_eq_some_iff.mp inSheet
    have isAddress := CellAddress.ofOneBased?_eq_some_iff.mpr ⟨isRow, rfl, inBounds⟩
    rw [← bind_wordValue?] at isAddress
    obtain ⟨row, fits, isAddress⟩ := Option.bind_eq_some_iff.mp isAddress
    rw [if_neg (by simpa [spelled.digits_ne_nil] using spelled.digits_decimal), isColumn]
    simp only [Option.bind_eq_bind, Option.bind_some, fits, isAddress]

end Token

/-- A cell is a formula of its own. -/
theorem parse_cell (short : text.length ≤ lengthLimit)
    (named : Token.ofIdentifier text = .ok (.cell address columnAbsolute rowAbsolute)) :
    parse text = .ok (.cell none address columnAbsolute rowAbsolute) := by
  obtain ⟨cell, spelled, rfl, -⟩ := Token.ofIdentifier_eq_cell_iff.mp named
  have alone : Lexeme.Apart [⟨cell.text, some (.cell address columnAbsolute rowAbsolute)⟩] :=
    .cons (isStep_cell spelled named) Text.stops_nil .nil
  have scanned := alone.scanned 0
  simp only [Lexeme.written_cons, Lexeme.written_nil, List.append_nil] at scanned
  exact parse_of_single short scanned rfl (.reference (.cell address columnAbsolute rowAbsolute))

end Formula

/-! ## All readers -/

/-- A text is a cell as an identifier exactly if it has no colon and is a reference to this one cell,
without a sheet, in a draft. It is the name of the cell as well then, and as a formula, if it is not
too long for one, it is the cell with the marks that stand before its letters and its digits. -/
theorem Formula.cell_readers_agree (text : Text) (address : CellAddress) :
    ((∃ columnAbsolute rowAbsolute,
        Token.ofIdentifier text = .ok (.cell address columnAbsolute rowAbsolute)) ↔
      ':' ∉ text ∧ Draft.Target.ofText? text = some ⟨.single address, none⟩) ∧
    ∀ columnAbsolute rowAbsolute,
      (Token.ofIdentifier text = .ok (.cell address columnAbsolute rowAbsolute) ↔
        Token.cellByParts? text = some (.cell address columnAbsolute rowAbsolute)) ∧
      (Token.ofIdentifier text = .ok (.cell address columnAbsolute rowAbsolute) →
        CellAddress.ofName? text = some address ∧
        (text.length ≤ lengthLimit →
          parse text = .ok (.cell none address columnAbsolute rowAbsolute)) ∧
        ∃ cell : WrittenCell, cell.WellSpelled ∧ cell.text = text ∧
          cell.columnAbsolute = columnAbsolute ∧ cell.rowAbsolute = rowAbsolute) := by
  refine ⟨?_, fun columnAbsolute rowAbsolute =>
    ⟨Token.cellByParts?_eq_some_iff.symm, fun named => ?_⟩⟩
  · simp only [Token.ofIdentifier_eq_cell_iff, Draft.Target.ofText?_single_iff]
    constructor
    · rintro ⟨_, _, cell, spelled, written, inSheet, -, -⟩
      exact ⟨cell, spelled, written, inSheet⟩
    · rintro ⟨cell, spelled, written, inSheet⟩
      exact ⟨_, _, cell, spelled, written, inSheet, rfl, rfl⟩
  · obtain ⟨cell, spelled, written, inSheet, columnEq, rowEq⟩ :=
      Token.ofIdentifier_eq_cell_iff.mp named
    refine ⟨?_, fun short => parse_cell short named, cell, spelled, written, columnEq, rowEq⟩
    rw [← written]
    exact CellAddress.ofName?_text spelled inSheet

/-- The last cell of the sheet, with its letters in both cases, a mark before its row only, and zeros
before the row. -/
theorem Formula.cell_readers_agree_on_last_cell :
    let text : Text := "xFd$001048576".toList
    let last : CellAddress := ⟨1048575, 16383⟩
    Token.ofIdentifier text = .ok (.cell last false true) ∧
      (':' ∉ text ∧ Draft.Target.ofText? text = some ⟨.single last, none⟩) ∧
      CellAddress.ofName? text = some last ∧ text.length ≤ lengthLimit ∧
      parse text = .ok (.cell none last false true) := by
  intro text last
  have read : Token.cellByParts? text = some (.cell last false true) := by decide +kernel
  have short : text.length ≤ lengthLimit := by decide
  obtain ⟨inDraft, others⟩ := cell_readers_agree text last
  obtain ⟨byParts, inOthers⟩ := others false true
  have named := byParts.mpr read
  obtain ⟨isName, isFormula, -⟩ := inOthers named
  exact ⟨named, inDraft.mp ⟨false, true, named⟩, isName, short, isFormula short⟩

end SheetEditor
