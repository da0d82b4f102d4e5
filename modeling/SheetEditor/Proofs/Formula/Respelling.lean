import SheetEditor.Proofs.Formula.Anchors
import SheetEditor.Proofs.Formula.Separation

/-!
Contract: a cell of a formula spelled with other marks.

Owns: the first lexeme of a text, lexemes in front of any other text, the token of a
written cell, and what becomes of an accepted formula when one of its cells gets
other `$` marks.

Does not own: which lexeme of a formula is spelled anew (`SheetEditor.Proofs.Draft.AnchorCycle`).

What is written like a cell outside of the sheet is a name, and a name has no marks.
So marks are harmless on a cell of the sheet only.
-/

namespace SheetEditor

open Text (Stops)

theorem Text.stops_of_append {continues : Char → Bool} {text rest : Text}
    (stops : Stops continues (text ++ rest)) : Stops continues text := by
  cases text with
  | nil => exact Text.stops_nil
  | cons first others => exact stops

variable {first : Char} {following word rest : Text} {cell other : WrittenCell}

namespace WrittenCell

/-- Marks do not matter for the spelling of a cell. -/
theorem WellSpelled.of_same (spelled : cell.WellSpelled) (letters : other.letters = cell.letters)
    (digits : other.digits = cell.digits) : other.WellSpelled := by
  obtain ⟨nonempty, short, alphabetic, digitsNonempty, decimal⟩ := spelled
  rw [← letters] at nonempty short alphabetic
  rw [← digits] at digitsNonempty decimal
  exact ⟨nonempty, short, alphabetic, digitsNonempty, decimal⟩

theorem address?_of_same (letters : other.letters = cell.letters)
    (digits : other.digits = cell.digits) : other.address? = cell.address? := by
  rw [address?, address?, letters, digits]

end WrittenCell

namespace Formula

/-! ## Words -/

namespace Token

theorem identifierLength_inCell (inside : ∀ character ∈ word, WrittenCell.inCell character = true)
    (stops : Stops inIdentifier rest) : identifierLength true (word ++ rest) = word.length := by
  induction word with
  | nil => exact identifierLength_word true (by simp) stops
  | cons character word inductionHypothesis =>
      rw [List.forall_mem_cons] at inside
      have continues : (character.isAlphanum || decide (character = '_') ||
          (true && decide (character = '$'))) = true := by
        have isInside := inside.1
        simp only [WrittenCell.inCell, Bool.or_eq_true] at isInside
        rcases isInside with isAlphanum | isMarker
        · rw [isAlphanum, Bool.true_or, Bool.true_or]
        · rw [isMarker, Bool.and_self, Bool.or_true]
      rw [List.cons_append, identifierLength, if_pos continues, inductionHypothesis inside.2]
      rfl

theorem scan_of_isDigit (position : Nat) (isDigit : first.isDigit = true) (following : Text) :
    scan position first following = scanNumber first following := by
  unfold scan
  split
  case h_25 => rw [if_pos (by rw [isDigit, Bool.true_or])]
  all_goals contradiction

/-- Digits are a numeral, if nothing after them goes on with it. -/
theorem length_of_scanNumber (decimal : ∀ character ∈ word, character.isDigit = true)
    (stops : Stops Decimal.continuesDigits rest) {token : Option Token} {count : Nat}
    (found : scanNumber first (word ++ rest) = .ok (token, count)) :
    ∃ value, token = some (.number value) ∧ count = word.length := by
  have inside : ∀ character ∈ word, (character.isDigit || decide (character = '.')) = true :=
    fun character member => by rw [decimal character member, Bool.true_or]
  unfold scanNumber at found
  dsimp only at found
  rw [Text.takeWhile_run inside (stops_digitOrPoint stops), List.drop_left,
    Decimal.exponentLength_eq_zero stops, Nat.add_zero] at found
  split at found
  · next value _ =>
      cases found
      exact ⟨value, rfl, rfl⟩
  · cases found

/-- What comes after a character that begins an identifier is read with the words before it. -/
theorem continuedBy_of_begins (begins : beginsIdentifier first = true) (token : Option Token) :
    continuedBy token first = token.any isWord := by
  have inside : continuesIdentifier first = true := by
    simp only [beginsIdentifier, Bool.or_eq_true, decide_eq_true_eq] at begins
    rcases begins with (isAlpha | rfl) | rfl
    · simp [continuesIdentifier, inIdentifier, Char.isAlphanum, isAlpha]
    · rfl
    · rfl
  have noMark (mark : Char) (notBegins : beginsIdentifier mark = false) : first ≠ mark := by
    rintro rfl
    rw [notBegins] at begins
    cases begins
  have notQuote := noMark '"' rfl
  have notEqual := noMark '=' rfl
  have notGreater := noMark '>' rfl
  cases token with
  | none => rfl
  | some token =>
      cases token with
      | number | cell | identifier => exact inside
      | text => simp [continuedBy, isWord, notQuote]
      | operator operator => cases operator <;> simp [continuedBy, isWord, notEqual, notGreater]
      | _ => rfl

end Token

/-! ## Lexemes one after another -/

namespace Lexeme

variable {lexemes before after : List Lexeme}

/-- The first lexeme is what the first step finds. -/
theorem Apart.exists_cons (apart : Apart lexemes) (writtenEq : written lexemes = first :: following)
    (position : Nat) :
    ∃ token count later, Token.scan position first following = .ok (token, count) ∧
      lexemes = ⟨first :: following.take count, token⟩ :: later ∧ Apart later ∧
      written later = following.drop count := by
  cases apart with
  | nil => cases writtenEq
  | @cons lexeme later isStep stops apartLater =>
      obtain ⟨text, token⟩ := lexeme
      obtain ⟨_, inside, rfl, step⟩ := isStep
      rw [written_cons, List.cons_append] at writtenEq
      obtain ⟨rfl, rfl⟩ := List.cons.inj writtenEq
      refine ⟨token, inside.length, later, step position (written later) stops, ?_, apartLater, ?_⟩
      · rw [List.take_left]
      · rw [List.drop_left]

/-- So it is spelled as a step allows. -/
theorem Apart.exists_scans {lexeme : Lexeme} {later : List Lexeme}
    (apart : Apart (lexeme :: later)) :
    ∃ first following token count, lexeme = ⟨first :: following.take count, token⟩ ∧
      Token.Scans first following token count ∧ count ≤ following.length ∧
      written later = following.drop count := by
  obtain ⟨first, inside, text, _⟩ := apart.head
  have writtenEq : written (lexeme :: later) = first :: (inside ++ written later) := by
    rw [written_cons, text, List.cons_append]
  obtain ⟨token, count, others, step, split, _, writtenLater⟩ := apart.exists_cons writtenEq 0
  obtain ⟨rfl, rfl⟩ := List.cons.inj split
  exact ⟨first, _, token, count, rfl, Token.scans_of_scan step, Token.le_of_scan step, writtenLater⟩

theorem Apart.cuts (apart : Apart lexemes) : Cuts (written lexemes) lexemes := by
  induction apart with
  | nil => exact .nil
  | @cons lexeme later isStep stops _ inductionHypothesis =>
      obtain ⟨text, token⟩ := lexeme
      obtain ⟨first, inside, rfl, step⟩ := isStep
      have scans := Token.scans_of_scan (step 0 (written later) stops)
      have cutsLater : Cuts ((inside ++ written later).drop inside.length) later := by
        rwa [List.drop_left]
      have cuts := Cuts.cons scans cutsLater
      rwa [List.take_left] at cuts

/-- A word is one lexeme. -/
theorem Apart.exists_word (apart : Apart lexemes) (begins : Token.beginsIdentifier first = true)
    (whole : Token.identifierLength true (word ++ rest) = word.length)
    (stops : Stops continuesIdentifier rest) (writtenEq : written lexemes = first :: (word ++ rest)) :
    ∃ token later, lexemes = ⟨first :: word, some token⟩ :: later ∧
      Token.ofIdentifier (first :: word) = .ok token ∧ Apart later ∧ written later = rest := by
  obtain ⟨token, count, later, step, rfl, apartLater, writtenLater⟩ := apart.exists_cons writtenEq 0
  rw [Token.scan_of_beginsIdentifier 0 begins, Token.scanIdentifier_unmarked whole stops] at step
  cases named : Token.ofIdentifier (first :: word) with
  | error failure =>
      rw [named] at step
      cases step
  | ok found =>
      rw [named] at step
      cases step
      rw [List.drop_left] at writtenLater
      exact ⟨found, later, by rw [List.take_left], rfl, apartLater, writtenLater⟩

/-- Digits are one lexeme. -/
theorem Apart.exists_digits (apart : Apart lexemes)
    (decimal : ∀ character ∈ first :: word, character.isDigit = true)
    (stops : Stops Decimal.continuesDigits rest)
    (writtenEq : written lexemes = first :: (word ++ rest)) :
    ∃ token later, lexemes = ⟨first :: word, some token⟩ :: later ∧ Apart later ∧
      written later = rest := by
  rw [List.forall_mem_cons] at decimal
  obtain ⟨token, count, later, step, rfl, apartLater, writtenLater⟩ := apart.exists_cons writtenEq 0
  rw [Token.scan_of_isDigit 0 decimal.1] at step
  obtain ⟨value, rfl, rfl⟩ := Token.length_of_scanNumber decimal.2 stops step
  rw [List.drop_left] at writtenLater
  exact ⟨.number value, later, by rw [List.take_left], apartLater, writtenLater⟩

/-- A colon is one lexeme. -/
theorem Apart.exists_colon (apart : Apart lexemes) (writtenEq : written lexemes = ':' :: rest) :
    ∃ later, lexemes = ⟨[':'], some .colon⟩ :: later ∧ Apart later ∧ written later = rest := by
  obtain ⟨token, count, later, step, rfl, apartLater, writtenLater⟩ := apart.exists_cons writtenEq 0
  cases step
  exact ⟨later, rfl, apartLater, writtenLater⟩

/-- Where lexemes are split, the ones in front do not go on with the ones behind. -/
theorem Apart.split (apart : Apart (before ++ after)) :
    Apart before ∧ Apart after ∧
      ∀ last ∈ before.getLast?, Stops (Token.continuedBy last.token) (written after) := by
  induction before with
  | nil => exact ⟨.nil, apart, by simp⟩
  | cons lexeme before inductionHypothesis =>
      cases apart with
      | cons isStep stops apartLater =>
          obtain ⟨apartBefore, apartAfter, seam⟩ := inductionHypothesis apartLater
          rw [List.append_eq, written_append] at stops
          refine ⟨.cons isStep (Text.stops_of_append stops) apartBefore, apartAfter, ?_⟩
          intro last isLast
          cases before with
          | nil =>
              cases isLast
              exact stops
          | cons next others => exact seam last (by simpa using isLast)

/-- The tokens in front of a text that does not go on with them. -/
theorem Apart.scanFrom_append (apart : Apart before)
    (seam : ∀ last ∈ before.getLast?, Stops (Token.continuedBy last.token) rest) (position : Nat) :
    Token.scanFrom position (written before ++ rest) =
      (Token.scanFrom (position + (written before).length) rest).map (tokens before ++ ·) := by
  induction apart generalizing position with
  | nil =>
      show Token.scanFrom position rest = (Token.scanFrom position rest).map fun found => found
      cases Token.scanFrom position rest <;> rfl
  | @cons lexeme later isStep stops apartLater inductionHypothesis =>
      obtain ⟨text, token⟩ := lexeme
      obtain ⟨first, inside, rfl, step⟩ := isStep
      have stopsRest : Stops (Token.continuedBy token) (written later ++ rest) := by
        refine Text.stops_append stops fun empty => ?_
        rw [apartLater.eq_nil empty] at seam
        exact seam _ rfl
      have seamLater : ∀ last ∈ later.getLast?, Stops (Token.continuedBy last.token) rest :=
        fun last isLast => seam last (List.mem_getLast?_cons isLast)
      have place : position + 1 + inside.length + (written later).length =
          position + (first :: inside ++ written later).length := by
        rw [List.length_append, List.length_cons]
        omega
      rw [written_cons, List.append_assoc, List.cons_append, Token.scanFrom, step position _ stopsRest]
      simp only [bind, Except.bind, List.drop_left]
      rw [inductionHypothesis seamLater, tokens_cons, place]
      cases Token.scanFrom (position + (first :: inside ++ written later).length) rest with
      | error failure => rfl
      | ok found =>
          show Except.ok (token.toList ++ (tokens later ++ found)) = _
          rw [← List.append_assoc]
          rfl

end Lexeme

/-! ## Cells with marks -/

theorem exists_cell_word (spelled : cell.WellSpelled) :
    ∃ first word, cell.text = first :: word ∧ Token.beginsIdentifier first = true ∧
      ∀ character ∈ word, WrittenCell.inCell character = true := by
  have inside := spelled.inCell
  obtain ⟨letter, letters, lettersEq⟩ := List.exists_cons_of_ne_nil spelled.letters_ne_nil
  have isAlpha := spelled.letters_alphabetic letter (lettersEq ▸ List.mem_cons_self)
  cases marked : cell.columnAbsolute with
  | true =>
      have textEq : cell.text = '$' :: (cell.letters ++
          (if cell.rowAbsolute then ['$'] else []) ++ cell.digits) := by
        simp [WrittenCell.text, marked]
      rw [textEq] at inside
      exact ⟨_, _, textEq, rfl, fun character member =>
        inside character (List.mem_cons_of_mem _ member)⟩
  | false =>
      have textEq : cell.text = letter :: (letters ++
          (if cell.rowAbsolute then ['$'] else []) ++ cell.digits) := by
        simp [WrittenCell.text, marked, lettersEq]
      rw [textEq] at inside
      exact ⟨_, _, textEq, by simp [Token.beginsIdentifier, isAlpha], fun character member =>
        inside character (List.mem_cons_of_mem _ member)⟩

/-- A written cell is a cell of the sheet or, without marks, a name. -/
theorem ofIdentifier_cell (spelled : cell.WellSpelled) :
    Token.ofIdentifier cell.text =
      match cell.address? with
      | some address => .ok (.cell address cell.columnAbsolute cell.rowAbsolute)
      | none =>
          if cell.columnAbsolute || cell.rowAbsolute then .error (.invalidReference cell.text)
          else .ok (.identifier cell.text.upper) := by
  have read := WrittenCell.read?_eq_some_iff.mpr ⟨spelled, rfl⟩
  have marks : cell.text.contains '$' = (cell.columnAbsolute || cell.rowAbsolute) := by
    have noLetter : '$' ∉ cell.letters := fun member => by
      cases spelled.letters_alphabetic '$' member
    have noDigit : '$' ∉ cell.digits := fun member => by
      cases spelled.digits_decimal '$' member
    cases columnMark : cell.columnAbsolute <;> cases rowMark : cell.rowAbsolute <;>
      simp [WrittenCell.text, columnMark, rowMark, noLetter, noDigit]
  have noColumn : Column.number? (cell.text.dropWhile (· = '$')) = none := by
    by_contra isColumn
    obtain ⟨column, found⟩ := Option.ne_none_iff_exists'.mp isColumn
    obtain ⟨digit, digits, digitsEq⟩ := List.exists_cons_of_ne_nil spelled.digits_ne_nil
    have isDigit := spelled.digits_decimal digit (digitsEq ▸ List.mem_cons_self)
    have member : digit ∈ cell.text := by simp [WrittenCell.text, digitsEq]
    rcases lettered_of_number? found digit member with isAlpha | rfl
    · rw [not_isAlpha_of_isDigit isDigit] at isAlpha
      cases isAlpha
    · cases isDigit
  unfold Token.ofIdentifier
  rw [read, noColumn, marks]
  simp only [Option.bind_eq_bind, Option.bind_some]
  cases cell.address? with
  | some address => rfl
  | none =>
      show (if _ then _ else _) = _
      rw [Option.isNone_none, Bool.and_true]

theorem isStep_cell (spelled : cell.WellSpelled) {token : Token}
    (named : Token.ofIdentifier cell.text = .ok token) : Lexeme.IsStep ⟨cell.text, some token⟩ := by
  obtain ⟨first, word, textEq, begins, inside⟩ := exists_cell_word spelled
  have whole := Token.identifierLength_inCell inside (Text.stops_nil : Stops Token.inIdentifier [])
  rw [List.append_nil] at whole
  rw [textEq] at named ⊢
  exact Lexeme.isStep_word begins whole named

/-- A lexeme that is written like a cell has the token of the cell. -/
theorem Lexeme.IsStep.token_eq {token : Option Token} (isStep : Lexeme.IsStep ⟨cell.text, token⟩)
    (spelled : cell.WellSpelled) :
    ∃ named, token = some named ∧ Token.ofIdentifier cell.text = .ok named := by
  obtain ⟨first, word, textEq, begins, inside⟩ := exists_cell_word spelled
  have whole := Token.identifierLength_inCell inside (Text.stops_nil : Stops Token.inIdentifier [])
  obtain ⟨_, _, sameText, step⟩ := isStep
  obtain ⟨rfl, rfl⟩ := List.cons.inj (textEq.symm.trans sameText)
  have found := step 0 [] Text.stops_nil
  rw [Token.scan_of_beginsIdentifier 0 begins, Token.scanIdentifier_unmarked whole Text.stops_nil]
    at found
  rw [textEq]
  cases named : Token.ofIdentifier (first :: word) with
  | error failure =>
      rw [named] at found
      cases found
  | ok name =>
      rw [named] at found
      cases found
      exact ⟨name, rfl, rfl⟩

section Remarked

variable {before after : List Lexeme} {token : Option Token}
  (apart : Lexeme.Apart (before ++ ⟨cell.text, token⟩ :: after)) (spelled : cell.WellSpelled)
  (otherSpelled : other.WellSpelled)

include apart spelled otherSpelled

/-- Another cell stands apart from its neighbours where a cell does. -/
theorem seams_of_cell :
    (∀ last ∈ before.getLast?, Stops (Token.continuedBy last.token)
        (other.text ++ Lexeme.written after)) ∧
      Stops continuesIdentifier (Lexeme.written after) := by
  obtain ⟨_, apartCell, seam⟩ := apart.split
  obtain ⟨first, word, textEq, begins, _⟩ := exists_cell_word spelled
  obtain ⟨otherFirst, otherWord, otherEq, otherBegins, _⟩ := exists_cell_word otherSpelled
  constructor
  · intro last isLast
    have stops := seam last isLast
    rw [Lexeme.written_cons, textEq, List.cons_append, Text.stops_cons,
      Token.continuedBy_of_begins begins] at stops
    rw [otherEq, List.cons_append, Text.stops_cons, Token.continuedBy_of_begins otherBegins, stops]
  · obtain ⟨named, rfl, found⟩ := apartCell.head.token_eq spelled
    exact apartCell.stops_of_isWord
      (Token.isWord_of_isNamed (Token.isNamed_of_ofIdentifier found))

/-- Lexemes with another cell that is a token. -/
theorem apart_of_other {named : Token} (found : Token.ofIdentifier other.text = .ok named) :
    Lexeme.Apart (before ++ ⟨other.text, some named⟩ :: after) := by
  obtain ⟨apartBefore, apartCell, _⟩ := apart.split
  obtain ⟨seam, stops⟩ := seams_of_cell apart spelled otherSpelled
  have isWord := Token.isWord_of_isNamed (Token.isNamed_of_ofIdentifier found)
  refine apartBefore.append (.cons (isStep_cell otherSpelled found) ?_ apartCell.tail) seam
  exact stops.mono fun next => (Token.continuedBy_of_isWord isWord next).symm.trans

/-- The scan ends at another cell that is no token. -/
theorem scanFrom_of_other {failure : ParseError}
    (found : Token.ofIdentifier other.text = .error failure) (position : Nat) :
    Token.scanFrom position (Lexeme.written before ++ (other.text ++ Lexeme.written after)) =
      .error failure := by
  obtain ⟨seam, stops⟩ := seams_of_cell apart spelled otherSpelled
  obtain ⟨first, word, textEq, begins, inside⟩ := exists_cell_word otherSpelled
  have whole := Token.identifierLength_inCell inside (Token.stops_inIdentifier stops)
  rw [apart.split.1.scanFrom_append seam, textEq, List.cons_append, Token.scanFrom,
    Token.scan_of_beginsIdentifier _ begins, Token.scanIdentifier_unmarked whole stops, ← textEq, found]
  rfl

end Remarked

/-! ## Formulas with other marks -/

section Parsed

variable {before after : List Lexeme} {token : Option Token} {value : Expr}
  (apart : Lexeme.Apart (before ++ ⟨cell.text, token⟩ :: after)) (spelled : cell.WellSpelled)
  (letters : other.letters = cell.letters) (digits : other.digits = cell.digits)
  (short : (Lexeme.written before ++ (other.text ++ Lexeme.written after)).length ≤ lengthLimit)

include apart spelled letters digits short

/-- A cell of the sheet can have any marks. -/
theorem parse_of_remarked_cell
    (parsed : parse (Lexeme.written (before ++ ⟨cell.text, token⟩ :: after)) = .ok value)
    (onSheet : cell.address?.isSome = true) :
    ∃ otherValue : Expr,
      parse (Lexeme.written before ++ (other.text ++ Lexeme.written after)) = .ok otherValue ∧
        otherValue.relative = value.relative := by
  obtain ⟨address, isAddress⟩ := Option.isSome_iff_exists.mp onSheet
  have otherSpelled := spelled.of_same letters digits
  have found := ofIdentifier_cell spelled
  have otherFound := ofIdentifier_cell otherSpelled
  rw [WrittenCell.address?_of_same letters digits] at otherFound
  rw [isAddress] at found otherFound
  obtain ⟨_, apartCell, _⟩ := apart.split
  obtain rfl : token = some (.cell address cell.columnAbsolute cell.rowAbsolute) := by
    obtain ⟨named, rfl, isNamed⟩ := apartCell.head.token_eq spelled
    rw [found] at isNamed
    cases isNamed
    rfl
  have scanned := (apart_of_other apart spelled otherSpelled otherFound).scanned 0
  rw [Lexeme.written_append, Lexeme.written_cons] at scanned
  refine parse_of_sameCells parsed (apart.scanned 0) scanned ?_ short
  rw [Lexeme.tokens_append, Lexeme.tokens_append]
  exact List.rel_append (sameCells_refl _) (.cons (.cell ..) (sameCells_refl _))

/-- What is written like a cell outside of the sheet cannot have marks. -/
theorem parse_of_remarked_name (offSheet : cell.address? = none)
    (marked : (other.columnAbsolute || other.rowAbsolute) = true) :
    parse (Lexeme.written before ++ (other.text ++ Lexeme.written after)) =
      .error (.invalidReference other.text) := by
  have otherSpelled := spelled.of_same letters digits
  have otherFound := ofIdentifier_cell otherSpelled
  rw [WrittenCell.address?_of_same letters digits, offSheet, if_pos marked] at otherFound
  unfold parse
  rw [if_neg (Nat.not_lt.mpr short), Token.scanAll,
    scanFrom_of_other apart spelled otherSpelled otherFound]
  rfl

end Parsed

end Formula

end SheetEditor
