import SheetEditor.Proofs.Draft.CellPlaces

/-!
Contract: the areas of a draft as lexemes of a formula.

Owns: the parts of an area, each of which is one lexeme, and the lexemes of an area with
the cells among them.

Does not own: which areas a draft finds (`SheetEditor.Proofs.Draft.CellLexemes`).
-/

namespace SheetEditor.Draft

open Text (Stops)
open Formula (Lexeme continuesIdentifier)

variable {text rest : Text} {start : Nat} {lexemes later : List Lexeme}

/-! ## Parts of areas -/

/-- A cell, a column or a row in an area. Cells and rows have digits. -/
inductive AreaPart : Bool → Text → Prop where
  | cell {cell : WrittenCell} (spelled : cell.WellSpelled) : AreaPart true cell.text
  | column (marked : Bool) {letters : Text} (nonempty : letters ≠ [])
      (alphabetic : ∀ letter ∈ letters, letter.isAlpha = true) :
      AreaPart false ((if marked then ['$'] else []) ++ letters)
  | row (marked : Bool) {digits : Text} (nonempty : digits ≠ [])
      (decimal : ∀ digit ∈ digits, digit.isDigit = true) :
      AreaPart true ((if marked then ['$'] else []) ++ digits)

namespace AreaPart

variable {numbered : Bool}

theorem not_isDigit_of_column (part : AreaPart false text) :
    ∀ character ∈ text, character.isDigit = false := by
  cases part with
  | column marked _ alphabetic =>
      intro character member
      by_contra isDigit
      rw [Bool.not_eq_false] at isDigit
      rcases List.mem_append.mp member with isMarker | isLetter
      · cases marked
        · cases isMarker
        · rw [List.mem_singleton.mp isMarker] at isDigit
          cases isDigit
      · have isAlpha := alphabetic character isLetter
        rw [not_isAlpha_of_isDigit isDigit] at isAlpha
        cases isAlpha

theorem exists_digit (part : AreaPart true text) : ∃ digit ∈ text, digit.isDigit = true := by
  have last {digits front : Text} (nonempty : digits ≠ [])
      (decimal : ∀ digit ∈ digits, digit.isDigit = true) :
      ∃ digit ∈ front ++ digits, digit.isDigit = true := by
    obtain ⟨digit, others, rfl⟩ := List.exists_cons_of_ne_nil nonempty
    exact ⟨digit, by simp, decimal digit List.mem_cons_self⟩
  cases part with
  | cell spelled => exact last spelled.digits_ne_nil spelled.digits_decimal
  | row _ nonempty decimal => exact last nonempty decimal

theorem inCell (part : AreaPart numbered text) :
    ∀ character ∈ text, WrittenCell.inCell character = true := by
  cases part with
  | cell spelled => exact spelled.inCell
  | column marked _ alphabetic =>
      exact List.forall_mem_append.mpr ⟨WrittenCell.inCell_of_mem_marker marked,
        fun letter member => WrittenCell.inCell_of_isAlpha (alphabetic letter member)⟩
  | row marked _ decimal =>
      exact List.forall_mem_append.mpr ⟨WrittenCell.inCell_of_mem_marker marked,
        fun digit member => WrittenCell.inCell_of_isDigit (decimal digit member)⟩

/-- A part is one lexeme, unless the text goes on with it. -/
theorem exists_lexeme (part : AreaPart numbered text) (apart : Lexeme.Apart lexemes)
    (stops : Stops continuesIdentifier rest) (writtenEq : Lexeme.written lexemes = text ++ rest) :
    ∃ token later, lexemes = ⟨text, some token⟩ :: later ∧ Lexeme.Apart later ∧
      Lexeme.written later = rest := by
  have word {first : Char} {word : Text} (begins : Formula.Token.beginsIdentifier first = true)
      (inside : ∀ character ∈ word, WrittenCell.inCell character = true)
      (textEq : text = first :: word) : ∃ token later, lexemes = ⟨text, some token⟩ :: later ∧
        Lexeme.Apart later ∧ Lexeme.written later = rest := by
    subst textEq
    have whole := Formula.Token.identifierLength_inCell inside (Formula.Token.stops_inIdentifier stops)
    obtain ⟨token, later, split, _, apartLater, writtenLater⟩ :=
      apart.exists_word begins whole stops writtenEq
    exact ⟨token, later, split, apartLater, writtenLater⟩
  have inside := part.inCell
  cases part with
  | cell spelled =>
      obtain ⟨first, others, textEq, begins, insideWord⟩ := Formula.exists_cell_word spelled
      exact word begins insideWord textEq
  | column marked nonempty alphabetic =>
      cases marked with
      | true =>
          exact word rfl (fun letter member => WrittenCell.inCell_of_isAlpha
            (alphabetic letter member)) rfl
      | false =>
          obtain ⟨letter, others, rfl⟩ := List.exists_cons_of_ne_nil nonempty
          have isAlpha := alphabetic letter List.mem_cons_self
          exact word (by simp [Formula.Token.beginsIdentifier, isAlpha])
            (fun character member => inside character (List.mem_cons_of_mem _ member)) rfl
  | row marked nonempty decimal =>
      cases marked with
      | true =>
          exact word rfl (fun digit member => WrittenCell.inCell_of_isDigit
            (decimal digit member)) rfl
      | false =>
          obtain ⟨digit, others, rfl⟩ := List.exists_cons_of_ne_nil nonempty
          exact apart.exists_digits decimal (Formula.Token.stops_continuesDigits stops) writtenEq

/-- The cell in a part is the part. -/
theorem of_mem_inArea (part : AreaPart numbered text) (stops : Stops WrittenCell.inCell rest)
    {placed : PlacedCell} (member : placed ∈ PlacedCell.inArea start (text ++ rest)) :
    placed.cell.text = text ∧ placed.start = start ∨
      placed ∈ PlacedCell.inArea (start + text.length) rest := by
  cases part with
  | cell spelled =>
      have digitsStop : Stops Char.isDigit rest :=
        stops.mono fun _ => WrittenCell.inCell_of_isDigit
      rw [PlacedCell.inArea_of_read? (spelled.read? digitsStop)] at member
      rcases List.mem_cons.mp member with rfl | after
      · exact .inl ⟨rfl, rfl⟩
      · exact .inr after
  | column marked nonempty alphabetic =>
      have noDigit := (AreaPart.column marked nonempty alphabetic).not_isDigit_of_column
      rw [PlacedCell.inArea_skip (.inl noDigit) stops] at member
      exact .inr member
  | row marked nonempty decimal =>
      have noLetter : ∀ character ∈ (if marked then ['$'] else []) ++ _, character.isAlpha = false :=
        List.forall_mem_append.mpr ⟨by cases marked <;> simp, fun digit member =>
          not_isAlpha_of_isDigit (decimal digit member)⟩
      rw [PlacedCell.inArea_skip (.inr noLetter) stops] at member
      exact .inr member

end AreaPart

theorem columnLength?_part {length : Nat} (found : Token.columnLength? text = some length) :
    AreaPart false (text.take length) := by
  unfold Token.columnLength? at found
  dsimp only at found
  split at found
  · cases found
  · next nonempty =>
      cases found
      rw [Token.take_marked text _ ((List.takeWhile_prefix _).trans (List.take_prefix ..))]
      exact .column _ nonempty fun letter => List.mem_takeWhile_imp

theorem rowLength?_part {length : Nat} (found : Token.rowLength? text = some length) :
    AreaPart true (text.take length) := by
  unfold Token.rowLength? at found
  dsimp only at found
  split at found
  · cases found
  · next nonempty =>
      cases found
      rw [Token.take_marked text _ (List.takeWhile_prefix _)]
      exact .row _ nonempty fun digit => List.mem_takeWhile_imp

theorem pairLength?_parts {numbered : Bool} {part : Text → Option Nat} {length : Nat}
    (isPart : ∀ {text length}, part text = some length → AreaPart numbered (text.take length))
    (found : Token.pairLength? part text = some length) :
    ∃ front back, text.take length = front ++ ':' :: back ∧ AreaPart numbered front ∧
      AreaPart numbered back := by
  obtain ⟨first, firstFound, found⟩ := Option.bind_eq_some_iff.mp found
  split at found
  · next afterColon isColon =>
      obtain ⟨second, secondFound, rfl⟩ := Option.map_eq_some_iff.mp found
      refine ⟨text.take first, afterColon.take second, ?_, isPart firstFound, isPart secondFound⟩
      rw [Nat.add_assoc, List.take_add, isColon, Nat.add_comm 1, List.take_succ_cons]
  · cases found

/-- An area is a cell, or two parts of one kind around a colon. -/
theorem areaLength?_parts {length : Nat} (found : Token.areaLength? text = some length) :
    (∃ cell : WrittenCell, cell.WellSpelled ∧ text.take length = cell.text) ∨
      ∃ numbered front back, text.take length = front ++ ':' :: back ∧ AreaPart numbered front ∧
        AreaPart numbered back := by
  unfold Token.areaLength? at found
  rcases (Option.orElse_eq_some _ _ _).mp found with cells | ⟨_, found⟩
  · rcases Token.cellsLength?_cases cells with
      ⟨cell, rest, read, rfl⟩ | ⟨first, second, after, rest, firstRead, secondRead, rfl⟩
    · refine .inl ⟨cell, (WrittenCell.wellSpelled_of_read? read).1, ?_⟩
      rw [WrittenCell.eq_append_of_read? read, List.take_left]
    · refine .inr ⟨true, first.text, second.text, ?_,
        .cell (WrittenCell.wellSpelled_of_read? firstRead).1,
        .cell (WrittenCell.wellSpelled_of_read? secondRead).1⟩
      rw [WrittenCell.eq_append_of_read? firstRead, WrittenCell.eq_append_of_read? secondRead,
        Nat.add_assoc, List.take_length_add_append, Nat.add_comm 1, List.take_succ_cons,
        List.take_left]
  · rcases (Option.orElse_eq_some _ _ _).mp found with columns | ⟨_, rows⟩
    · exact .inr ⟨false, pairLength?_parts columnLength?_part columns⟩
    · exact .inr ⟨true, pairLength?_parts rowLength?_part rows⟩

/-! ## Cells that are lexemes -/

/-- Whether a cell that is found in a text is one of the lexemes of the text, which begins at an
offset. -/
def PlacedCell.StandsIn (start : Nat) (lexemes : List Lexeme) (placed : PlacedCell) : Prop :=
  ∃ before token after, lexemes = before ++ ⟨placed.cell.text, token⟩ :: after ∧
    placed.start = start + (Lexeme.written before).length

theorem PlacedCell.StandsIn.append_right {placed : PlacedCell} (stands : placed.StandsIn start lexemes)
    (later : List Lexeme) : placed.StandsIn start (lexemes ++ later) := by
  obtain ⟨before, token, after, rfl, startEq⟩ := stands
  exact ⟨before, token, after ++ later, by simp, startEq⟩

theorem PlacedCell.StandsIn.append_left {placed : PlacedCell}
    (stands : placed.StandsIn (start + (Lexeme.written lexemes).length) later) :
    placed.StandsIn start (lexemes ++ later) := by
  obtain ⟨before, token, after, rfl, startEq⟩ := stands
  refine ⟨lexemes ++ before, token, after, by simp, ?_⟩
  rw [startEq, Lexeme.written_append, List.length_append, Nat.add_assoc]

/-- A reference may end before what does not go on with a word and calls no function. -/
theorem isBoundary_iff :
    Token.isBoundary text = true ↔ Stops continuesIdentifier text ∧ text.head? ≠ some '(' := by
  cases text with
  | nil => simp [Token.isBoundary]
  | cons next others =>
      simp [Token.isBoundary, continuesIdentifier, Formula.Token.inIdentifier]
      tauto

theorem stops_inCell (stops : Stops continuesIdentifier rest) : Stops WrittenCell.inCell rest := by
  refine stops.mono fun next inside => ?_
  simp only [WrittenCell.inCell, Bool.or_eq_true, decide_eq_true_eq] at inside
  rcases inside with isAlphanum | rfl
  · simp [continuesIdentifier, Formula.Token.inIdentifier, isAlphanum]
  · rfl

/-- A reference without a qualifier is an area up to a boundary. -/
theorem areaLength?_of_referenceLength? (unqualified : Token.qualifierLength? text = none)
    {length : Nat} (found : Token.referenceLength? text = some length) :
    Token.areaLength? text = some length ∧ Token.isBoundary (text.drop length) = true := by
  obtain ⟨area, rfl, areaFound, boundary⟩ := Token.referenceLength?_cases found
  rw [unqualified, Option.getD_none, Nat.zero_add] at boundary ⊢
  rw [unqualified, Option.getD_none, List.drop_zero] at areaFound
  exact ⟨areaFound, boundary⟩

/-- The lexemes of an area up to a boundary, and the cells among them. -/
theorem exists_lexemes_of_area (apart : Lexeme.Apart lexemes) {length : Nat}
    (found : Token.areaLength? (Lexeme.written lexemes) = some length)
    (boundary : Token.isBoundary ((Lexeme.written lexemes).drop length) = true) (start : Nat) :
    ∃ before later, lexemes = before ++ later ∧ before ≠ [] ∧
      Lexeme.written before = (Lexeme.written lexemes).take length ∧
      Lexeme.written later = (Lexeme.written lexemes).drop length ∧
      ∀ placed ∈ PlacedCell.inArea start (Lexeme.written before), placed.StandsIn start before := by
  have stops := (isBoundary_iff.mp boundary).1
  have split := (List.take_append_drop length (Lexeme.written lexemes)).symm
  rcases areaLength?_parts found with
    ⟨cell, spelled, cellEq⟩ | ⟨numbered, front, back, pairEq, isFront, isBack⟩
  · rw [cellEq] at split ⊢
    obtain ⟨token, later, rfl, _, writtenLater⟩ :=
      (AreaPart.cell spelled).exists_lexeme apart stops split
    refine ⟨[⟨cell.text, some token⟩], later, rfl, List.cons_ne_nil _ _, by simp, writtenLater, ?_⟩
    intro placed member
    rw [Lexeme.written_cons, Lexeme.written_nil] at member
    rcases (AreaPart.cell spelled).of_mem_inArea Text.stops_nil member with ⟨textEq, startEq⟩ | none
    · exact ⟨[], some token, [], by rw [textEq]; rfl, startEq⟩
    · rw [PlacedCell.inArea_nil] at none
      cases none
  · rw [pairEq, List.append_assoc, List.cons_append] at split
    have colonStops {inside : Char → Bool} (outside : inside ':' = false) {after : Text} :
        Stops inside (':' :: after) := Text.stops_cons.mpr outside
    obtain ⟨frontToken, afterFront, rfl, apartFront, writtenFront⟩ :=
      isFront.exists_lexeme apart (colonStops rfl) split
    obtain ⟨afterColon, rfl, apartColon, writtenColon⟩ := apartFront.exists_colon writtenFront
    obtain ⟨backToken, later, rfl, _, writtenLater⟩ :=
      isBack.exists_lexeme apartColon stops writtenColon
    refine ⟨[⟨front, some frontToken⟩, ⟨[':'], some .colon⟩, ⟨back, some backToken⟩], later, rfl,
      List.cons_ne_nil _ _, ?_, writtenLater, ?_⟩
    · rw [pairEq]
      simp
    · intro placed member
      simp only [Lexeme.written_cons, Lexeme.written_nil, List.append_nil,
        List.singleton_append] at member
      rcases isFront.of_mem_inArea (colonStops rfl) member with ⟨textEq, startEq⟩ | member
      · exact ⟨[], some frontToken, _, by rw [textEq]; rfl, startEq⟩
      · have unread : WrittenCell.read? (':' :: back) = none := rfl
        rw [PlacedCell.inArea_of_unread unread, ← List.append_nil back] at member
        rcases isBack.of_mem_inArea Text.stops_nil member with ⟨textEq, startEq⟩ | none
        · refine ⟨[⟨front, some frontToken⟩, ⟨[':'], some .colon⟩], some backToken, [],
            by rw [textEq]; rfl, ?_⟩
          rw [startEq]
          simp [Nat.add_assoc]
        · rw [PlacedCell.inArea_nil] at none
          cases none

end SheetEditor.Draft
