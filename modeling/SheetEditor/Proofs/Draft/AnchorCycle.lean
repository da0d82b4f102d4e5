import SheetEditor.Proofs.Draft.ActiveCall
import SheetEditor.Proofs.Draft.CellLexemes

/-!
Contract: a formula whose reference at the caret gets its next marks.

Owns: the text that the marks are changed in, and that a formula stays accepted and means
the same, marks aside, if the reference is a cell of the sheet.

Does not own: which cells of a draft are words of the formula
(`SheetEditor.Proofs.Draft.CellLexemes`).

A draft takes every word that looks like a cell for one. A word that looks like a cell
outside of the sheet is a name of the formula, and the marks make it no name. An empty
sheet name in quotes is a qualifier of a formula only, so after it a draft can take the
text of a string for a reference.
-/

namespace SheetEditor

/-! ## The next marks -/

namespace WrittenCell

@[simp] theorem nextAnchors_letters (cell : WrittenCell) : cell.nextAnchors.letters = cell.letters := by
  unfold nextAnchors
  split <;> rfl

@[simp] theorem nextAnchors_digits (cell : WrittenCell) : cell.nextAnchors.digits = cell.digits := by
  unfold nextAnchors
  split <;> rfl

/-- A cell without marks gets both of them. -/
theorem nextAnchors_marked {cell : WrittenCell}
    (unmarked : (cell.columnAbsolute || cell.rowAbsolute) = false) :
    (cell.nextAnchors.columnAbsolute || cell.nextAnchors.rowAbsolute) = true := by
  rw [Bool.or_eq_false_iff] at unmarked
  simp [nextAnchors, unmarked]

end WrittenCell

theorem Text.splice_append (before middle after inserted : Text) :
    (before ++ (middle ++ after)).splice before.length (before.length + middle.length) inserted =
      before ++ (inserted ++ after) := by
  have reach : max before.length (before.length + middle.length) =
      before.length + middle.length := by omega
  rw [splice, reach, List.take_left, List.drop_length_add_append, List.drop_left, List.append_assoc]

namespace Formula

open Lexeme (written)

/-- A word of an accepted formula that looks like a cell outside of the sheet has no marks. -/
theorem Lexeme.IsStep.unmarked {cell : WrittenCell} {token : Option Token}
    (isStep : Lexeme.IsStep ⟨cell.text, token⟩) (spelled : cell.WellSpelled)
    (offSheet : cell.address? = none) : (cell.columnAbsolute || cell.rowAbsolute) = false := by
  obtain ⟨named, rfl, found⟩ := isStep.token_eq spelled
  by_contra marked
  rw [ofIdentifier_cell spelled, offSheet] at found
  simp [marked] at found

end Formula

namespace Draft

open Formula (Lexeme)

namespace PlacedCell

theorem mem_of_atCaret? {cells : List PlacedCell} {caret : Nat} {placed : PlacedCell}
    (found : atCaret? cells caret = some placed) : placed ∈ cells := by
  unfold atCaret? at found
  split at found
  · next isFirst =>
      cases found
      exact List.mem_of_find?_eq_some isFirst
  · exact List.mem_of_mem_filter (List.mem_of_getLast? found)

end PlacedCell

variable {body : Text} {value : Expr} {caret : Nat}

/-- A cell found in an accepted formula is a lexeme of it. -/
theorem exists_lexemes_around {placed : PlacedCell} (parsed : Formula.parse body = .ok value)
    (named : namesSheets body = true) (member : placed ∈ PlacedCell.ofText ('=' :: body)) :
    placed.cell.WellSpelled ∧ ∃ before token after,
      Lexeme.Apart (before ++ ⟨placed.cell.text, token⟩ :: after) ∧
        Lexeme.written (before ++ ⟨placed.cell.text, token⟩ :: after) = body ∧
        placed.start = 1 + (Lexeme.written before).length := by
  obtain ⟨lexemes, apart, rfl, derives⟩ := Lexeme.exists_apart_of_parse parsed
  have layout := derives.layout Formula.delimited_nil .nil
  rw [List.append_nil] at layout
  have names : .qualifier [] ∉ Lexeme.tokens lexemes := by
    have scanned : Formula.Token.scanAll (Lexeme.written lexemes) = .ok (Lexeme.tokens lexemes) :=
      apart.scanned 0
    simpa [namesSheets, scanned] using named
  rw [PlacedCell.ofText_formula] at member
  obtain ⟨before, token, after, rfl, startEq⟩ :=
    standsIn_of_mem_inText apart layout.arranged names member
  exact ⟨PlacedCell.wellSpelled_of_mem_inText member, before, token, after, apart, rfl, startEq⟩

/-- The string that a formula joins to something. -/
def joinedString? : Expr → Option Text
  | .binary _ _ (.text content) => some content
  | _ => none

theorem joinedString?_relative (value : Expr) :
    joinedString? value.relative = joinedString? value := by
  cases value with
  | binary operator left right => cases right <;> rfl
  | _ => rfl

/-- The next marks of a reference on the sheet leave a formula as it is, marks aside. In a name that
looks like a reference, marks are an error. -/
theorem parse_of_cycled_anchors {edit : TextEdit} (parsed : Formula.parse body = .ok value)
    (named : namesSheets body = true) (cycled : cycleAnchors? ('=' :: body) caret = some edit) :
    ∃ placed newBody,
      PlacedCell.atCaret? (PlacedCell.ofText ('=' :: body)) (min caret ('=' :: body).length) =
          some placed ∧
        edit.text = '=' :: newBody ∧
        (newBody.length ≤ Formula.lengthLimit →
          if placed.cell.address?.isSome then
            ∃ newValue, Formula.parse newBody = .ok newValue ∧ newValue.relative = value.relative
          else Formula.parse newBody = .error (.invalidReference placed.cell.nextAnchors.text)) := by
  obtain ⟨placed, atCaret, isEdit⟩ := Option.bind_eq_some_iff.mp cycled
  cases isEdit
  obtain ⟨spelled, before, token, after, apart, rfl, startEq⟩ :=
    exists_lexemes_around parsed named (PlacedCell.mem_of_atCaret? atCaret)
  have letters := placed.cell.nextAnchors_letters
  have digits := placed.cell.nextAnchors_digits
  refine ⟨placed,
    Lexeme.written before ++ (placed.cell.nextAnchors.text ++ Lexeme.written after), atCaret, ?_, ?_⟩
  · have split : '=' :: Lexeme.written (before ++ ⟨placed.cell.text, token⟩ :: after) =
        ('=' :: Lexeme.written before) ++ (placed.cell.text ++ Lexeme.written after) := by simp
    have start : placed.start = ('=' :: Lexeme.written before).length := by
      rw [startEq, List.length_cons, Nat.add_comm]
    dsimp only
    rw [PlacedCell.stop, split, start, Text.splice_append]
    rfl
  · intro short
    split
    · next onSheet =>
        exact Formula.parse_of_remarked_cell apart spelled letters digits short parsed onSheet
    · next offSheet =>
        rw [Option.not_isSome_iff_eq_none] at offSheet
        have unmarked : (placed.cell.columnAbsolute || placed.cell.rowAbsolute) = false := by
          obtain ⟨_, apartCell, _⟩ := apart.split
          exact apartCell.head.unmarked spelled offSheet
        exact Formula.parse_of_remarked_name apart spelled letters digits short offSheet
          (WrittenCell.nextAnchors_marked unmarked)

theorem exists_value_of_joinedString? {content : Text}
    (joined : (Formula.parse body).toOption.bind joinedString? = some content) :
    ∃ value, Formula.parse body = .ok value ∧ joinedString? value = some content := by
  cases parsed : Formula.parse body with
  | error failure =>
      rw [parsed] at joined
      cases joined
  | ok value =>
      rw [parsed] at joined
      exact ⟨value, rfl, joined⟩

/-- A corner of a block on another sheet, in a formula with a column, a name and a string. -/
theorem parse_of_cycled_corner :
    let body := "SUM($A:$A,'A 1'!B2:$C$3)&\"D4\"".toList
    let newBody := "SUM($A:$A,'A 1'!B2:C$3)&\"D4\"".toList
    ∃ value newValue, Formula.parse body = .ok value ∧ namesSheets body = true ∧
      cycleAnchors? ('=' :: body) 22 = some ⟨'=' :: newBody, 23⟩ ∧
      newBody.length ≤ Formula.lengthLimit ∧
      Formula.parse newBody = .ok newValue ∧ newValue.relative = value.relative := by
  intro body newBody
  have joined : (Formula.parse body).toOption.bind joinedString? = some "D4".toList := by
    decide +kernel
  have named : namesSheets body = true := by decide +kernel
  have cycled : cycleAnchors? ('=' :: body) 22 = some ⟨'=' :: newBody, 23⟩ := by decide +kernel
  have short : newBody.length ≤ Formula.lengthLimit := by decide
  obtain ⟨value, parsed, _⟩ := exists_value_of_joinedString? joined
  obtain ⟨placed, other, atCaret, same, outcome⟩ := parse_of_cycled_anchors parsed named cycled
  obtain rfl : newBody = other := (List.cons.inj same).2
  have onSheet : (PlacedCell.atCaret? (PlacedCell.ofText ('=' :: body))
      (min 22 ('=' :: body).length)).any (fun placed => placed.cell.address?.isSome) = true := by
    decide +kernel
  rw [atCaret, Option.any_some] at onSheet
  have outcome := outcome short
  rw [if_pos onSheet] at outcome
  obtain ⟨newValue, newParsed, relative⟩ := outcome
  exact ⟨value, newValue, parsed, named, cycled, short, newParsed, relative⟩

/-! ## Words that are no references -/

/-- Whether the next marks at a caret leave a formula that is accepted and means the same, marks
aside. -/
def KeepsFormula (body : Text) (caret : Nat) : Prop :=
  ∀ value newBody newCaret, Formula.parse body = .ok value →
    cycleAnchors? ('=' :: body) caret = some ⟨'=' :: newBody, newCaret⟩ →
      newBody.length ≤ Formula.lengthLimit →
        ∃ newValue, Formula.parse newBody = .ok newValue ∧ newValue.relative = value.relative

/-- A name that looks like a reference gets marks that it cannot have. The quotes of a sheet prefix
without a name begin a quoted name, which can end in a string. -/
theorem not_keepsFormula :
    ¬KeepsFormula "XFE1".toList 5 ∧ ¬KeepsFormula "''!A1&\"'!B2\"".toList 13 := by
  constructor
  · intro keeps
    have accepted : (Formula.parse "XFE1".toList).isOk = true := by decide +kernel
    have rejected : (Formula.parse "$XFE$1".toList).isOk = false := by decide +kernel
    have cycled : cycleAnchors? ('=' :: "XFE1".toList) 5 = some ⟨'=' :: "$XFE$1".toList, 7⟩ := by
      decide +kernel
    cases parsed : Formula.parse "XFE1".toList with
    | error failure =>
        rw [parsed] at accepted
        cases accepted
    | ok value =>
        obtain ⟨newValue, newParsed, _⟩ := keeps value _ _ parsed cycled (by decide)
        rw [newParsed] at rejected
        cases rejected
  · intro keeps
    have joined : (Formula.parse "''!A1&\"'!B2\"".toList).toOption.bind joinedString? =
        some "'!B2".toList := by decide +kernel
    have newJoined : (Formula.parse "''!A1&\"'!$B$2\"".toList).toOption.bind joinedString? =
        some "'!$B$2".toList := by decide +kernel
    have cycled : cycleAnchors? ('=' :: "''!A1&\"'!B2\"".toList) 13 =
        some ⟨'=' :: "''!A1&\"'!$B$2\"".toList, 15⟩ := by decide +kernel
    obtain ⟨value, parsed, isString⟩ := exists_value_of_joinedString? joined
    obtain ⟨newValue, newParsed, relative⟩ := keeps value _ _ parsed cycled (by decide)
    have same := congrArg joinedString? relative
    rw [joinedString?_relative, joinedString?_relative, isString] at same
    rw [newParsed] at newJoined
    have newString : joinedString? newValue = some "'!$B$2".toList := newJoined
    rw [newString] at same
    exact absurd same (by decide)

end Draft

end SheetEditor
