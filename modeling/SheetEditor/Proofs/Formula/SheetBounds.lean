import SheetEditor.Proofs.Draft.Picking
import SheetEditor.Proofs.Draft.ReferenceSpans
import SheetEditor.Proofs.Formula.Lexeme
import SheetEditor.Proofs.Formula.Soundness
import SheetEditor.Proofs.Grid.NameReading

/-!
Contract: formulas name nothing outside of the sheet.

Owns: the parts of an expression at any depth, which parts are on the sheet, that all parts of an
accepted formula are, that the references of a draft are, and that a number counted from one in a text
is one more than the number counted from zero in the expression.

The bounds are checked in different places: those of a cell when its token is scanned, those of
columns and rows when the descent finds two of them around a colon. What the grammar builds from tokens
on the sheet is on the sheet.
-/

namespace SheetEditor

/-! ## From numbers to addresses -/

namespace Formula.Descent

variable {start stop : Text} {first last row : Nat} {value : Binary64}

/-- A column between two identifiers is one less than its number. -/
theorem number?_of_columnSpan? (found : columnSpan? start stop = some (first, last)) :
    Column.number? (start.dropWhile (· = '$')) = some (first + 1) ∧
      Column.number? (stop.dropWhile (· = '$')) = some (last + 1) := by
  obtain ⟨firstNumber, lastNumber, firstFound, lastFound, -, same⟩ := columnSpan?_eq_some found
  obtain ⟨rfl, rfl⟩ := Prod.mk.inj same
  rw [Nat.sub_add_cancel (Column.number?_pos firstFound),
    Nat.sub_add_cancel (Column.number?_pos lastFound)]
  exact ⟨firstFound, lastFound⟩

/-- A row is one less than its number. -/
theorem wholeNumber?_of_rowOf? (found : rowOf? value = some row) :
    value.wholeNumber? = some ((row + 1 : Nat) : Int) := by
  obtain ⟨number, whole, within, rfl⟩ := rowOf?_eq_some found
  rw [whole]
  exact congrArg some (by omega)

end Formula.Descent

/-! ## Parts of an expression -/

namespace Expr

/-- The expressions of which an expression is made directly. -/
def children : Expr → List Expr
  | .call _ arguments => arguments
  | .binary _ left right => [left, right]
  | .negate operand | .percent operand => [operand]
  | .array lines => lines.flatten
  | .number _ | .text _ | .boolean _ | .error _ | .cell .. | .range .. | .columns .. | .rows ..
  | .name _ | .omitted => []

/-- An expression is part of itself and of what it is a child of, at any depth. -/
inductive IsPartOf (part : Expr) : Expr → Prop where
  | whole : IsPartOf part part
  | child {value operand : Expr} (member : operand ∈ value.children)
      (inside : IsPartOf part operand) : IsPartOf part value

/-- The cells, columns and rows that an expression names itself are on the sheet, and the name that it
has itself, of a function or of anything else, is in upper case. -/
def IsOnSheet : Expr → Prop
  | .cell _ address _ _ => address.InBounds
  | .range _ start stop => start.InBounds ∧ stop.InBounds
  | .columns _ start stop => start < columnCount ∧ stop < columnCount
  | .rows _ start stop => start < rowCount ∧ stop < rowCount
  | .call function _ => function.upper = function
  | .name identifier => identifier.upper = identifier
  | .number _ | .text _ | .boolean _ | .error _ | .binary .. | .negate _ | .percent _ | .array _
  | .omitted => True

/-- All parts of an expression are on the sheet. -/
def StaysOnSheet (value : Expr) : Prop := ∀ part : Expr, part.IsPartOf value → part.IsOnSheet

theorem StaysOnSheet.of_children {value : Expr} (onSheet : value.IsOnSheet)
    (children : ∀ operand ∈ value.children, operand.StaysOnSheet) : value.StaysOnSheet := by
  intro part isPart
  cases isPart with
  | whole => exact onSheet
  | child member inside => exact children _ member part inside

/-- An expression without parts of its own. -/
theorem StaysOnSheet.of_leaf {value : Expr} (onSheet : value.IsOnSheet)
    (leaf : value.children = []) : value.StaysOnSheet :=
  .of_children onSheet (by simp [leaf])

end Expr

/-! ## Tokens on the sheet -/

namespace Formula

/-- The cell of a token is on the sheet, and an identifier is in upper case. -/
def Token.IsOnSheet : Token → Prop
  | .cell address _ _ => address.InBounds
  | .identifier name => name.upper = name
  | _ => True

theorem Token.isOnSheet_of_ofIdentifier {identifier : Text} {token : Token}
    (found : ofIdentifier identifier = .ok token) : token.IsOnSheet := by
  rcases ofIdentifier_cases found with ⟨cell, address, -, inSheet, rfl⟩ | ⟨-, -, rfl⟩
  · exact WrittenCell.inBounds_of_address? inSheet
  · exact Text.upper_upper identifier

theorem Token.Scans.isOnSheet {first : Char} {following : Text} {found : Option Token} {count : Nat}
    (scans : Token.Scans first following found count) : ∀ token ∈ found, token.IsOnSheet := by
  rintro token ⟨⟩
  cases scans with
  | mark listed =>
      have onSheet : ∀ mark ∈ marks, mark.2.IsOnSheet := by simp [marks, IsOnSheet]
      exact onSheet _ listed
  | longMark listed =>
      have onSheet : ∀ mark ∈ longMarks, mark.2.2.IsOnSheet := by simp [longMarks, IsOnSheet]
      exact onSheet _ listed
  | identifier _ _ named => exact isOnSheet_of_ofIdentifier named
  | error | text | quotedName | number | plainName => trivial

theorem Cuts.isOnSheet {text : Text} {lexemes : List Lexeme} (cuts : Cuts text lexemes) :
    ∀ token ∈ Lexeme.tokens lexemes, token.IsOnSheet := by
  induction cuts with
  | nil => exact List.forall_mem_nil _
  | cons scans _ inductionHypothesis =>
      rw [Lexeme.tokens_cons, List.forall_mem_append]
      exact ⟨fun token member => scans.isOnSheet token (Option.mem_toList.mp member),
        inductionHypothesis⟩

theorem Token.isOnSheet_of_scanAll {body : Text} {tokens : List Token}
    (scanned : scanAll body = .ok tokens) : ∀ token ∈ tokens, token.IsOnSheet := by
  obtain ⟨lexemes, -, cuts, rfl⟩ := exists_lexemes scanned
  exact cuts.isOnSheet

/-! ## Phrases on the sheet -/

/-- The values of a phrase and all of their parts are on the sheet. -/
def Phrase.StaysOnSheet : Phrase → Prop
  | .joined _ value | .signed value | .marked value | .single value | .argument value =>
      value.StaysOnSheet
  | .arguments values => ∀ value ∈ values, value.StaysOnSheet
  | .rows lines => ∀ item ∈ lines.flatten, item.StaysOnSheet

theorem Refers.staysOnSheet {sheet : Option Text} {tokens : List Token} {value : Expr}
    (refers : Refers sheet tokens value) (onSheet : ∀ token ∈ tokens, token.IsOnSheet) :
    value.StaysOnSheet := by
  cases refers with
  | cell address columnAbsolute rowAbsolute =>
      exact .of_leaf (onSheet (.cell address columnAbsolute rowAbsolute) List.mem_cons_self) rfl
  | range start stop startColumn startRow stopColumn stopRow =>
      have startOnSheet := onSheet (.cell start startColumn startRow) (by simp)
      have stopOnSheet := onSheet (.cell stop stopColumn stopRow) (by simp)
      exact .of_leaf ⟨startOnSheet, stopOnSheet⟩ rfl
  | columns firstColumn lastColumn inBounds =>
      have firstPositive := Column.number?_pos firstColumn
      have lastPositive := Column.number?_pos lastColumn
      refine .of_leaf ?_ rfl
      unfold Expr.IsOnSheet
      omega
  | rows _ _ firstInBounds lastInBounds =>
      refine .of_leaf ?_ rfl
      unfold Expr.IsOnSheet
      omega

/-- A phrase of tokens on the sheet stays there. -/
theorem Derives.staysOnSheet {tokens : List Token} {phrase : Phrase} (derives : Derives tokens phrase)
    (onSheet : ∀ token ∈ tokens, token.IsOnSheet) : phrase.StaysOnSheet := by
  induction derives with
  | @alone level _ _ _ inductionHypothesis =>
      cases level with
      | comparison | concatenation | sum | product | power => exact inductionHypothesis onSheet
  | @binary level _ _ _ _ _ _ _ _ leftHypothesis rightHypothesis =>
      obtain ⟨leftOnSheet, rightOnSheet⟩ := List.forall_mem_append.mp onSheet
      have left := leftHypothesis leftOnSheet
      have right := rightHypothesis (List.forall_mem_cons.mp rightOnSheet).2
      refine .of_children trivial ?_
      simp only [Expr.children, List.forall_mem_cons]
      cases level with
      | comparison | concatenation | sum | product | power => exact ⟨left, right, nofun⟩
  | unsigned _ inductionHypothesis | unmarked _ inductionHypothesis | given _ inductionHypothesis =>
      exact inductionHypothesis onSheet
  | plus _ inductionHypothesis => exact inductionHypothesis (List.forall_mem_cons.mp onSheet).2
  | minus _ inductionHypothesis =>
      have operand := inductionHypothesis (List.forall_mem_cons.mp onSheet).2
      exact .of_children trivial (List.forall_mem_singleton.mpr operand)
  | percent _ inductionHypothesis =>
      have operand := inductionHypothesis (List.forall_mem_append.mp onSheet).1
      exact .of_children trivial (List.forall_mem_singleton.mpr operand)
  | number | text | error | trueName | falseName | omitted => exact .of_leaf trivial rfl
  | @name identifier _ _ _ => exact .of_leaf (onSheet (.identifier identifier) List.mem_cons_self) rfl
  | reference refers => exact refers.staysOnSheet onSheet
  | qualified refers => exact refers.staysOnSheet (List.forall_mem_cons.mp onSheet).2
  | group _ inductionHypothesis =>
      exact inductionHypothesis (List.forall_mem_append.mp (List.forall_mem_cons.mp onSheet).2).1
  | callEmpty function =>
      exact .of_leaf (onSheet (.identifier function) List.mem_cons_self) rfl
  | @call function tokens values _ _ inductionHypothesis =>
      obtain ⟨named, others⟩ := List.forall_mem_cons.mp onSheet
      have inner := (List.forall_mem_append.mp (List.forall_mem_cons.mp others).2).1
      exact .of_children named (inductionHypothesis inner)
  | array _ inductionHypothesis =>
      have inner := (List.forall_mem_append.mp (List.forall_mem_cons.mp onSheet).2).1
      exact .of_children trivial (inductionHypothesis inner)
  | lastArgument _ inductionHypothesis =>
      exact List.forall_mem_singleton.mpr (inductionHypothesis onSheet)
  | nextArgument _ _ _ firstHypothesis othersHypothesis =>
      obtain ⟨before, after⟩ := List.forall_mem_append.mp onSheet
      exact List.forall_mem_cons.mpr
        ⟨firstHypothesis before, othersHypothesis (List.forall_mem_cons.mp after).2⟩
  | lastItem _ inductionHypothesis =>
      exact List.forall_mem_singleton.mpr (inductionHypothesis onSheet)
  | nextItem _ _ firstHypothesis othersHypothesis | nextRow _ _ firstHypothesis othersHypothesis =>
      obtain ⟨before, after⟩ := List.forall_mem_append.mp onSheet
      exact List.forall_mem_cons.mpr
        ⟨firstHypothesis before, othersHypothesis (List.forall_mem_cons.mp after).2⟩

end Formula

/-! ## References of a draft -/

namespace Draft

theorem Target.inBounds_of_rangeOf? {area : Text} {range : CellRange}
    (found : rangeOf? area = some range) : range.InBounds := by
  obtain ⟨⟨first, rest⟩, -, found⟩ := Option.bind_eq_some_iff.mp found
  dsimp only at found
  split at found
  · obtain ⟨address, inSheet, rfl⟩ := Option.map_eq_some_iff.mp found
    have inBounds := WrittenCell.inBounds_of_address? inSheet
    exact ⟨inBounds, inBounds⟩
  · obtain ⟨⟨second, afterSecond⟩, -, found⟩ := Option.bind_eq_some_iff.mp found
    dsimp only at found
    split at found
    · obtain ⟨start, startInSheet, found⟩ := Option.bind_eq_some_iff.mp found
      obtain ⟨stop, stopInSheet, found⟩ := Option.bind_eq_some_iff.mp found
      cases found
      exact ⟨WrittenCell.inBounds_of_address? startInSheet,
        WrittenCell.inBounds_of_address? stopInSheet⟩
    · cases found
  · cases found

theorem Reference.inBounds {tokens : List Token} {reference : Reference}
    (member : reference ∈ ofTokens tokens) : reference.target.range.InBounds := by
  obtain ⟨token, -, -, resolves, -, -⟩ := exists_token member
  obtain ⟨⟨sheet, area⟩, -, found⟩ := Option.bind_eq_some_iff.mp resolves
  obtain ⟨range, isRange, same⟩ := Option.bind_eq_some_iff.mp found
  rw [← Option.some.inj same]
  exact Target.inBounds_of_rangeOf? isRange

end Draft

/-- Nothing of an accepted formula is outside of the sheet, at any depth, and all of its names are in
upper case. The references found in a draft are on the sheet, whether the draft is accepted or not.
Wherever one is taken away from the number of a row or a column, the number is at least one. -/
theorem Formula.accepted_formulas_stay_on_sheet :
    (∀ body value, parse body = .ok value →
        ∀ part : Expr, part.IsPartOf value → part.IsOnSheet) ∧
      (∀ tokens, ∀ reference ∈ Draft.Reference.ofTokens tokens, reference.target.range.InBounds) ∧
      (∀ row column address, CellAddress.ofOneBased? row column = some address →
        row = address.row + 1 ∧ column = address.column + 1) ∧
      (∀ start stop first last, Descent.columnSpan? start stop = some (first, last) →
        Column.number? (start.dropWhile (· = '$')) = some (first + 1) ∧
          Column.number? (stop.dropWhile (· = '$')) = some (last + 1)) ∧
      ∀ value row, Descent.rowOf? value = some row →
        value.wholeNumber? = some ((row + 1 : Nat) : Int) := by
  refine ⟨fun body value parsed => ?_, fun tokens reference member => Draft.Reference.inBounds member,
    fun row column address found => ?_, fun start stop first last found => ?_,
    fun value row found => Descent.wholeNumber?_of_rowOf? found⟩
  · obtain ⟨tokens, scanned, derives⟩ := derives_of_parse parsed
    exact derives.staysOnSheet (Token.isOnSheet_of_scanAll scanned)
  · obtain ⟨rowEq, columnEq, -⟩ := CellAddress.ofOneBased?_eq_some_iff.mp found
    exact ⟨rowEq, columnEq⟩
  · exact Descent.number?_of_columnSpan? found

/-- The corners of a range that is the first argument of a call behind a minus sign. -/
def Expr.negatedCorners? : Expr → Option (Option Text × CellAddress × CellAddress)
  | .negate (.call _ (.range sheet start stop :: _)) => some (sheet, start, stop)
  | _ => none

theorem Expr.isPartOf_of_negatedCorners? {value : Expr} {sheet : Option Text}
    {start stop : CellAddress} (found : value.negatedCorners? = some (sheet, start, stop)) :
    (Expr.range sheet start stop).IsPartOf value := by
  unfold negatedCorners? at found
  split at found
  · cases found
    exact .child List.mem_cons_self (.child List.mem_cons_self .whole)
  · cases found

/-- The last cell of the sheet, as a corner in a call of a function. -/
theorem Formula.last_cell_stays_on_sheet :
    let body := "-Sum('Ä b'!xfd1048576:$A$1,foo)".toList
    let corners : Expr := .range (some "Ä b".toList) ⟨1048575, 16383⟩ ⟨0, 0⟩
    ∃ value, parse body = .ok value ∧ corners.IsPartOf value ∧ corners.IsOnSheet := by
  intro body corners
  have found : (parse body).toOption.bind Expr.negatedCorners? =
      some (some "Ä b".toList, ⟨1048575, 16383⟩, ⟨0, 0⟩) := by decide +kernel
  cases parsed : parse body with
  | error failure =>
      rw [parsed] at found
      cases found
  | ok value =>
      rw [parsed] at found
      have isPart : corners.IsPartOf value := Expr.isPartOf_of_negatedCorners? found
      exact ⟨value, rfl, isPart,
        accepted_formulas_stay_on_sheet.1 body value parsed corners isPart⟩

end SheetEditor
