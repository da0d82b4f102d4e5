import Mathlib.Data.List.Forall2
import SheetEditor.Proofs.Formula.Chain
import SheetEditor.Proofs.Formula.Spacing

/-!
Contract: the `$` marks of the cells of a formula change nothing but themselves.

Owns: expressions without the marks of their cells, tokens that are the same up to
such marks, and that a formula is accepted with other marks and has the same value
apart from them.

Does not own: which marks a cell is written with (`SheetEditor.Proofs.Draft.AnchorCycle`).
-/

namespace SheetEditor

namespace Expr

mutual

/-- An expression with all of its cells relative, that is without the parts that a `$` fixes. -/
def relative : Expr → Expr
  | .cell sheet address _ _ => .cell sheet address false false
  | .call function arguments => .call function (relativeList arguments)
  | .binary operator left right => .binary operator (relative left) (relative right)
  | .negate operand => .negate (relative operand)
  | .percent operand => .percent (relative operand)
  | .array lines => .array (relativeRows lines)
  | value => value

def relativeList : List Expr → List Expr
  | [] => []
  | value :: values => relative value :: relativeList values

def relativeRows : List (List Expr) → List (List Expr)
  | [] => []
  | line :: lines => relativeList line :: relativeRows lines

end

end Expr

namespace Formula

/-! ## Tokens up to marks -/

namespace Token

/-- The same token, or the same cell with other marks. -/
inductive SameCell : Token → Token → Prop where
  | refl (token : Token) : SameCell token token
  | cell (address : CellAddress) (columnAbsolute rowAbsolute otherColumn otherRow : Bool) :
      SameCell (.cell address columnAbsolute rowAbsolute) (.cell address otherColumn otherRow)

theorem SameCell.eq {token other : Token} (same : SameCell token other)
    (noCell : token.isCell = false) : other = token := by
  cases same with
  | refl => rfl
  | cell => cases noCell

end Token

/-- Tokens that are the same, apart from the marks of cells. -/
abbrev SameCells : List Token → List Token → Prop := List.Forall₂ Token.SameCell

variable {tokens others before after : List Token} {token : Token}

theorem sameCells_refl (tokens : List Token) : SameCells tokens tokens :=
  List.forall₂_same.mpr fun token _ => .refl token

/-- Tokens without cells have no marks that could differ. -/
theorem SameCells.eq_self (same : SameCells tokens others)
    (noCells : tokens.any Token.isCell = false) : others = tokens := by
  induction same with
  | nil => rfl
  | cons sameToken _ inductionHypothesis =>
      rw [List.any_cons, Bool.or_eq_false_iff] at noCells
      rw [sameToken.eq noCells.1, inductionHypothesis noCells.2]

theorem SameCells.cons (same : SameCells (token :: tokens) others) (noCell : token.isCell = false) :
    ∃ rest, others = token :: rest ∧ SameCells tokens rest := by
  cases same with
  | cons sameToken sameRest => exact ⟨_, by rw [sameToken.eq noCell], sameRest⟩

/-- Other tokens are split where the tokens are. -/
theorem SameCells.append (same : SameCells (before ++ after) others) :
    ∃ front back, others = front ++ back ∧ SameCells before front ∧ SameCells after back := by
  have sameFront := List.forall₂_take before.length same
  have sameBack := List.forall₂_drop before.length same
  rw [List.take_left] at sameFront
  rw [List.drop_left] at sameBack
  exact ⟨_, _, (List.take_append_drop before.length others).symm, sameFront, sameBack⟩

/-- A token in the middle stays there. -/
theorem SameCells.around (same : SameCells (before ++ token :: after) others)
    (noCell : token.isCell = false) :
    ∃ front back, others = front ++ token :: back ∧ SameCells before front ∧
      SameCells after back := by
  obtain ⟨front, rest, rfl, sameFront, sameRest⟩ := same.append
  obtain ⟨back, rfl, sameBack⟩ := sameRest.cons noCell
  exact ⟨front, back, rfl, sameFront, sameBack⟩

/-- A token at the end stays there. -/
theorem SameCells.last (same : SameCells (tokens ++ [token]) others)
    (noCell : token.isCell = false) :
    ∃ front, others = front ++ [token] ∧ SameCells tokens front := by
  obtain ⟨front, back, rfl, sameFront, sameBack⟩ := same.around noCell
  rw [sameBack.eq_self rfl]
  exact ⟨front, rfl, sameFront⟩

/-- The tokens around others stay there. -/
theorem SameCells.enclosed {opening closing : Token}
    (same : SameCells (opening :: (tokens ++ [closing])) others) (noOpening : opening.isCell = false)
    (noClosing : closing.isCell = false) :
    ∃ inner, others = opening :: (inner ++ [closing]) ∧ SameCells tokens inner := by
  obtain ⟨rest, rfl, sameRest⟩ := same.cons noOpening
  obtain ⟨inner, rfl, sameInner⟩ := sameRest.last noClosing
  exact ⟨inner, rfl, sameInner⟩

theorem SameCells.ne_nil (same : SameCells tokens others) (nonempty : tokens ≠ []) : others ≠ [] := by
  rintro rfl
  cases same
  exact nonempty rfl

/-! ## Nesting -/

theorem Token.SameCell.advance {other : Token} (same : SameCell token other) (nesting : Nesting) :
    nesting.advance other = nesting.advance token := by
  cases same <;> rfl

theorem SameCells.staysWithinLimit (same : SameCells tokens others) (nesting : Nesting) :
    nesting.staysWithinLimit others = nesting.staysWithinLimit tokens := by
  induction same generalizing nesting with
  | nil => rfl
  | cons sameToken _ inductionHypothesis =>
      rw [Nesting.staysWithinLimit, Nesting.staysWithinLimit, sameToken.advance nesting,
        inductionHypothesis]

/-! ## Expressions up to marks -/

theorem Refers.sameCells {sheet : Option Text} {value : Expr} (refers : Refers sheet tokens value)
    (same : SameCells tokens others) :
    ∃ other : Expr, other.relative = value.relative ∧ Refers sheet others other := by
  cases refers with
  | cell =>
      cases same with
      | cons sameToken sameRest =>
          cases sameRest
          cases sameToken with
          | refl | cell =>
              refine ⟨_, ?_, .cell _ _ _⟩
              rfl
  | range =>
      cases same with
      | cons sameStart sameRest =>
          obtain ⟨_, rfl, sameStop⟩ := SameCells.cons sameRest rfl
          cases sameStop with
          | cons sameStop sameNil =>
              cases sameNil
              refine ⟨.range sheet _ _, rfl, ?_⟩
              cases sameStart <;> cases sameStop <;> exact .range _ _ _ _ _ _
  | columns firstColumn lastColumn inBounds =>
      rw [same.eq_self rfl]
      exact ⟨_, rfl, .columns firstColumn lastColumn inBounds⟩
  | rows firstRow lastRow firstInBounds lastInBounds =>
      rw [same.eq_self rfl]
      exact ⟨_, rfl, .rows firstRow lastRow firstInBounds lastInBounds⟩

/-- Whether tokens form a phrase, up to the marks of its cells. -/
def Phrase.FormedBy (tokens : List Token) : Phrase → Prop
  | .joined level value =>
      ∃ other : Expr, other.relative = value.relative ∧ Derives tokens (.joined level other)
  | .signed value =>
      ∃ other : Expr, other.relative = value.relative ∧ Derives tokens (.signed other)
  | .marked value =>
      ∃ other : Expr, other.relative = value.relative ∧ Derives tokens (.marked other)
  | .single value =>
      ∃ other : Expr, other.relative = value.relative ∧ Derives tokens (.single other)
  | .argument value =>
      ∃ other : Expr, other.relative = value.relative ∧ Derives tokens (.argument other)
  | .arguments values =>
      ∃ others, Expr.relativeList others = Expr.relativeList values ∧
        Derives tokens (.arguments others)
  | .rows lines =>
      ∃ others, Expr.relativeRows others = Expr.relativeRows lines ∧ Derives tokens (.rows others)

/-- With other marks, the tokens form the phrase as well, up to marks. -/
def KeepsForm (tokens : List Token) (phrase : Phrase) : Prop :=
  ∀ ⦃others⦄, SameCells tokens others → phrase.FormedBy others

namespace KeepsForm

variable {value : Expr} {level : Binding}

/-! ### Joined levels -/

/-- An operand of any level is a phrase with one value. -/
theorem operand (keeps : KeepsForm tokens (operandPhrase level value))
    (same : SameCells tokens others) :
    ∃ other : Expr, other.relative = value.relative ∧
      Derives others (operandPhrase level other) := by
  have formed := keeps same
  cases level with
  | comparison | concatenation | sum | product | power => exact formed

theorem alone (keeps : KeepsForm tokens (operandPhrase level value)) :
    KeepsForm tokens (.joined level value) := by
  intro others same
  obtain ⟨other, relative, derives⟩ := keeps.operand same
  exact ⟨other, relative, .alone derives⟩

theorem binary {left right : Expr} {operator : BinaryOperator}
    (keepsLeft : KeepsForm before (.joined level left)) (binds : operator.binding = level)
    (keepsRight : KeepsForm after (operandPhrase level right)) :
    KeepsForm (before ++ .operator operator :: after)
      (.joined level (.binary operator left right)) := by
  intro others same
  obtain ⟨front, back, rfl, sameFront, sameBack⟩ := same.around rfl
  obtain ⟨otherLeft, relativeLeft, leftDerives⟩ := keepsLeft sameFront
  obtain ⟨otherRight, relativeRight, rightDerives⟩ := keepsRight.operand sameBack
  refine ⟨.binary operator otherLeft otherRight, ?_, .binary leftDerives binds rightDerives⟩
  exact congrArg₂ (Expr.binary operator) relativeLeft relativeRight

/-! ### Signs and percents -/

theorem unsigned (keeps : KeepsForm tokens (.marked value)) : KeepsForm tokens (.signed value) := by
  intro others same
  obtain ⟨other, relative, derives⟩ := keeps same
  exact ⟨other, relative, .unsigned derives⟩

theorem plus (keeps : KeepsForm tokens (.signed value)) :
    KeepsForm (.operator .add :: tokens) (.signed value) := by
  intro others same
  obtain ⟨rest, rfl, sameRest⟩ := same.cons rfl
  obtain ⟨other, relative, derives⟩ := keeps sameRest
  exact ⟨other, relative, .plus derives⟩

theorem minus (keeps : KeepsForm tokens (.signed value)) :
    KeepsForm (.operator .subtract :: tokens) (.signed (.negate value)) := by
  intro others same
  obtain ⟨rest, rfl, sameRest⟩ := same.cons rfl
  obtain ⟨other, relative, derives⟩ := keeps sameRest
  exact ⟨.negate other, congrArg Expr.negate relative, .minus derives⟩

theorem unmarked (keeps : KeepsForm tokens (.single value)) : KeepsForm tokens (.marked value) := by
  intro others same
  obtain ⟨other, relative, derives⟩ := keeps same
  exact ⟨other, relative, .unmarked derives⟩

theorem percent (keeps : KeepsForm tokens (.marked value)) :
    KeepsForm (tokens ++ [.percent]) (.marked (.percent value)) := by
  intro others same
  obtain ⟨front, rfl, sameFront⟩ := same.last rfl
  obtain ⟨other, relative, derives⟩ := keeps sameFront
  exact ⟨.percent other, congrArg Expr.percent relative, .percent derives⟩

/-! ### Literals, names and references -/

/-- What has no cells is formed by the same tokens only. -/
theorem withoutCells (derives : Derives tokens (.single value))
    (noCells : tokens.any Token.isCell = false) : KeepsForm tokens (.single value) := by
  intro others same
  rw [same.eq_self noCells]
  exact ⟨value, rfl, derives⟩

theorem reference (refers : Refers none tokens value) : KeepsForm tokens (.single value) := by
  intro others same
  obtain ⟨other, relative, refersOther⟩ := refers.sameCells same
  exact ⟨other, relative, .reference refersOther⟩

theorem qualified {sheet : Text} (refers : Refers (some sheet) tokens value) :
    KeepsForm (.qualifier sheet :: tokens) (.single value) := by
  intro others same
  obtain ⟨rest, rfl, sameRest⟩ := same.cons rfl
  obtain ⟨other, relative, refersOther⟩ := refers.sameCells sameRest
  exact ⟨other, relative, .qualified refersOther⟩

/-! ### Groups and calls -/

theorem group (keeps : KeepsForm tokens (.joined .comparison value)) :
    KeepsForm (.openParenthesis :: (tokens ++ [.closeParenthesis])) (.single value) := by
  intro others same
  obtain ⟨inner, rfl, sameInner⟩ := same.enclosed rfl rfl
  obtain ⟨other, relative, derives⟩ := keeps sameInner
  exact ⟨other, relative, .group derives⟩

theorem call {function : Text} {values : List Expr} (nonempty : tokens ≠ [])
    (keeps : KeepsForm tokens (.arguments values)) :
    KeepsForm (.identifier function :: .openParenthesis :: (tokens ++ [.closeParenthesis]))
      (.single (.call function values)) := by
  intro others same
  obtain ⟨_, rfl, sameRest⟩ := same.cons rfl
  obtain ⟨inner, rfl, sameInner⟩ := sameRest.enclosed rfl rfl
  obtain ⟨otherValues, relative, derives⟩ := keeps sameInner
  exact ⟨.call function otherValues, congrArg (Expr.call function) relative,
    .call (sameInner.ne_nil nonempty) derives⟩

theorem omitted : KeepsForm [] (.argument .omitted) := by
  intro others same
  rw [same.eq_self rfl]
  exact ⟨.omitted, rfl, .omitted⟩

theorem given (keeps : KeepsForm tokens (.joined .comparison value)) :
    KeepsForm tokens (.argument value) := by
  intro others same
  obtain ⟨other, relative, derives⟩ := keeps same
  exact ⟨other, relative, .given derives⟩

theorem lastArgument (keeps : KeepsForm tokens (.argument value)) :
    KeepsForm tokens (.arguments [value]) := by
  intro others same
  obtain ⟨other, relative, derives⟩ := keeps same
  exact ⟨[other], congrArg (· :: []) relative, .lastArgument derives⟩

theorem nextArgument {values : List Expr} {separator : Token}
    (keepsFirst : KeepsForm before (.argument value)) (separates : separator.isSeparator = true)
    (keepsOthers : KeepsForm after (.arguments values)) :
    KeepsForm (before ++ separator :: after) (.arguments (value :: values)) := by
  intro others same
  have noCell : separator.isCell = false := by
    cases separator <;> first | rfl | cases separates
  obtain ⟨front, back, rfl, sameFront, sameBack⟩ := same.around noCell
  obtain ⟨first, relativeFirst, firstDerives⟩ := keepsFirst sameFront
  obtain ⟨otherValues, relativeOthers, othersDerive⟩ := keepsOthers sameBack
  exact ⟨first :: otherValues, congrArg₂ List.cons relativeFirst relativeOthers,
    .nextArgument firstDerives separates othersDerive⟩

/-! ### Arrays -/

theorem array {rows : List (List Expr)} (keeps : KeepsForm tokens (.rows rows)) :
    KeepsForm (.openBrace :: (tokens ++ [.closeBrace])) (.single (.array rows)) := by
  intro others same
  obtain ⟨inner, rfl, sameInner⟩ := same.enclosed rfl rfl
  obtain ⟨otherRows, relative, derives⟩ := keeps sameInner
  exact ⟨.array otherRows, congrArg Expr.array relative, .array derives⟩

theorem lastItem (keeps : KeepsForm tokens (.signed value)) :
    KeepsForm tokens (.rows [[value]]) := by
  intro others same
  obtain ⟨item, relative, derives⟩ := keeps same
  exact ⟨[[item]], congrArg (fun item => [[item]]) relative, .lastItem derives⟩

theorem nextItem {row : List Expr} {rows : List (List Expr)}
    (keepsFirst : KeepsForm before (.signed value))
    (keepsOthers : KeepsForm after (.rows (row :: rows))) :
    KeepsForm (before ++ .comma :: after) (.rows ((value :: row) :: rows)) := by
  intro others same
  obtain ⟨front, back, rfl, sameFront, sameBack⟩ := same.around rfl
  obtain ⟨item, relativeItem, firstDerives⟩ := keepsFirst sameFront
  obtain ⟨otherRows, relativeRows, othersDerive⟩ := keepsOthers sameBack
  -- The item joins the first row of what follows, and there is one.
  obtain ⟨otherRow, laterRows, rfl⟩ := othersDerive.rows_eq_cons
  injection relativeRows with relativeRow relativeLater
  refine ⟨(item :: otherRow) :: laterRows, ?_, .nextItem firstDerives othersDerive⟩
  exact congrArg₂ List.cons (congrArg₂ List.cons relativeItem relativeRow) relativeLater

theorem nextRow {rows : List (List Expr)} (keepsFirst : KeepsForm before (.signed value))
    (keepsOthers : KeepsForm after (.rows rows)) :
    KeepsForm (before ++ .semicolon :: after) (.rows ([value] :: rows)) := by
  intro others same
  obtain ⟨front, back, rfl, sameFront, sameBack⟩ := same.around rfl
  obtain ⟨item, relativeItem, firstDerives⟩ := keepsFirst sameFront
  obtain ⟨otherRows, relativeRows, othersDerive⟩ := keepsOthers sameBack
  refine ⟨[item] :: otherRows, ?_, .nextRow firstDerives othersDerive⟩
  exact congrArg₂ List.cons (congrArg (fun item => [item]) relativeItem) relativeRows

end KeepsForm

/-- Other marks make the same phrase, up to marks. -/
theorem Derives.formedBy {phrase : Phrase} (derives : Derives tokens phrase) :
    KeepsForm tokens phrase := by
  induction derives with
  | alone _ keeps => exact keeps.alone
  | binary _ binds _ keepsLeft keepsRight => exact keepsLeft.binary binds keepsRight
  | unsigned _ keeps => exact keeps.unsigned
  | plus _ keeps => exact keeps.plus
  | minus _ keeps => exact keeps.minus
  | unmarked _ keeps => exact keeps.unmarked
  | percent _ keeps => exact keeps.percent
  | number value => exact .withoutCells (.number value) rfl
  | text content => exact .withoutCells (.text content) rfl
  | error literal => exact .withoutCells (.error literal) rfl
  | trueName => exact .withoutCells .trueName rfl
  | falseName => exact .withoutCells .falseName rfl
  | name notTrue notFalse unmarked => exact .withoutCells (.name notTrue notFalse unmarked) rfl
  | reference refers => exact .reference refers
  | qualified refers => exact .qualified refers
  | group _ keeps => exact keeps.group
  | callEmpty function => exact .withoutCells (.callEmpty function) rfl
  | call nonempty _ keeps => exact keeps.call nonempty
  | array _ keeps => exact keeps.array
  | omitted => exact .omitted
  | given _ keeps => exact keeps.given
  | lastArgument _ keeps => exact keeps.lastArgument
  | nextArgument _ separates _ keepsFirst keepsOthers =>
      exact keepsFirst.nextArgument separates keepsOthers
  | lastItem _ keeps => exact keeps.lastItem
  | nextItem _ _ keepsFirst keepsOthers => exact keepsFirst.nextItem keepsOthers
  | nextRow _ _ keepsFirst keepsOthers => exact keepsFirst.nextRow keepsOthers

/-! ## Accepted formulas -/

theorem isShallow_of_parse {body : Text} {value : Expr} (parsed : parse body = .ok value)
    (scanned : Token.scanAll body = .ok tokens) : isShallow tokens = true := by
  unfold parse at parsed
  split at parsed
  · cases parsed
  · simp only [scanned, bind, Except.bind] at parsed
    split at parsed
    · cases parsed
    · split at parsed
      · cases parsed
      · next shallow => simpa using shallow

/-- With other marks, a formula that does not get too long is accepted as well, and means the same
apart from them. -/
theorem parse_of_sameCells {body other : Text} {value : Expr} (parsed : parse body = .ok value)
    (scanned : Token.scanAll body = .ok tokens) (scannedOther : Token.scanAll other = .ok others)
    (same : SameCells tokens others) (short : other.length ≤ lengthLimit) :
    ∃ otherValue : Expr, parse other = .ok otherValue ∧ otherValue.relative = value.relative := by
  obtain ⟨found, scannedFound, derives⟩ := derives_of_parse parsed
  obtain rfl : tokens = found := by
    rw [scanned] at scannedFound
    exact Except.ok.inj scannedFound
  obtain ⟨otherValue, relative, otherDerives⟩ := derives.formedBy same
  have shallow : isShallow others = true := by
    rw [isShallow, same.staysWithinLimit]
    exact isShallow_of_parse parsed scanned
  exact ⟨otherValue, parse_of_derives short scannedOther shallow otherDerives, relative⟩

end Formula

end SheetEditor
