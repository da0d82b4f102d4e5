import SheetEditor.Formula.Descent
import SheetEditor.Formula.Nesting

/-!
Contract: the grammar of formulas, as a relation between tokens and expressions.

Owns: the phrases of the grammar, the rules by which a stretch of tokens forms a
phrase, and the tokens with which a phrase can begin.

Does not own: the readers that recognise the phrases
(`SheetEditor.Proofs.Formula.Soundness`, `SheetEditor.Proofs.Formula.Completeness`).

The rules do not look ahead. A name or a cell may end wherever the rule for it
ends, and only the rules around it exclude a colon or a parenthesis after it.
-/

namespace SheetEditor.Formula

/-! ## References -/

/-- Tokens that refer to cells of a sheet, without the qualifier. -/
inductive Refers (sheet : Option Text) : List Token → Expr → Prop where
  | cell (address : CellAddress) (columnAbsolute rowAbsolute : Bool) :
      Refers sheet [.cell address columnAbsolute rowAbsolute]
        (.cell sheet address columnAbsolute rowAbsolute)
  | range (start stop : CellAddress) (startColumn startRow stopColumn stopRow : Bool) :
      Refers sheet [.cell start startColumn startRow, .colon, .cell stop stopColumn stopRow]
        (.range sheet start stop)
  | columns {start stop : Text} {first last : Nat}
      (firstColumn : Column.number? (start.dropWhile (· = '$')) = some first)
      (lastColumn : Column.number? (stop.dropWhile (· = '$')) = some last)
      (inBounds : first ≤ columnCount ∧ last ≤ columnCount) :
      Refers sheet [.identifier start, .colon, .identifier stop]
        (.columns sheet (first - 1) (last - 1))
  | rows {start stop : Binary64} {first last : Int}
      (firstRow : start.wholeNumber? = some first) (lastRow : stop.wholeNumber? = some last)
      (firstInBounds : 1 ≤ first ∧ first ≤ rowCount)
      (lastInBounds : 1 ≤ last ∧ last ≤ rowCount) :
      Refers sheet [.number start, .colon, .number stop]
        (.rows sheet (first.toNat - 1) (last.toNat - 1))

/-! ## Phrases -/

/-- What a stretch of tokens can form, with the value it has. -/
inductive Phrase where
  /-- Operands joined by operators of a level or of tighter ones. -/
  | joined (level : Binding) (value : Expr)
  /-- An operand with signs before it. -/
  | signed (value : Expr)
  /-- An operand with percent marks after it. -/
  | marked (value : Expr)
  /-- A single operand. -/
  | single (value : Expr)
  /-- The place of an argument, which may be left out. -/
  | argument (value : Expr)
  | arguments (values : List Expr)
  /-- The rows of an array constant. -/
  | rows (rows : List (List Expr))

/-- The phrase that an operator of a level takes as its right operand. -/
def operandPhrase : Binding → Expr → Phrase
  | .comparison => .joined .concatenation
  | .concatenation => .joined .sum
  | .sum => .joined .product
  | .product => .joined .power
  | .power => .signed

namespace Token

/-- Whether a token separates arguments. -/
def isSeparator : Token → Bool
  | .comma | .semicolon => true
  | _ => false

/-- Whether a single operand can begin with a token. -/
def beginsOperand : Token → Bool
  | .number _ | .text _ | .error _ | .cell .. | .qualifier _ | .identifier _
  | .openParenthesis | .openBrace => true
  | _ => false

/-- Whether an expression can begin with a token. -/
def beginsExpression (token : Token) : Bool := token.beginsOperand || token.isSign

end Token

/-- The grammar. Operators of one level associate to the left, each minus sign negates what follows
it, and percent marks stack. -/
inductive Derives : List Token → Phrase → Prop where
  | alone {level : Binding} {tokens : List Token} {value : Expr}
      (operand : Derives tokens (operandPhrase level value)) : Derives tokens (.joined level value)
  | binary {level : Binding} {before after : List Token} {left right : Expr}
      {operator : BinaryOperator} (leftOperand : Derives before (.joined level left))
      (binds : operator.binding = level)
      (rightOperand : Derives after (operandPhrase level right)) :
      Derives (before ++ .operator operator :: after) (.joined level (.binary operator left right))
  | unsigned {tokens : List Token} {value : Expr} (operand : Derives tokens (.marked value)) :
      Derives tokens (.signed value)
  | plus {tokens : List Token} {value : Expr} (operand : Derives tokens (.signed value)) :
      Derives (.operator .add :: tokens) (.signed value)
  | minus {tokens : List Token} {value : Expr} (operand : Derives tokens (.signed value)) :
      Derives (.operator .subtract :: tokens) (.signed (.negate value))
  | unmarked {tokens : List Token} {value : Expr} (operand : Derives tokens (.single value)) :
      Derives tokens (.marked value)
  | percent {tokens : List Token} {value : Expr} (operand : Derives tokens (.marked value)) :
      Derives (tokens ++ [.percent]) (.marked (.percent value))
  | number (value : Binary64) : Derives [.number value] (.single (.number value))
  | text (content : Text) : Derives [.text content] (.single (.text content))
  | error (literal : ErrorLiteral) : Derives [.error literal] (.single (.error literal))
  | trueName : Derives [.identifier "TRUE".toList] (.single (.boolean true))
  | falseName : Derives [.identifier "FALSE".toList] (.single (.boolean false))
  | name {identifier : Text} (notTrue : identifier ≠ "TRUE".toList)
      (notFalse : identifier ≠ "FALSE".toList) (unmarked : identifier.contains '$' = false) :
      Derives [.identifier identifier] (.single (.name identifier))
  | reference {tokens : List Token} {value : Expr} (refers : Refers none tokens value) :
      Derives tokens (.single value)
  | qualified {sheet : Text} {tokens : List Token} {value : Expr}
      (refers : Refers (some sheet) tokens value) :
      Derives (.qualifier sheet :: tokens) (.single value)
  | group {tokens : List Token} {value : Expr} (inner : Derives tokens (.joined .comparison value)) :
      Derives (.openParenthesis :: (tokens ++ [.closeParenthesis])) (.single value)
  | callEmpty (function : Text) :
      Derives [.identifier function, .openParenthesis, .closeParenthesis]
        (.single (.call function []))
  | call {function : Text} {tokens : List Token} {values : List Expr} (nonempty : tokens ≠ [])
      (inner : Derives tokens (.arguments values)) :
      Derives (.identifier function :: .openParenthesis :: (tokens ++ [.closeParenthesis]))
        (.single (.call function values))
  | array {tokens : List Token} {rows : List (List Expr)} (inner : Derives tokens (.rows rows)) :
      Derives (.openBrace :: (tokens ++ [.closeBrace])) (.single (.array rows))
  | omitted : Derives [] (.argument .omitted)
  | given {tokens : List Token} {value : Expr} (inner : Derives tokens (.joined .comparison value)) :
      Derives tokens (.argument value)
  | lastArgument {tokens : List Token} {value : Expr} (last : Derives tokens (.argument value)) :
      Derives tokens (.arguments [value])
  | nextArgument {before after : List Token} {value : Expr} {values : List Expr} {separator : Token}
      (first : Derives before (.argument value)) (separates : separator.isSeparator = true)
      (others : Derives after (.arguments values)) :
      Derives (before ++ separator :: after) (.arguments (value :: values))
  | lastItem {tokens : List Token} {item : Expr} (last : Derives tokens (.signed item)) :
      Derives tokens (.rows [[item]])
  | nextItem {before after : List Token} {item : Expr} {row : List Expr} {rows : List (List Expr)}
      (first : Derives before (.signed item)) (others : Derives after (.rows (row :: rows))) :
      Derives (before ++ .comma :: after) (.rows ((item :: row) :: rows))
  | nextRow {before after : List Token} {item : Expr} {rows : List (List Expr)}
      (first : Derives before (.signed item)) (others : Derives after (.rows rows)) :
      Derives (before ++ .semicolon :: after) (.rows ([item] :: rows))

/-- An array constant has a row. -/
theorem Derives.rows_eq_cons {tokens : List Token} {rows : List (List Expr)}
    (derives : Derives tokens (.rows rows)) : ∃ row others, rows = row :: others := by
  cases derives with
  | lastItem | nextItem | nextRow => exact ⟨_, _, rfl⟩

/-! ## First tokens -/

/-- Tokens of which there is a first one, and it passes a test. -/
def BeginsWith (test : Token → Bool) (tokens : List Token) : Prop :=
  ∃ first rest, tokens = first :: rest ∧ test first = true

theorem BeginsWith.append {test : Token → Bool} {tokens : List Token}
    (begins : BeginsWith test tokens) (rest : List Token) : BeginsWith test (tokens ++ rest) := by
  obtain ⟨first, others, rfl, passes⟩ := begins
  exact ⟨first, others ++ rest, rfl, passes⟩

theorem BeginsWith.expression {tokens : List Token} (begins : BeginsWith Token.beginsOperand tokens) :
    BeginsWith Token.beginsExpression tokens := by
  obtain ⟨first, rest, rfl, passes⟩ := begins
  exact ⟨first, rest, rfl, by rw [Token.beginsExpression, passes, Bool.true_or]⟩

/-- No expression begins with a closing parenthesis. -/
theorem BeginsWith.ne_closeParenthesis {tokens : List Token}
    (begins : BeginsWith Token.beginsExpression tokens) :
    ∀ first ∈ tokens.head?, first ≠ .closeParenthesis := by
  obtain ⟨first, rest, rfl, passes⟩ := begins
  intro head isHead
  cases isHead
  rintro rfl
  cases passes

theorem Refers.begins {sheet : Option Text} {tokens : List Token} {value : Expr}
    (refers : Refers sheet tokens value) : BeginsWith Token.beginsOperand tokens := by
  cases refers with
  | cell | range | columns | rows => exact ⟨_, _, rfl, rfl⟩

/-- How the tokens of a phrase begin. Only the place of an argument may be empty. -/
def Phrase.BeginsIn (tokens : List Token) : Phrase → Prop
  | .joined _ _ | .signed _ | .rows _ => BeginsWith Token.beginsExpression tokens
  | .marked _ | .single _ => BeginsWith Token.beginsOperand tokens
  | .argument _ => tokens = [] ∨ BeginsWith Token.beginsExpression tokens
  | .arguments _ => ∀ first ∈ tokens.head?, first ≠ .closeParenthesis

/-- The first token of a phrase. -/
theorem Derives.begins {tokens : List Token} {phrase : Phrase} (derives : Derives tokens phrase) :
    phrase.BeginsIn tokens := by
  induction derives with
  | @alone level tokens value _ inductionHypothesis =>
      cases level with
      | comparison | concatenation | sum | product | power => exact inductionHypothesis
  | binary _ _ _ leftHypothesis _ => exact BeginsWith.append leftHypothesis _
  | unsigned _ inductionHypothesis => exact BeginsWith.expression inductionHypothesis
  | plus | minus => exact ⟨_, _, rfl, rfl⟩
  | unmarked _ inductionHypothesis => exact inductionHypothesis
  | percent _ inductionHypothesis => exact BeginsWith.append inductionHypothesis _
  | reference refers => exact refers.begins
  | number | text | error | trueName | falseName | name | qualified | group | callEmpty | call
  | array => exact ⟨_, _, rfl, rfl⟩
  | omitted => exact .inl rfl
  | given _ inductionHypothesis => exact .inr inductionHypothesis
  | lastArgument _ inductionHypothesis =>
      cases inductionHypothesis with
      | inl empty => simp [Phrase.BeginsIn, empty]
      | inr begins => exact begins.ne_closeParenthesis
  | @nextArgument before after _ _ separator _ separates _ firstHypothesis _ =>
      -- A first argument that is left out leaves the separator in front.
      cases firstHypothesis with
      | inl empty =>
          rw [empty]
          intro first isFirst
          cases isFirst
          rintro rfl
          cases separates
      | inr begins => exact (begins.append _).ne_closeParenthesis
  | lastItem _ inductionHypothesis => exact inductionHypothesis
  | nextItem _ _ firstHypothesis _ => exact BeginsWith.append firstHypothesis _
  | nextRow _ _ firstHypothesis _ => exact BeginsWith.append firstHypothesis _

end SheetEditor.Formula
