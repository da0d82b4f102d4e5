import SheetEditor.Draft.Reference
import SheetEditor.Proofs.Formula.Grammar

/-!
Contract: the references of an expression, and where they stand among the tokens.

Owns: the cells and blocks of cells that an expression refers to, in the order of
the text, and the row of operands, references and marks that the tokens of an
expression form.

Does not own: how the tokens are spelled (`SheetEditor.Proofs.Formula.Lexeme`).

The nesting of an expression does not matter for its references. What matters is
that something which cannot be read with an operand or a reference follows it, or
nothing at all.
-/

namespace SheetEditor

open Draft (Target)

namespace Expr

mutual

/-- The cells and blocks of cells in an expression, in the order of the text. Whole columns and rows
do not count. -/
def references : Expr → List Target
  | .cell sheet address _ _ => [⟨.single address, sheet⟩]
  | .range sheet start stop => [⟨⟨start, stop⟩, sheet⟩]
  | .call _ arguments => referencesOfList arguments
  | .binary _ left right => references left ++ references right
  | .negate operand | .percent operand => references operand
  | .array lines => referencesOfRows lines
  | .number _ | .text _ | .boolean _ | .error _ | .columns _ _ _ | .rows _ _ _ | .name _
  | .omitted => []

def referencesOfList : List Expr → List Target
  | [] => []
  | value :: values => references value ++ referencesOfList values

def referencesOfRows : List (List Expr) → List Target
  | [] => []
  | line :: lines => referencesOfList line ++ referencesOfRows lines

end

end Expr

namespace Formula

/-! ## Operands, references and marks -/

namespace Token

/-- Whether a token is an operator, a bracket or a separator. -/
def isMark : Token → Bool
  | .operator _ | .percent | .openParenthesis | .closeParenthesis | .openBrace | .closeBrace
  | .comma | .semicolon => true
  | _ => false

/-- Whether a token can come right after an operand. -/
def delimits : Token → Bool
  | .operator _ | .percent | .closeParenthesis | .closeBrace | .comma | .semicolon => true
  | _ => false

/-- Whether a token is an operand that refers to no cells. -/
def isConstant : Token → Bool
  | .number _ | .text _ | .error _ => true
  | .identifier name => !name.contains '$'
  | _ => false

end Token

/-- Tokens that can come right after an operand. -/
def Delimited (tokens : List Token) : Prop := ∀ token ∈ tokens.head?, token.delimits = true

/-- The row of operands, references and marks of an expression, with the cells referred to. -/
inductive Layout : List Token → List Target → Prop where
  | nil : Layout [] []
  | mark {token : Token} {rest : List Token} {found : List Target} (isMark : token.isMark = true)
      (later : Layout rest found) : Layout (token :: rest) found
  | call {function : Text} {rest : List Token} {found : List Target} (later : Layout rest found) :
      Layout (.identifier function :: .openParenthesis :: rest) found
  | constant {token : Token} {rest : List Token} {found : List Target}
      (isConstant : token.isConstant = true) (delimited : Delimited rest)
      (later : Layout rest found) : Layout (token :: rest) found
  | reference {tokens rest : List Token} {value : Expr} {found : List Target}
      (refers : Refers none tokens value) (delimited : Delimited rest) (later : Layout rest found) :
      Layout (tokens ++ rest) (value.references ++ found)
  | qualified {sheet : Text} {tokens rest : List Token} {value : Expr} {found : List Target}
      (refers : Refers (some sheet) tokens value) (delimited : Delimited rest)
      (later : Layout rest found) :
      Layout (.qualifier sheet :: (tokens ++ rest)) (value.references ++ found)

/-- The cells that a phrase refers to. -/
def Phrase.references : Phrase → List Target
  | .joined _ value | .signed value | .marked value | .single value | .argument value =>
      value.references
  | .arguments values => Expr.referencesOfList values
  | .rows lines => Expr.referencesOfRows lines

theorem references_operandPhrase (level : Binding) (value : Expr) :
    (operandPhrase level value).references = value.references := by
  cases level <;> rfl

theorem delimited_nil : Delimited [] := by
  rintro first ⟨⟩

theorem delimited_cons {token : Token} (delimits : token.delimits = true) (rest : List Token) :
    Delimited (token :: rest) := by
  rintro first ⟨⟩
  exact delimits

/-- A phrase is laid out in front of whatever is laid out and can come after it. -/
theorem Derives.layout {tokens : List Token} {phrase : Phrase} (derives : Derives tokens phrase)
    {rest : List Token} {found : List Target} (delimited : Delimited rest)
    (later : Layout rest found) : Layout (tokens ++ rest) (phrase.references ++ found) := by
  induction derives generalizing rest found with
  | @alone level _ value _ inductionHypothesis =>
      have laid := inductionHypothesis delimited later
      rwa [references_operandPhrase] at laid
  | @binary level before after left right operator _ _ _ leftHypothesis rightHypothesis =>
      have rightLaid := rightHypothesis delimited later
      rw [references_operandPhrase] at rightLaid
      have delimits : (Token.operator operator).delimits = true := rfl
      have laid := leftHypothesis (delimited_cons delimits (after ++ rest)) (.mark rfl rightLaid)
      simpa [Phrase.references, Expr.references] using laid
  | unsigned _ inductionHypothesis | unmarked _ inductionHypothesis | given _ inductionHypothesis =>
      exact inductionHypothesis delimited later
  | plus _ inductionHypothesis | minus _ inductionHypothesis =>
      exact .mark rfl (inductionHypothesis delimited later)
  | percent _ inductionHypothesis =>
      rw [List.append_assoc]
      exact inductionHypothesis (delimited_cons rfl rest) (.mark rfl later)
  | number | text | error | trueName | falseName => exact .constant rfl delimited later
  | name _ _ unmarked =>
      refine .constant ?_ delimited later
      rw [Token.isConstant, unmarked]
      rfl
  | reference refers => exact .reference refers delimited later
  | qualified refers => exact .qualified refers delimited later
  | group _ inductionHypothesis =>
      rw [List.cons_append, List.append_assoc]
      exact .mark rfl (inductionHypothesis (delimited_cons rfl rest) (.mark rfl later))
  | callEmpty => exact .call (.mark rfl later)
  | call _ _ inductionHypothesis =>
      rw [List.cons_append, List.cons_append, List.append_assoc]
      exact .call (inductionHypothesis (delimited_cons rfl rest) (.mark rfl later))
  | array _ inductionHypothesis =>
      rw [List.cons_append, List.append_assoc]
      exact .mark rfl (inductionHypothesis (delimited_cons rfl rest) (.mark rfl later))
  | omitted => exact later
  | lastArgument _ inductionHypothesis =>
      have laid := inductionHypothesis delimited later
      simpa [Phrase.references, Expr.referencesOfList] using laid
  | @nextArgument before after value values separator _ separates _ firstHypothesis othersHypothesis =>
      have delimits : separator.delimits = true := by
        cases separator <;> first | rfl | cases separates
      have isMark : separator.isMark = true := by
        cases separator <;> first | rfl | cases separates
      have laid := firstHypothesis (delimited_cons delimits (after ++ rest))
        (.mark isMark (othersHypothesis delimited later))
      simpa [Phrase.references, Expr.referencesOfList] using laid
  | lastItem _ inductionHypothesis =>
      have laid := inductionHypothesis delimited later
      simpa [Phrase.references, Expr.referencesOfRows, Expr.referencesOfList] using laid
  | @nextItem before after _ _ _ _ _ firstHypothesis othersHypothesis =>
      have comma : Token.delimits .comma = true := rfl
      have laid := firstHypothesis (delimited_cons comma (after ++ rest))
        (.mark rfl (othersHypothesis delimited later))
      simpa [Phrase.references, Expr.referencesOfRows, Expr.referencesOfList] using laid
  | @nextRow before after _ _ _ _ firstHypothesis othersHypothesis =>
      have semicolon : Token.delimits .semicolon = true := rfl
      have laid := firstHypothesis (delimited_cons semicolon (after ++ rest))
        (.mark rfl (othersHypothesis delimited later))
      simpa [Phrase.references, Expr.referencesOfRows, Expr.referencesOfList] using laid

end Formula

end SheetEditor
