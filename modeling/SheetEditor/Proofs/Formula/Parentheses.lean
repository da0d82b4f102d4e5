import SheetEditor.Proofs.Formula.ErrorLiteral
import SheetEditor.Proofs.Formula.Grammar
import SheetEditor.Proofs.Formula.Lexeme

/-!
Contract: the parentheses and commas of a formula.

Owns: the outline of tokens, that the parentheses of a phrase pair up, and that
the outline of the tokens is that of the text.
-/

namespace SheetEditor.Formula

open Text (Nested Outlines isPlain)

/-! ## The outline of tokens -/

/-- What a token adds to the outline of its text: a parenthesis, a comma, or nothing. -/
def Token.outlined? : Token → Option Char
  | .openParenthesis => some '('
  | .closeParenthesis => some ')'
  | .comma => some ','
  | _ => none

def outline (tokens : List Token) : Text := tokens.filterMap Token.outlined?

theorem outline_append (left right : List Token) :
    outline (left ++ right) = outline left ++ outline right :=
  List.filterMap_append

theorem outline_cons {token : Token} (none : token.outlined? = none) (tokens : List Token) :
    outline (token :: tokens) = outline tokens :=
  List.filterMap_cons_none none

theorem Refers.outline_eq_nil {sheet : Option Text} {tokens : List Token} {value : Expr}
    (refers : Refers sheet tokens value) : outline tokens = [] := by
  cases refers with
  | cell | range | columns | rows => rfl

/-- Whether the parentheses among tokens pair up. -/
def IsNested (tokens : List Token) : Prop := ∃ commas, Nested (outline tokens) commas

theorem isNested_nil : IsNested [] := ⟨0, .nil⟩

theorem IsNested.between {left right : List Token} {token : Token} (before : IsNested left)
    (after : IsNested right) (none : token.outlined? = none) :
    IsNested (left ++ token :: right) := by
  obtain ⟨commasBefore, before⟩ := before
  obtain ⟨commasAfter, after⟩ := after
  refine ⟨commasBefore + commasAfter, ?_⟩
  rw [outline_append, outline_cons none]
  exact before.append after

theorem IsNested.comma {left right : List Token} (before : IsNested left)
    (after : IsNested right) : IsNested (left ++ .comma :: right) := by
  obtain ⟨commasBefore, before⟩ := before
  obtain ⟨commasAfter, after⟩ := after
  refine ⟨commasBefore + (commasAfter + 1), ?_⟩
  rw [outline_append]
  exact before.append (.comma after)

/-- Parentheses around tokens leave no comma outside. -/
theorem nested_parentheses {tokens : List Token} {commas : Nat}
    (nested : Nested (outline tokens) commas) :
    Nested (outline (.openParenthesis :: (tokens ++ [.closeParenthesis]))) 0 := by
  have outer : outline (.openParenthesis :: (tokens ++ [.closeParenthesis])) =
      '(' :: (outline tokens ++ [')']) :=
    congrArg ('(' :: ·) (outline_append tokens _)
  rw [outer]
  exact nested.enclose

theorem IsNested.group {tokens : List Token} (nested : IsNested tokens) :
    IsNested (.openParenthesis :: (tokens ++ [.closeParenthesis])) := by
  obtain ⟨_, nested⟩ := nested
  exact ⟨0, nested_parentheses nested⟩

/-- The parentheses of a phrase pair up. -/
theorem Derives.isNested {tokens : List Token} {phrase : Phrase} (derives : Derives tokens phrase) :
    IsNested tokens := by
  induction derives with
  | alone _ inductionHypothesis | unsigned _ inductionHypothesis | unmarked _ inductionHypothesis
  | given _ inductionHypothesis | lastArgument _ inductionHypothesis
  | lastItem _ inductionHypothesis => exact inductionHypothesis
  | plus _ inductionHypothesis | minus _ inductionHypothesis =>
      exact isNested_nil.between inductionHypothesis rfl
  | binary _ _ _ leftHypothesis rightHypothesis => exact leftHypothesis.between rightHypothesis rfl
  | percent _ inductionHypothesis => exact inductionHypothesis.between isNested_nil rfl
  | number | text | error | trueName | falseName | name | omitted => exact isNested_nil
  | reference refers => exact ⟨0, refers.outline_eq_nil ▸ .nil⟩
  | qualified refers =>
      refine ⟨0, ?_⟩
      rw [outline_cons rfl, refers.outline_eq_nil]
      exact .nil
  | group _ inductionHypothesis => exact inductionHypothesis.group
  | call _ _ inductionHypothesis => exact isNested_nil.between inductionHypothesis.group rfl
  | callEmpty function => exact isNested_nil.between isNested_nil.group rfl
  | array _ inductionHypothesis =>
      exact isNested_nil.between (inductionHypothesis.between isNested_nil rfl) rfl
  | @nextArgument before after _ _ separator _ separates _ firstHypothesis othersHypothesis =>
      cases separator with
      | comma => exact firstHypothesis.comma othersHypothesis
      | semicolon => exact firstHypothesis.between othersHypothesis rfl
      | _ => cases separates
  | nextItem _ _ firstHypothesis othersHypothesis => exact firstHypothesis.comma othersHypothesis
  | nextRow _ _ firstHypothesis othersHypothesis =>
      exact firstHypothesis.between othersHypothesis rfl

/-- A phrase leaves as many parentheses open as there were. -/
theorem Derives.balanced {tokens : List Token} {phrase : Phrase} (derives : Derives tokens phrase)
    (depth : Nat) : (outline tokens).foldl Text.stepParenthesis depth = depth := by
  obtain ⟨_, nested⟩ := derives.isNested
  exact nested.foldl_stepParenthesis depth

/-- Whether an array constant is among the operands, other than inside of calls. -/
def hasArrayOperand : Expr → Bool
  | .binary _ left right => hasArrayOperand left || hasArrayOperand right
  | .negate operand | .percent operand => hasArrayOperand operand
  | .array _ => true
  | _ => false

/-- Whether commas can stand outside of the parentheses of a phrase. -/
def Phrase.hasOuterCommas : Phrase → Bool
  | .joined _ value | .signed value | .marked value | .single value => hasArrayOperand value
  | .argument _ | .arguments _ | .rows _ => true

/-- Outside of parentheses, an expression has commas only in its array constants. -/
theorem Derives.nested_zero {tokens : List Token} {phrase : Phrase} (derives : Derives tokens phrase)
    (inside : phrase.hasOuterCommas = false) : Nested (outline tokens) 0 := by
  induction derives with
  | @alone level _ _ _ inductionHypothesis =>
      cases level with
      | comparison | concatenation | sum | product | power => exact inductionHypothesis inside
  | @binary level _ after _ _ _ _ _ _ leftHypothesis rightHypothesis =>
      obtain ⟨left, right⟩ := Bool.or_eq_false_iff.mp inside
      have after : Nested (outline after) 0 := by
        cases level with
        | comparison | concatenation | sum | product | power => exact rightHypothesis right
      rw [outline_append, outline_cons rfl]
      exact (leftHypothesis left).append after
  | unsigned _ inductionHypothesis | unmarked _ inductionHypothesis =>
      exact inductionHypothesis inside
  | plus _ inductionHypothesis | minus _ inductionHypothesis =>
      rw [outline_cons rfl]
      exact inductionHypothesis inside
  | percent _ inductionHypothesis =>
      rw [outline_append]
      exact (inductionHypothesis inside).append .nil
  | number | text | error | trueName | falseName | name => exact .nil
  | reference refers => exact refers.outline_eq_nil ▸ .nil
  | qualified refers =>
      rw [outline_cons rfl, refers.outline_eq_nil]
      exact .nil
  | group inner =>
      obtain ⟨_, nested⟩ := inner.isNested
      exact nested_parentheses nested
  | callEmpty => exact .group .nil .nil
  | call _ inner =>
      obtain ⟨_, nested⟩ := inner.isNested
      exact nested_parentheses nested
  | array | omitted | given | lastArgument | nextArgument | lastItem | nextItem | nextRow =>
      cases inside

/-! ## The outline of the text -/

theorem outlined_of_mem_marks {first : Char} {token : Token} (listed : (first, token) ∈ Token.marks) :
    ((first = '(' ∨ first = ')' ∨ first = ',') ∧ token.outlined? = some first) ∨
      (isPlain first = true ∧ token.outlined? = none) := by
  have all : ∀ mark ∈ Token.marks, ((mark.1 = '(' ∨ mark.1 = ')' ∨ mark.1 = ',') ∧
      mark.2.outlined? = some mark.1) ∨ (isPlain mark.1 = true ∧ mark.2.outlined? = none) := by
    decide
  exact all _ listed

theorem plain_of_mem_longMarks {first second : Char} {token : Token}
    (listed : (first, second, token) ∈ Token.longMarks) :
    isPlain first = true ∧ isPlain second = true ∧ token.outlined? = none := by
  have all : ∀ mark ∈ Token.longMarks, isPlain mark.1 = true ∧ isPlain mark.2.1 = true ∧
      mark.2.2.outlined? = none := by
    decide
  exact all _ listed

theorem outlined_of_ofIdentifier {identifier : Text} {token : Token}
    (found : Token.ofIdentifier identifier = .ok token) : token.outlined? = none := by
  rcases Token.ofIdentifier_cases found with ⟨_, _, _, _, rfl⟩ | ⟨_, _, rfl⟩ <;> rfl

/-- A step over plain characters leaves the outline of what follows. -/
theorem outlines_of_plain {first : Char} {following outside : Text} {count : Nat}
    (plainFirst : isPlain first = true)
    (plain : ∀ character ∈ following.take count, isPlain character = true)
    (outlines : Outlines (following.drop count) outside) : Outlines (first :: following) outside := by
  have whole := outlines.append_plain plain
  rw [List.take_append_drop] at whole
  exact .plain plainFirst whole

theorem isPlain_of_beginsIdentifier {character : Char}
    (begins : Token.beginsIdentifier character = true) : isPlain character = true :=
  Text.isPlain_of_class (by decide) begins

/-- A step reads a parenthesis, a comma, a string, a quoted name, or plain characters. -/
theorem Token.Scans.outlines {first : Char} {following outside : Text} {token : Option Token}
    {count : Nat} (scans : Token.Scans first following token count)
    (named : token ≠ some (.qualifier [])) (outlines : Outlines (following.drop count) outside) :
    Outlines (first :: following) ((token.bind Token.outlined?).toList ++ outside) := by
  have inNumeral {character : Char} (member : Decimal.inNumeral character = true) :
      isPlain character = true :=
    Text.isPlain_of_class (by decide) member
  have inIdentifier {character : Char} (member : Token.inIdentifier character = true) :
      isPlain character = true :=
    Text.isPlain_of_class (by decide) member
  cases scans with
  | blank listed =>
      have plain : Token.separators.all isPlain = true := by decide
      exact .plain (List.all_eq_true.mp plain first listed) outlines
  | mark listed _ =>
      rcases outlined_of_mem_marks listed with ⟨isKept, found⟩ | ⟨plain, none⟩
      · rw [Option.bind_some, found]
        exact .kept isKept outlines
      · rw [Option.bind_some, none]
        exact .plain plain outlines
  | longMark listed =>
      obtain ⟨plainFirst, plainSecond, none⟩ := plain_of_mem_longMarks listed
      rw [Option.bind_some, none]
      exact .plain plainFirst (.plain plainSecond outlines)
  | @error _ literal found =>
      have plain := ErrorLiteral.isPlain_of_startOf? found
      have lengthEq : literal.spelling.length = literal.spelling.length - 1 + 1 := by
        cases literal <;> rfl
      rw [lengthEq, List.take_succ_cons, List.forall_mem_cons] at plain
      exact outlines_of_plain plain.1 plain.2 outlines
  | text read => exact .string read outlines
  | @quotedName _ name rest count read marked =>
      have nonempty : name ≠ [] := by
        rintro rfl
        exact named rfl
      rw [← List.drop_drop, marked] at outlines
      exact .name read nonempty marked outlines
  | number begins inside _ =>
      have plainFirst : isPlain first = true := by
        rcases begins with isDigit | rfl
        · exact inNumeral (Decimal.inNumeral_of_isDigit isDigit)
        · rfl
      exact outlines_of_plain plainFirst (fun character member => inNumeral (inside character member))
        outlines
  | @plainName _ _ rest count begins inside marked =>
      apply outlines_of_plain (isPlain_of_beginsIdentifier begins) _ outlines
      rw [List.take_add, marked, List.take_succ_cons, List.take_zero, List.forall_mem_append,
        List.forall_mem_singleton]
      exact ⟨fun character member => inIdentifier (inside character member), rfl⟩
  | identifier begins inside found =>
      rw [Option.bind_some, outlined_of_ofIdentifier found]
      exact outlines_of_plain (isPlain_of_beginsIdentifier begins)
        (fun character member => inIdentifier (inside character member)) outlines

/-- The outline of the tokens is that of the text, if no sheet name is empty. -/
theorem Cuts.outlines {text : Text} {lexemes : List Lexeme} (cuts : Cuts text lexemes)
    (named : .qualifier [] ∉ Lexeme.tokens lexemes) :
    Outlines text (outline (Lexeme.tokens lexemes)) := by
  induction cuts with
  | nil => exact .nil
  | @cons first following token count lexemes scans cuts inductionHypothesis =>
      rw [Lexeme.tokens_cons, List.mem_append, not_or] at named
      have outlines := scans.outlines (fun isEmpty => named.1 (by simp [isEmpty]))
        (inductionHypothesis named.2)
      rw [Lexeme.tokens_cons, outline_append]
      cases token with
      | none => exact outlines
      | some token =>
          have single : outline [token] = token.outlined?.toList := by
            unfold outline
            cases outlined : token.outlined? with
            | none => rw [List.filterMap_cons_none outlined]; rfl
            | some character => rw [List.filterMap_cons_some outlined]; rfl
          rw [Option.toList_some, single]
          exact outlines

end SheetEditor.Formula
