import SheetEditor.Text.Basic

/-!
Contract: why a formula does not parse.

Owns: the causes and their messages, and the two limits that messages state.
Positions count characters of the formula's body, token numbers count its tokens.
-/

namespace SheetEditor

namespace Formula

/-- Greatest number of open brackets, and of signs in front of one operand. -/
def nestingLimit : Nat := 64

/-- Greatest number of characters of a formula's body. -/
def lengthLimit : Nat := 8192

end Formula

inductive ParseError where
  /-- There is no token in the body. -/
  | empty
  | unexpectedChar (found : Char) (position : Nat)
  | unterminatedString (position : Nat)
  | unterminatedSheetName (position : Nat)
  | invalidNumber (numeral : Text)
  | invalidReference (reference : Text)
  /-- A sheet qualifier stands before something that is not a reference. -/
  | danglingQualifier (sheet : Text)
  | unexpectedEnd
  | unexpectedToken (index : Nat)
  | missingCloseParenthesis
  | tooDeep
  | tooLong
deriving DecidableEq, Repr, Inhabited

namespace ParseError

def message : ParseError → Text
  | .empty => "empty formula".toList
  | .unexpectedChar found position =>
      "unexpected character '".toList ++ found :: "' at ".toList ++ Nat.toDigits 10 position
  | .unterminatedString position =>
      "unterminated string starting at ".toList ++ Nat.toDigits 10 position
  | .unterminatedSheetName position =>
      "unterminated sheet name starting at ".toList ++ Nat.toDigits 10 position
  | .invalidNumber numeral => "invalid number: ".toList ++ numeral
  | .invalidReference reference => "invalid reference: ".toList ++ reference
  | .danglingQualifier sheet =>
      "sheet '".toList ++ sheet ++ "' must be followed by a reference".toList
  | .unexpectedEnd => "unexpected end of formula".toList
  | .unexpectedToken index => "unexpected token #".toList ++ Nat.toDigits 10 index
  | .missingCloseParenthesis => "missing closing parenthesis".toList
  | .tooDeep =>
      "formula nested more than ".toList ++ Nat.toDigits 10 Formula.nestingLimit ++
        " levels".toList
  | .tooLong =>
      "formula longer than ".toList ++ Nat.toDigits 10 Formula.lengthLimit ++
        " characters".toList

end ParseError

end SheetEditor
