import SheetEditor.Text.Basic

/-!
Contract: the error values that a formula can spell out.

Owns: their spellings and the recognition of a spelling, in any letter case, at
the start of a text. No spelling begins another, so at most one is recognised.
-/

namespace SheetEditor

inductive ErrorLiteral where
  | gettingData
  | divisionByZero
  | wrongType
  | unknownName
  | emptyIntersection
  | invalidNumber
  | invalidReference
  | notAvailable
deriving DecidableEq, Repr, Inhabited

namespace ErrorLiteral

def all : List ErrorLiteral :=
  [gettingData, divisionByZero, wrongType, unknownName, emptyIntersection, invalidNumber,
    invalidReference, notAvailable]

def spelling : ErrorLiteral → Text
  | gettingData => "#GETTING_DATA".toList
  | divisionByZero => "#DIV/0!".toList
  | wrongType => "#VALUE!".toList
  | unknownName => "#NAME?".toList
  | emptyIntersection => "#NULL!".toList
  | invalidNumber => "#NUM!".toList
  | invalidReference => "#REF!".toList
  | notAvailable => "#N/A".toList

/-- The error value whose spelling begins the text. -/
def startOf? (text : Text) : Option ErrorLiteral :=
  all.find? fun literal => Text.upper (text.take literal.spelling.length) = literal.spelling

end ErrorLiteral

end SheetEditor
