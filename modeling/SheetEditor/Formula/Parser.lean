import SheetEditor.Formula.Descent
import SheetEditor.Formula.Nesting

/-!
Contract: formulas read from text.

Owns: the order in which a formula's body is checked (its length, its tokens,
that there are any, their nesting, and that they form one expression), and the
location of a failure.
-/

namespace SheetEditor.Formula

/-- The error that a failure of the descent is in a formula of so many tokens. -/
def Descent.Failure.toParseError (tokenCount : Nat) : Descent.Failure → ParseError
  | .endOfTokens => .unexpectedEnd
  | .unexpected remaining => .unexpectedToken (tokenCount - remaining.length)
  | .missingCloseParenthesis => .missingCloseParenthesis
  | .invalidReference reference => .invalidReference reference
  | .danglingQualifier sheet => .danglingQualifier sheet
  | .exhausted => .tooDeep

def parseTokens (tokens : List Token) : Except ParseError Expr :=
  match descend (.unlimited tokens.length) tokens with
  | .ok (value, []) => .ok value
  | .ok (_, remaining) => .error (.unexpectedToken (tokens.length - remaining.length))
  | .error failure => .error (failure.toParseError tokens.length)

def parse (body : Text) : Except ParseError Expr :=
  if lengthLimit < body.length then .error .tooLong
  else do
    let tokens ← Token.scanAll body
    if tokens = [] then throw .empty
    else if !isShallow tokens then throw .tooDeep
    else parseTokens tokens

end SheetEditor.Formula
