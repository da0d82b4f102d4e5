import SheetEditor.Formula.Token

/-!
Contract: the limits on nesting.

Owns: the count of open brackets and of signs in a row along a list of tokens,
and the check that neither ever exceeds the limit.

A sign is counted only where it cannot be a binary operator, that is where the
token before it does not end an operand. A closing bracket without an opening one
does not count below zero.
-/

namespace SheetEditor.Formula

namespace Token

def opensBracket : Token → Bool
  | .openParenthesis | .openBrace => true
  | _ => false

def closesBracket : Token → Bool
  | .closeParenthesis | .closeBrace => true
  | _ => false

def isSign : Token → Bool
  | .operator .add | .operator .subtract => true
  | _ => false

/-- Whether an operand can end with a token. -/
def endsOperand : Token → Bool
  | .number _ | .text _ | .error _ | .cell .. | .identifier _ | .closeParenthesis | .closeBrace
  | .percent => true
  | _ => false

end Token

/-- How deep the tokens read so far have led. -/
structure Nesting where
  brackets : Nat
  signs : Nat
  /-- Whether the last token can end an operand. -/
  afterOperand : Bool
deriving DecidableEq, Repr

namespace Nesting

def start : Nesting := ⟨0, 0, false⟩

def advance (nesting : Nesting) (token : Token) : Nesting where
  brackets :=
    if token.opensBracket then nesting.brackets + 1
    else if token.closesBracket then nesting.brackets - 1
    else nesting.brackets
  signs := if token.isSign && !nesting.afterOperand then nesting.signs + 1 else 0
  afterOperand := token.endsOperand

def isWithinLimit (nesting : Nesting) : Bool :=
  nesting.brackets ≤ nestingLimit && nesting.signs ≤ nestingLimit

def staysWithinLimit (nesting : Nesting) : List Token → Bool
  | [] => true
  | token :: rest =>
      (nesting.advance token).isWithinLimit && (nesting.advance token).staysWithinLimit rest

end Nesting

/-- Whether a list of tokens respects the limits on nesting. -/
def isShallow (tokens : List Token) : Bool := Nesting.start.staysWithinLimit tokens

end SheetEditor.Formula
