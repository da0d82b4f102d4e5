import SheetEditor.Draft.Token

/-!
Contract: parentheses closed on commit.

Owns: the count of parentheses that a draft leaves open, and the text with all of
them closed at its end. Parentheses inside strings and quoted names are part of
other tokens and do not count.
-/

namespace SheetEditor.Draft

/-- Number of open parentheses after one more token. A closing parenthesis without an opening one
does not count below zero. -/
def stepDepth (depth : Nat) (token : Token) : Nat :=
  if token.kind = .parenthesis then
    if token.text = ['('] then depth + 1 else depth - 1
  else depth

def openDepth (tokens : List Token) : Nat := tokens.foldl stepDepth 0

/-- The text with its open parentheses closed, if it is a formula. -/
def closeParentheses : Text → Text
  | '=' :: body => '=' :: body ++ List.replicate (openDepth (Token.scanAll body)) ')'
  | text => text

end SheetEditor.Draft
