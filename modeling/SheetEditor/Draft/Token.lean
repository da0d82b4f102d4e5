import SheetEditor.Formula.ErrorLiteral
import SheetEditor.Grid.WrittenCell
import SheetEditor.Numeric.Decimal
import SheetEditor.Text.Blank
import SheetEditor.Text.Quoted
import SheetEditor.Workbook.SheetName

/-!
Contract: the tokens of a formula that is being typed.

Owns: the tolerant scan of a formula's body. It accepts every text: what no rule
recognises becomes an error token of one character, and the tokens put together
are the text. The rules are tried in a fixed order at each place: blanks, error
literals, strings, references, a sheet qualifier alone, function names and other
identifiers, numbers, operators, punctuation.

Does not own: what a reference means (`SheetEditor.Draft.Reference`).
-/

namespace SheetEditor.Draft

inductive TokenKind where
  | reference
  | function
  | operator
  | literal
  | string
  | parenthesis
  | comma
  | semicolon
  | colon
  | bracket
  | error
  | blank
deriving DecidableEq, Repr, Inhabited

structure Token where
  kind : TokenKind
  text : Text
  start : Nat
deriving DecidableEq, Repr, Inhabited

namespace Token

def stop (token : Token) : Nat := token.start + token.text.length

/-- The token at an offset greater by some distance. -/
def shift (distance : Nat) (token : Token) : Token :=
  { token with start := token.start + distance }

def isBlank (token : Token) : Bool := token.kind = .blank

def opensParenthesis (token : Token) : Bool := token.kind = .parenthesis && token.text = ['(']

/-- Whether the token can be the beginning of a function name. Short names look like columns,
so a reference counts too, unless it has a digit or a qualifier. -/
def isNameCandidate (token : Token) : Bool :=
  match token.kind with
  | .function => true
  | .reference => !token.text.any fun character => character.isDigit || character = '!'
  | _ => false

/-! ## Parts of references

Each of these gives the number of characters of a part at the start of a text. -/

/-- A cell, or two cells around a colon. -/
def cellsLength? (text : Text) : Option Nat := do
  let (first, rest) ← WrittenCell.read? text
  match rest with
  | ':' :: afterColon =>
      match WrittenCell.read? afterColon with
      | some (second, _) => some (first.text.length + 1 + second.text.length)
      | none => some first.text.length
  | _ => some first.text.length

/-- A column: one to three letters after an optional `$`. -/
def columnLength? (text : Text) : Option Nat :=
  let (marked, rest) := WrittenCell.splitMarker text
  let letters := (rest.take 3).takeWhile Char.isAlpha
  if letters = [] then none else some (letters.length + if marked then 1 else 0)

/-- A row: digits after an optional `$`. -/
def rowLength? (text : Text) : Option Nat :=
  let (marked, rest) := WrittenCell.splitMarker text
  let digits := rest.takeWhile Char.isDigit
  if digits = [] then none else some (digits.length + if marked then 1 else 0)

def pairLength? (part : Text → Option Nat) (text : Text) : Option Nat := do
  let first ← part text
  match text.drop first with
  | ':' :: afterColon => (part afterColon).map (first + 1 + ·)
  | _ => none

def areaLength? (text : Text) : Option Nat :=
  cellsLength? text <|> pairLength? columnLength? text <|> pairLength? rowLength? text

/-- An identifier: a letter or an underscore, then letters, digits, underscores and points. -/
def identifierLength? : Text → Option Nat
  | [] => none
  | first :: following =>
      if first.isAlpha || first = '_' then
        let continuation := following.takeWhile fun character =>
          character.isAlphanum || character = '_' || character = '.'
        some (continuation.length + 1)
      else none

/-- A sheet name before the exclamation mark of a qualifier: a quoted name that is not empty, or
an identifier. -/
def qualifierNameLength? : Text → Option Nat
  | [] => none
  | first :: following =>
      if first = SheetName.quote then
        match Text.readQuoted? SheetName.quote following with
        | some (name, count) => if name = [] then none else some (count + 1)
        | none => none
      else identifierLength? (first :: following)

/-- A sheet qualifier with its exclamation mark. -/
def qualifierLength? (text : Text) : Option Nat := do
  let name ← qualifierNameLength? text
  match text.drop name with
  | '!' :: _ => some (name + 1)
  | _ => none

/-- Whether a reference may end before a text. It must not run straight into further name
characters, a call or another qualifier. -/
def isBoundary : Text → Bool
  | [] => true
  | next :: _ => !(next.isAlphanum || ['_', '.', '$', '(', '!'].contains next)

/-- An area that may be qualified, up to a boundary. -/
def referenceLength? (text : Text) : Option Nat := do
  let qualifier := (qualifierLength? text).getD 0
  let area ← areaLength? (text.drop qualifier)
  if isBoundary (text.drop (qualifier + area)) then some (qualifier + area) else none

/-! ## Rules

Each rule gives the class and the length of the token that it recognises at the start of a text. -/

abbrev Rule := Text → Option (TokenKind × Nat)

def blankRule : Rule := fun text =>
  let blanks := text.takeWhile SheetEditor.isBlank
  if blanks = [] then none else some (.blank, blanks.length)

def errorLiteralRule : Rule := fun text =>
  (ErrorLiteral.startOf? text).map fun literal => (.literal, literal.spelling.length)

/-- A string. Without a closing quote it runs to the end of the text. -/
def stringRule : Rule
  | '"' :: following =>
      match Text.readQuoted? '"' following with
      | some (_, count) => some (.string, count + 1)
      | none => some (.string, following.length + 1)
  | _ => none

def referenceRule : Rule := fun text => (referenceLength? text).map (.reference, ·)

/-- A sheet qualifier to which no area has been added yet. -/
def qualifierRule : Rule := fun text => (qualifierLength? text).map (.reference, ·)

/-- An identifier. It names a function if a parenthesis follows it, blanks aside, or if it does
not look like a column. -/
def identifierRule : Rule := fun text => do
  let length ← identifierLength? text
  let name := text.take length
  let isCalled := ((text.drop length).dropWhile SheetEditor.isBlank).head? = some '('
  let looksLikeColumn := length ≤ 3 && name.all Char.isAlpha
  some (if !isCalled && looksLikeColumn then .reference else .function, length)

/-- A number: digits around at most one point, not the point alone, and an exponent. -/
def numberRule : Rule := fun text =>
  let whole := text.takeWhile Char.isDigit
  let afterWhole := text.drop whole.length
  let (fraction, rest) := Decimal.splitFraction afterWhole
  let pointed := afterWhole.head? = some '.'
  if whole = [] && fraction = [] then none
  else
    some (.literal, whole.length + (if pointed then 1 else 0) + fraction.length +
      Decimal.exponentLength rest)

def longOperatorRule : Rule
  | '<' :: '>' :: _ | '>' :: '=' :: _ | '<' :: '=' :: _ => some (.operator, 2)
  | _ => none

/-- The class of a character that is a token by itself. -/
def punctuationKind (character : Char) : TokenKind :=
  match character with
  | '+' | '-' | '*' | '/' | '^' | '&' | '=' | '>' | '<' => .operator
  | '(' | ')' => .parenthesis
  | ',' => .comma
  | ';' => .semicolon
  | ':' => .colon
  | '{' | '}' => .bracket
  | _ => .error

def rules : List Rule :=
  [blankRule, errorLiteralRule, stringRule, referenceRule, qualifierRule, identifierRule,
    numberRule, longOperatorRule]

/-! ## All tokens -/

/-- The class of the token at the first character of a text, and the number of its characters
after the first. -/
def classify (first : Char) (following : Text) : TokenKind × Nat :=
  match rules.findSome? fun rule => rule (first :: following) with
  | some (kind, length) => (kind, length - 1)
  | none => (punctuationKind first, 0)

def scanFrom (start : Nat) : Text → List Token
  | [] => []
  | first :: following =>
      let (kind, count) := classify first following
      let text := first :: following.take count
      ⟨kind, text, start⟩ :: scanFrom (start + text.length) (following.drop count)
termination_by text => text.length
decreasing_by
  simp only [List.length_drop, List.length_cons]
  omega

def scanAll (body : Text) : List Token := scanFrom 0 body

end Token

end SheetEditor.Draft
