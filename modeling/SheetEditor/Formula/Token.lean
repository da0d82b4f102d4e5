import SheetEditor.Formula.ErrorLiteral
import SheetEditor.Formula.Operator
import SheetEditor.Formula.ParseError
import SheetEditor.Grid.WrittenCell
import SheetEditor.Numeric.Decimal
import SheetEditor.Text.Quoted
import SheetEditor.Workbook.SheetName

/-!
Contract: the tokens of a formula and how its text is cut into them.

Owns: the strict scan of a formula's body. Each step looks at the character at
hand and at what follows it, and says which token stands there and how many
further characters belong to it. Spaces, tabs and line ends separate tokens and
yield none.

Does not own: the tolerant scan of a text that is still being typed
(`SheetEditor.Draft.Token`).
-/

namespace SheetEditor.Formula

/-- A token of a formula. Identifiers are in upper case. -/
inductive Token where
  | number (value : Binary64)
  | text (content : Text)
  | error (literal : ErrorLiteral)
  | cell (address : CellAddress) (columnAbsolute rowAbsolute : Bool)
  /-- A sheet name and the exclamation mark after it. -/
  | qualifier (sheet : Text)
  | identifier (name : Text)
  | operator (operator : BinaryOperator)
  | percent
  | openParenthesis
  | closeParenthesis
  | openBrace
  | closeBrace
  | colon
  | comma
  | semicolon
deriving DecidableEq, Repr, Inhabited

namespace Token

/-! ## Single tokens -/

/-- What a step finds: a token, unless the character only separates tokens, and the number of
further characters that belong to it. -/
abbrev Scan := Except ParseError (Option Token × Nat)

def single (token : Token) : Scan := .ok (some token, 0)

def scanLess : Text → Scan
  | '=' :: _ => .ok (some (.operator .lessEqual), 1)
  | '>' :: _ => .ok (some (.operator .notEqual), 1)
  | _ => single (.operator .less)

def scanGreater : Text → Scan
  | '=' :: _ => .ok (some (.operator .greaterEqual), 1)
  | _ => single (.operator .greater)

def scanError (position : Nat) (first : Char) (following : Text) : Scan :=
  match ErrorLiteral.startOf? (first :: following) with
  | some literal => .ok (some (.error literal), literal.spelling.length - 1)
  | none => .error (.unexpectedChar first position)

/-- A string, after its opening quote. -/
def scanString (position : Nat) (following : Text) : Scan :=
  match Text.readQuoted? '"' following with
  | some (content, count) => .ok (some (.text content), count)
  | none => .error (.unterminatedString position)

/-- A quoted sheet name, after its opening quote. An exclamation mark has to follow it. -/
def scanQuotedName (position : Nat) (following : Text) : Scan :=
  match Text.readQuoted? SheetName.quote following with
  | some (name, count) =>
      match following.drop count with
      | '!' :: _ => .ok (some (.qualifier name), count + 1)
      | found :: _ => .error (.unexpectedChar found (position + count + 1))
      | [] => .error (.unexpectedChar SheetName.quote (position + count + 1))
  | none => .error (.unterminatedSheetName position)

def scanNumber (first : Char) (following : Text) : Scan :=
  let digits := following.takeWhile fun character => character.isDigit || character = '.'
  let count := digits.length + Decimal.exponentLength (following.drop digits.length)
  let numeral := first :: following.take count
  match Binary64.read? numeral with
  | some value => .ok (some (.number value), count)
  | none => .error (.invalidNumber numeral)

/-- Number of characters that continue an identifier: letters, digits, underscores and, before
the first point, dollar signs; a point has to stand before a letter. -/
def identifierLength (beforePoint : Bool) : Text → Nat
  | [] => 0
  | character :: rest =>
      if character.isAlphanum || character = '_' || (beforePoint && character = '$') then
        identifierLength beforePoint rest + 1
      else if character = '.' && rest.head?.any Char.isAlpha then
        identifierLength false rest + 1
      else 0

/-- The token of an identifier that no exclamation mark follows: a cell, if it is written like
one and the sheet has it, or a name. A dollar sign can only come before column letters. -/
def ofIdentifier (identifier : Text) : Except ParseError Token :=
  let cell := do
    let (written, rest) ← WrittenCell.read? identifier
    let address ← written.address?
    if rest = [] then some (Token.cell address written.columnAbsolute written.rowAbsolute)
    else none
  match cell with
  | some token => .ok token
  | none =>
      if identifier.contains '$' &&
          (Column.number? (identifier.dropWhile (· = '$'))).isNone then
        .error (.invalidReference identifier)
      else .ok (.identifier identifier.upper)

def scanIdentifier (first : Char) (following : Text) : Scan :=
  let count := identifierLength true following
  let identifier := first :: following.take count
  match following.drop count with
  | '!' :: _ => .ok (some (.qualifier identifier), count + 1)
  | _ => (ofIdentifier identifier).map fun token => (some token, count)

def scan (position : Nat) (first : Char) (following : Text) : Scan :=
  match first with
  | ' ' | '\t' | '\n' | '\r' => .ok (none, 0)
  | '+' => single (.operator .add)
  | '-' => single (.operator .subtract)
  | '*' => single (.operator .multiply)
  | '/' => single (.operator .divide)
  | '^' => single (.operator .power)
  | '%' => single .percent
  | '&' => single (.operator .concatenate)
  | '(' => single .openParenthesis
  | ')' => single .closeParenthesis
  | '{' => single .openBrace
  | '}' => single .closeBrace
  | ':' => single .colon
  | ',' => single .comma
  | ';' => single .semicolon
  | '=' => single (.operator .equal)
  | '<' => scanLess following
  | '>' => scanGreater following
  | '#' => scanError position first following
  | '"' => scanString position following
  | '\'' => scanQuotedName position following
  | _ =>
      if first.isDigit || first = '.' then scanNumber first following
      else if first.isAlpha || first = '_' || first = '$' then scanIdentifier first following
      else .error (.unexpectedChar first position)

/-! ## All tokens -/

def scanFrom (position : Nat) : Text → Except ParseError (List Token)
  | [] => .ok []
  | first :: following => do
      let (token, count) ← scan position first following
      let rest ← scanFrom (position + 1 + count) (following.drop count)
      return token.toList ++ rest
termination_by text => text.length
decreasing_by
  simp only [List.length_drop, List.length_cons]
  omega

def scanAll (body : Text) : Except ParseError (List Token) := scanFrom 0 body

end Token

end SheetEditor.Formula
