import SheetEditor.Text.Basic

/-!
Contract: the tokens of JSON text.

Owns: the strict scan of JSON: its punctuation, its three words, numbers as they
are written, and strings as sequences of units. An escape can denote half of a
surrogate pair; whether the halves of a string pair up is asked only where the
string is used.

Does not own: how tokens form values (`SheetEditor.Json.Value`).
-/

namespace SheetEditor.Json

/-! ## Strings -/

/-- A unit of a string: a character, or half of a surrogate pair that an escape denotes. -/
inductive StringUnit where
  | plain (character : Char)
  | surrogate (code : Nat)
deriving DecidableEq, Repr, Inhabited

namespace StringUnit

def ofCode (code : Nat) : StringUnit :=
  if 0xD800 ≤ code && code ≤ 0xDFFF then .surrogate code else .plain (Char.ofNat code)

/-- Whether a code is the first half of a surrogate pair. -/
def isLeading (code : Nat) : Bool := code < 0xDC00

/-- The text of a string, if every half of a surrogate pair stands next to the other half. -/
def decode? : List StringUnit → Option Text
  | [] => some []
  | .plain character :: rest => (decode? rest).map (character :: ·)
  | .surrogate leading :: .surrogate trailing :: rest =>
      if isLeading leading && !isLeading trailing then
        let code := 0x10000 + (leading - 0xD800) * 0x400 + (trailing - 0xDC00)
        (decode? rest).map (Char.ofNat code :: ·)
      else none
  | .surrogate _ :: _ => none

end StringUnit

def hexDigit? (digit : Char) : Option Nat :=
  if digit.isDigit then some (digit.toNat - '0'.toNat)
  else if 'a' ≤ digit && digit ≤ 'f' then some (digit.toNat - 'a'.toNat + 10)
  else if 'A' ≤ digit && digit ≤ 'F' then some (digit.toNat - 'A'.toNat + 10)
  else none

def hexCode? (first second third fourth : Char) : Option Nat := do
  some (((← hexDigit? first) * 16 + (← hexDigit? second)) * 256 +
    (← hexDigit? third) * 16 + (← hexDigit? fourth))

def escaped? : Char → Option Char
  | '"' => some '"'
  | '\\' => some '\\'
  | '/' => some '/'
  | 'b' => some '\x08'
  | 'f' => some '\x0c'
  | 'n' => some '\n'
  | 'r' => some '\r'
  | 't' => some '\t'
  | _ => none

/-- Reads a string after its opening quote. Returns its units and the number of characters read,
the closing quote included. Control characters have to be escaped. -/
def readString? : Text → Option (List StringUnit × Nat)
  | [] => none
  | '"' :: _ => some ([], 1)
  | '\\' :: 'u' :: first :: second :: third :: fourth :: rest => do
      let code ← hexCode? first second third fourth
      let (units, count) ← readString? rest
      some (.ofCode code :: units, count + 6)
  | '\\' :: mark :: rest => do
      let character ← escaped? mark
      let (units, count) ← readString? rest
      some (.plain character :: units, count + 2)
  | character :: rest =>
      if character.toNat < 0x20 || character = '\\' then none
      else (readString? rest).map fun (units, count) => (.plain character :: units, count + 1)

/-! ## Numbers -/

/-- Number of characters of the whole part of a number: a zero, or digits that do not begin with
a zero. -/
def wholeLength? : Text → Option Nat
  | [] => none
  | '0' :: _ => some 1
  | first :: rest =>
      if first.isDigit then some ((rest.takeWhile Char.isDigit).length + 1) else none

def fractionLength? : Text → Option Nat
  | '.' :: rest =>
      let digits := rest.takeWhile Char.isDigit
      if digits = [] then none else some (digits.length + 1)
  | _ => some 0

def exponentLength? : Text → Option Nat
  | [] => some 0
  | mark :: rest =>
      if mark = 'e' || mark = 'E' then
        let sign := if rest.head?.any (fun next => next = '+' || next = '-') then 1 else 0
        let digits := (rest.drop sign).takeWhile Char.isDigit
        if digits = [] then none else some (digits.length + sign + 1)
      else some 0

def numberLength? (text : Text) : Option Nat := do
  let sign := if text.head? = some '-' then 1 else 0
  let whole ← wholeLength? (text.drop sign)
  let fraction ← fractionLength? (text.drop (sign + whole))
  let exponent ← exponentLength? (text.drop (sign + whole + fraction))
  some (sign + whole + fraction + exponent)

/-! ## Tokens -/

inductive Token where
  | openBrace
  | closeBrace
  | openBracket
  | closeBracket
  | colon
  | comma
  | null
  | boolean (value : Bool)
  | number (written : Text)
  | string (units : List StringUnit)
deriving DecidableEq, Repr, Inhabited

namespace Token

/-- The token at the first character of a text, unless the character is white space, and the
number of further characters that belong to it. -/
def scan? (first : Char) (following : Text) : Option (Option Token × Nat) :=
  match first, following with
  | ' ', _ | '\t', _ | '\n', _ | '\r', _ => some (none, 0)
  | '{', _ => some (some .openBrace, 0)
  | '}', _ => some (some .closeBrace, 0)
  | '[', _ => some (some .openBracket, 0)
  | ']', _ => some (some .closeBracket, 0)
  | ':', _ => some (some .colon, 0)
  | ',', _ => some (some .comma, 0)
  | 'n', 'u' :: 'l' :: 'l' :: _ => some (some .null, 3)
  | 't', 'r' :: 'u' :: 'e' :: _ => some (some (.boolean true), 3)
  | 'f', 'a' :: 'l' :: 's' :: 'e' :: _ => some (some (.boolean false), 4)
  | '"', _ => (readString? following).map fun (units, count) => (some (.string units), count)
  | _, _ =>
      (numberLength? (first :: following)).map fun length =>
        (some (.number (first :: following.take (length - 1))), length - 1)

def scanAll? : Text → Option (List Token)
  | [] => some []
  | first :: following => do
      let (token, count) ← scan? first following
      let rest ← scanAll? (following.drop count)
      some (token.toList ++ rest)
termination_by text => text.length
decreasing_by
  simp only [List.length_drop, List.length_cons]
  omega

end Token

end SheetEditor.Json
