import SheetEditor.Json.Value
import SheetEditor.Settings.Basic
import SheetEditor.Text.Blank
import SheetEditor.Text.Lines

/-!
Contract: settings files.

Owns: settings as JSON text with comment lines, read and written.

A line of which the first thing is two slashes is a comment and is dropped before
the text is read. What remains is one JSON value: an object in which each setting
has its key, or an array with the values in a fixed order. Settings that are not
given have their defaults; a setting given twice, or an array with more values
than settings, is an error. Other keys are ignored, whatever their values.
-/

namespace SheetEditor.Settings

-- `^` is the power of the core library here, whatever else is imported.
attribute [local instance (2000)] instPowNat

/-! ## The settings of a file -/

inductive Field where
  | autoCloseParentheses
  | autocompleteLimit
  | historyLimit
  | enterDirection
deriving DecidableEq, Repr

namespace Field

/-- The settings, in the order of an array. -/
def all : List Field := [autoCloseParentheses, autocompleteLimit, historyLimit, enterDirection]

def key : Field → Text
  | autoCloseParentheses => "formula.autoCloseParens".toList
  | autocompleteLimit => "formula.autocompleteLimit".toList
  | historyLimit => "history.maxEntries".toList
  | enterDirection => "editor.enterDirection".toList

def ofKey? (key : Text) : Option Field := all.find? fun field => field.key = key

end Field

def directionWord : EnterDirection → Text
  | .down => "down".toList
  | .right => "right".toList

def directionOf? (word : Text) : Option EnterDirection :=
  [EnterDirection.down, .right].find? fun direction => directionWord direction = word

structure Given where
  autoCloseParentheses : Option Bool
  autocompleteLimit : Option Nat
  historyLimit : Option Nat
  enterDirection : Option EnterDirection
deriving DecidableEq, Repr

namespace Given

def nothing : Given := ⟨none, none, none, none⟩

def complete (given : Given) : Settings where
  autoCloseParentheses := given.autoCloseParentheses.getD Settings.default.autoCloseParentheses
  autocompleteLimit := given.autocompleteLimit.getD Settings.default.autocompleteLimit
  historyLimit := given.historyLimit.getD Settings.default.historyLimit
  enterDirection := given.enterDirection.getD Settings.default.enterDirection

end Given

/-! ## Values -/

/-- The least number that is too great for a count. -/
def countBound : Nat := 2 ^ (64 : Nat)

/-- The count that a number stands for: it has to be written with digits alone. -/
def countOf? (written : Text) : Option Nat :=
  if written.all Char.isDigit && Text.digitsValue written < countBound then
    some (Text.digitsValue written)
  else none

def readBoolean? : List Json.Token → Option (Bool × List Json.Token)
  | .boolean value :: rest => some (value, rest)
  | _ => none

def readCount? : List Json.Token → Option (Nat × List Json.Token)
  | .number written :: rest => (countOf? written).map (·, rest)
  | _ => none

/-- Reads a direction: its word, or an object with the word as its only key and null as its
value. -/
def readDirection? : List Json.Token → Option (EnterDirection × List Json.Token)
  | .string word :: rest => do
      let direction ← directionOf? (← Json.StringUnit.decode? word)
      some (direction, rest)
  | .openBrace :: .string word :: .colon :: .null :: .closeBrace :: rest => do
      let direction ← directionOf? (← Json.StringUnit.decode? word)
      some (direction, rest)
  | _ => none

/-- Reads the value of a setting that has not been given yet. -/
def readField? (given : Given) (tokens : List Json.Token) :
    Field → Option (Given × List Json.Token)
  | .autoCloseParentheses => do
      if given.autoCloseParentheses.isSome then none
      let (value, rest) ← readBoolean? tokens
      some ({ given with autoCloseParentheses := some value }, rest)
  | .autocompleteLimit => do
      if given.autocompleteLimit.isSome then none
      let (value, rest) ← readCount? tokens
      some ({ given with autocompleteLimit := some value }, rest)
  | .historyLimit => do
      if given.historyLimit.isSome then none
      let (value, rest) ← readCount? tokens
      some ({ given with historyLimit := some value }, rest)
  | .enterDirection => do
      if given.enterDirection.isSome then none
      let (value, rest) ← readDirection? tokens
      some ({ given with enterDirection := some value }, rest)

/-- Reads the value of a key. The values of unknown keys are skipped. -/
def readMember? (given : Given) (key : List Json.StringUnit) (tokens : List Json.Token) :
    Option (Given × List Json.Token) := do
  match Field.ofKey? (← Json.StringUnit.decode? key) with
  | some field => readField? given tokens field
  | none => (Json.skipValue? tokens).map (given, ·)

/-! ## Whole files -/

/-- Reads the members of an object up to its end, from a key on, at most as many as there are
`steps`. Nothing may follow the object. -/
def readMembers? (given : Given) : List Json.Token → List Json.Token → Option Given
  | _ :: steps, .string key :: .colon :: tokens => do
      let (given, rest) ← readMember? given key tokens
      match rest with
      | .comma :: fromKey => readMembers? given steps fromKey
      | [.closeBrace] => some given
      | _ => none
  | _, _ => none

/-- Reads the items of an array up to its end, one for each setting at most. Nothing may follow
the array. -/
def readItems? (given : Given) : List Field → List Json.Token → Option Given
  | field :: others, tokens => do
      let (given, rest) ← readField? given tokens field
      match rest with
      | .comma :: fromItem => readItems? given others fromItem
      | [.closeBracket] => some given
      | _ => none
  | [], _ => none

def givenBy? : List Json.Token → Option Given
  | [.openBrace, .closeBrace] => some .nothing
  | [.openBracket, .closeBracket] => some .nothing
  | .openBrace :: members => readMembers? .nothing members members
  | .openBracket :: items => readItems? .nothing Field.all items
  | _ => none

def isComment (line : Text) : Bool := "//".toList.isPrefixOf line.trim

def withoutComments (contents : Text) : Text :=
  Text.joinLines (contents.lines.filter fun line => !isComment line)

def ofFile? (contents : Text) : Option Settings := do
  let given ← givenBy? (← Json.Token.scanAll? (withoutComments contents))
  some given.complete

/-- The settings in a file, or the defaults if there is no file or it cannot be read. -/
def ofFileOrDefault (contents : Option Text) : Settings := (contents.bind ofFile?).getD default

/-! ## Writing -/

def booleanWord (value : Bool) : Text := if value then "true".toList else "false".toList

/-- A text in quotes; it has no character that would need an escape. -/
def quoted (content : Text) : Text := '"' :: content ++ ['"']

def memberLine (field : Field) (value : Text) : Text :=
  "  ".toList ++ quoted field.key ++ ": ".toList ++ value

def fileLines (settings : Settings) : List Text :=
  ["\x7b".toList,
    memberLine .autoCloseParentheses (booleanWord settings.autoCloseParentheses) ++ [','],
    memberLine .autocompleteLimit (Nat.toDigits 10 settings.autocompleteLimit) ++ [','],
    memberLine .historyLimit (Nat.toDigits 10 settings.historyLimit) ++ [','],
    memberLine .enterDirection (quoted (directionWord settings.enterDirection)),
    "\x7d".toList]

def toFile (settings : Settings) : Text := Text.joinLines settings.fileLines

/-- The lines of the file that is written where there is none. They give the defaults, with
comments. -/
def defaultFileLines : List Text :=
  ["\x7b",
    "    // Formula editing",
    "    // Close unmatched \"(\" when a formula is committed",
    "    \"formula.autoCloseParens\": true,",
    "    // Maximum number of function suggestions shown while typing",
    "    \"formula.autocompleteLimit\": 10,",
    "",
    "    // Undo history depth",
    "    \"history.maxEntries\": 100,",
    "",
    "    // Selection movement after Enter: \"down\" or \"right\"",
    "    \"editor.enterDirection\": \"down\"",
    "\x7d",
    ""].map String.toList

def defaultFile : Text := Text.joinLines defaultFileLines

/-- The settings and the file after the editor starts with a file, or without one. -/
def load (contents : Option Text) : Settings × Text :=
  match contents with
  | some text => (ofFileOrDefault contents, text)
  | none => (default, defaultFile)

end SheetEditor.Settings
