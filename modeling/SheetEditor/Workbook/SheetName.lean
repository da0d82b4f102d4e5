import SheetEditor.Text.Blank
import SheetEditor.Text.Lowercase
import SheetEditor.Text.Quoted

/-!
Contract: the names of sheets.

Owns: which names are allowed, when two names count as the same, and how a name
is written in front of a reference.

Does not own: which names are taken (`SheetEditor.Workbook.Basic`).
-/

namespace SheetEditor.SheetName

def lengthLimit : Nat := 31

def reserved : List Char := [':', '\\', '/', '?', '*', '[', ']']

/-- Whether a name is allowed, blanks around it aside. -/
def isValid (name : Text) : Bool :=
  let trimmed := name.trim
  trimmed ≠ [] && trimmed.length ≤ lengthLimit &&
    !trimmed.any fun character => reserved.contains character

/-- What two names have in common when they count as the same: their letters in lower case,
without the blanks around them. -/
def key (name : Text) : Text := name.trim.lowercase

@[simp] theorem key_trim (name : Text) : key name.trim = key name := by
  rw [key, key, Text.trim_trim]

def quote : Char := '\''

/-- Whether a name is quoted in front of a reference: unless it has only ASCII letters, digits
and underscores and does not start with a digit. -/
def needsQuoting (name : Text) : Bool :=
  name = [] || (name.head?.any Char.isDigit) ||
    name.any fun character => !(character.isAlphanum || character = '_')

/-- A name as it is written in front of a reference. -/
def qualifier (name : Text) : Text :=
  if needsQuoting name then quote :: Text.doubleQuotes quote name ++ [quote, '!'] else name ++ ['!']

end SheetEditor.SheetName
