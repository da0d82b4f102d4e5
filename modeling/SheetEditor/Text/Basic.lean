/-!
Contract: text as a list of characters, with every offset counted in characters.

Owns: cutting and replacing by character offsets, the two conversions between
character offsets and offsets into the UTF-8 encoding, and the ASCII case map.
All offsets are clamped: a cut outside the text is a cut at its end, and an
interval that stops before it starts is empty.

Does not own: blanks (`SheetEditor.Text.Blank`) and the full lower-case map
(`SheetEditor.Text.Lowercase`).
-/

namespace SheetEditor

/-- A text is the list of its characters. -/
abbrev Text := List Char

namespace Text

/-! ## Offsets into the UTF-8 encoding -/

def byteLength : Text → Nat
  | [] => 0
  | character :: rest => character.utf8Size + byteLength rest

/-- Byte offset at which the character at `index` begins; past the last character it is the
byte length. -/
def byteOffset : Text → Nat → Nat
  | [], _ => 0
  | _ :: _, 0 => 0
  | character :: rest, index + 1 => character.utf8Size + byteOffset rest index

/-- Number of whole characters before a byte offset; an offset inside a character counts
as the offset at which that character begins. -/
def characterIndex : Text → Nat → Nat
  | [], _ => 0
  | character :: rest, offset =>
      if offset < character.utf8Size then 0
      else characterIndex rest (offset - character.utf8Size) + 1

/-! ## Cutting and replacing -/

/-- The characters from offset `start` up to, not including, offset `stop`. -/
def slice (text : Text) (start stop : Nat) : Text :=
  (text.drop start).take (stop - start)

/-- The text with the characters from `start` up to `stop` replaced by `inserted`. -/
def splice (text : Text) (start stop : Nat) (inserted : Text) : Text :=
  text.take start ++ inserted ++ text.drop (max start stop)

@[simp] theorem splice_at (text : Text) (offset : Nat) (inserted : Text) :
    text.splice offset offset inserted = text.take offset ++ inserted ++ text.drop offset := by
  simp [splice]

theorem length_splice (text : Text) (start stop : Nat) (inserted : Text) :
    (text.splice start stop inserted).length =
      min start text.length + inserted.length + (text.length - max start stop) := by
  simp [splice, Nat.add_assoc]

/-! ## ASCII letters -/

/-- Every ASCII letter in upper case; other characters are kept. -/
def upper (text : Text) : Text := text.map Char.toUpper

@[simp] theorem length_upper (text : Text) : text.upper.length = text.length := by
  simp [upper]

/-- The natural number that a run of decimal digits denotes. -/
def digitsValue (digits : Text) : Nat :=
  digits.foldl (fun value digit => 10 * value + (digit.toNat - '0'.toNat)) 0

end Text

/-- A text together with the caret that an edit leaves in it. -/
structure TextEdit where
  text : Text
  caret : Nat
deriving DecidableEq, Repr, Inhabited

end SheetEditor
