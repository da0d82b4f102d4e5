import SheetEditor.Text.Basic

/-!
Contract: quoted text in which a quote is written twice.

Owns: writing the inside of quoted text, and reading it up to the quote that
closes it.

Does not own: which quote stands around what; strings use one, sheet names
another.
-/

namespace SheetEditor

namespace Text

/-- The text with every `quote` written twice. -/
def doubleQuotes (quote : Char) : Text → Text
  | [] => []
  | character :: rest =>
      if character = quote then quote :: quote :: doubleQuotes quote rest
      else character :: doubleQuotes quote rest

/-- Reads quoted text after its opening quote. Returns the text that is meant and the number of
characters read, the closing quote included; nothing if no quote closes it. -/
def readQuoted? (quote : Char) : Text → Option (Text × Nat)
  | [] => none
  | character :: rest =>
      if character = quote then
        match rest with
        | next :: afterNext =>
            if next = quote then
              (readQuoted? quote afterNext).map fun (content, count) =>
                (quote :: content, count + 2)
            else some ([], 1)
        | [] => some ([], 1)
      else
        (readQuoted? quote rest).map fun (content, count) => (character :: content, count + 1)

end Text

end SheetEditor
