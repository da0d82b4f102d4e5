import SheetEditor.Text.Basic

/-!
Contract: the lines of a text.

Owns: cutting a text at its line ends, and putting lines together again.
-/

namespace SheetEditor.Text

/-- The lines of a text, without the line ends between them. -/
def lines : Text → List Text
  | [] => [[]]
  | character :: rest =>
      if character = '\n' then [] :: lines rest
      else
        match lines rest with
        | [] => [[character]]
        | line :: others => (character :: line) :: others

/-- The text with the given lines, a line end between any two. -/
def joinLines : List Text → Text
  | [] => []
  | [line] => line
  | line :: others => line ++ '\n' :: joinLines others

end SheetEditor.Text
