import SheetEditor.Draft.Token

/-!
Contract: the `$` marks of a reference at the caret.

Owns: the cells written in a draft with their places, the one that the caret is
at, and the next combination of `$` marks: none, both, the row's, the column's,
and none again.
-/

namespace SheetEditor

/-- The cell with the next combination of marks. -/
def WrittenCell.nextAnchors (cell : WrittenCell) : WrittenCell :=
  match cell.columnAbsolute, cell.rowAbsolute with
  | false, false => { cell with columnAbsolute := true, rowAbsolute := true }
  | true, true => { cell with columnAbsolute := false, rowAbsolute := true }
  | false, true => { cell with columnAbsolute := true, rowAbsolute := false }
  | true, false => { cell with columnAbsolute := false, rowAbsolute := false }

namespace Draft

structure PlacedCell where
  cell : WrittenCell
  start : Nat
deriving DecidableEq, Repr

namespace PlacedCell

def stop (placed : PlacedCell) : Nat := placed.start + placed.cell.text.length

/-- The cells written in a text that begins at offset `start`, from left to right. -/
def inArea (start : Nat) : Text → List PlacedCell
  | [] => []
  | first :: following =>
      match WrittenCell.read? (first :: following) with
      | some (cell, _) =>
          let count := cell.text.length - 1
          ⟨cell, start⟩ :: inArea (start + 1 + count) (following.drop count)
      | none => inArea (start + 1) following
termination_by text => text.length
decreasing_by
  all_goals simp only [List.length_drop, List.length_cons]
  all_goals omega

/-- Number of characters up to and including the last exclamation mark. -/
def qualifierLength (text : Text) : Nat :=
  (text.reverse.dropWhile (· ≠ '!')).length

/-- The cells in a reference, its qualifier aside. -/
def ofToken (token : Token) : List PlacedCell :=
  let qualifier := qualifierLength token.text
  inArea (token.start + qualifier) (token.text.drop qualifier)

def ofText : Text → List PlacedCell
  | '=' :: body =>
      ((Token.scanAll body).filter (·.kind = .reference)).flatMap fun token =>
        ofToken (token.shift 1)
  | _ => []

/-- The cell at the caret: the first one whose span has the caret in it or at one of its ends,
otherwise the last one before the caret. -/
def atCaret? (cells : List PlacedCell) (caret : Nat) : Option PlacedCell :=
  match cells.find? fun placed => placed.start ≤ caret && caret ≤ placed.stop with
  | some placed => some placed
  | none => (cells.filter fun placed => placed.stop ≤ caret).getLast?

/-- Where the caret goes when a cell's text is replaced by one of length `length`: a caret in the
cell goes to its end, and a caret outside keeps its place in the text around it. -/
def moveCaret (placed : PlacedCell) (length caret : Nat) : Nat :=
  if caret ≤ placed.start then caret
  else if caret ≤ placed.stop then placed.start + length
  else caret + length - (placed.stop - placed.start)

end PlacedCell

def cycleAnchors? (text : Text) (caret : Nat) : Option TextEdit := do
  let caret := min caret text.length
  let placed ← PlacedCell.atCaret? (PlacedCell.ofText text) caret
  let replacement := placed.cell.nextAnchors.text
  some ⟨text.splice placed.start placed.stop replacement,
    placed.moveCaret replacement.length caret⟩

end Draft

end SheetEditor
