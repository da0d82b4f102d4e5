import SheetEditor.Draft.Analysis
import SheetEditor.Draft.Completion
import SheetEditor.Draft.Insertion
import SheetEditor.Grid.Address

/-!
Contract: the edit in progress.

Owns: how an edit began and where, its text with caret and selection, and the
composition of an input method.

Does not own: what a commit does with it (`SheetEditor.Session.Transition`).
-/

namespace SheetEditor

/-- How an edit begins: with the content of the cell, with a typed character in its place, or
with a click into the formula bar. -/
inductive EntryMode where
  | enter
  | replace
  | formulaBar
deriving DecidableEq, Repr, Inhabited

inductive EditOrigin where
  | cell
  | formulaBar
deriving DecidableEq, Repr, Inhabited

def EntryMode.origin : EntryMode → EditOrigin
  | .enter | .replace => .cell
  | .formulaBar => .formulaBar

structure Composition where
  isComposing : Bool
  text : Text
  start : Nat
deriving DecidableEq, Repr, Inhabited

def Composition.none : Composition := ⟨false, [], 0⟩

/-- The edit in progress. Its sheet is the one on which it began; a commit writes there. -/
structure Edit where
  address : CellAddress
  mode : EntryMode
  origin : EditOrigin
  text : Text
  caret : Nat
  selectionEnd : Nat
  composition : Composition
  sheetIndex : Nat
deriving DecidableEq, Repr, Inhabited

namespace Edit

/-- An edit that begins with a text, its caret at the end. -/
def ofCell (address : CellAddress) (mode : EntryMode) (text : Text) (sheetIndex : Nat) : Edit where
  address := address
  mode := mode
  origin := mode.origin
  text := text
  caret := text.length
  selectionEnd := text.length
  composition := .none
  sheetIndex := sheetIndex

def isFormula (edit : Edit) : Bool := edit.text.head? = some '='

def hasSelection (edit : Edit) : Bool := edit.selectionEnd ≠ edit.caret

def analysis (edit : Edit) : Draft.Analysis := .ofText edit.text edit.caret

def nameContext? (edit : Edit) : Option Draft.NameContext :=
  Draft.NameContext.ofTokens? edit.caret edit.analysis.tokens

/-- The edit with the text and the caret of a text edit, and nothing selected. -/
def apply (edit : Edit) (change : TextEdit) : Edit :=
  { edit with text := change.text, caret := change.caret, selectionEnd := change.caret }

/-- The edit with a new text. Caret and selection are kept inside it. -/
def replaceText (edit : Edit) (text : Text) (caret selectionEnd : Nat) : Edit :=
  { edit with
    text := text
    caret := min caret text.length
    selectionEnd := min selectionEnd text.length }

/-- The edit with a composition, which is kept from starting beyond the text. -/
def compose (edit : Edit) (composition : Composition) : Edit :=
  { edit with
    composition := { composition with start := min composition.start edit.text.length } }

def insertAtCaret (edit : Edit) (inserted : Text) : Edit :=
  edit.apply ⟨edit.text.splice edit.caret edit.caret inserted, edit.caret + inserted.length⟩

/-- Whether a cell picked on the grid would be inserted as a reference. -/
def canInsertReference (edit : Edit) : Bool :=
  edit.isFormula && Draft.isInsertionPoint edit.text edit.caret

end Edit

end SheetEditor
