import SheetEditor.Function.Catalog
import SheetEditor.Palette
import SheetEditor.Session.Edit
import SheetEditor.Session.History
import SheetEditor.Settings.Basic
import SheetEditor.Workbook.Basic

/-!
Contract: the state of an editor session and what can be read off it.

Owns: the history of the workbook, the sheet on screen, the selected cell, the
edit in progress, and whether suggestions were dismissed; the suggestions to show,
the text of picked references, and the colours of highlights.

Does not own: how the state changes (`SheetEditor.Session.Transition`).
-/

namespace SheetEditor

structure Session where
  history : History Workbook
  activeSheet : Nat
  selected : CellAddress
  edit : Option Edit
  /-- Whether the suggestions were dismissed since the text last changed. -/
  suggestionsDismissed : Bool
  settings : Settings
  registry : List FunctionDefinition
deriving Inhabited

namespace Session

/-- A session on a workbook: its first sheet is on screen with its first cell selected. -/
def new (workbook : Workbook) (settings : Settings) : Session where
  history := .withLimit workbook settings.historyLimit
  activeSheet := 0
  selected := ⟨0, 0⟩
  edit := none
  suggestionsDismissed := false
  settings := settings
  registry := Catalog.definitions

def withRegistry (session : Session) (registry : List FunctionDefinition) : Session :=
  { session with registry := registry }

def workbook (session : Session) : Workbook := session.history.present

def sheetOnScreen? (session : Session) : Option Sheet :=
  session.workbook.sheet? session.activeSheet

def isEditing (session : Session) : Bool := session.edit.isSome

def analysis? (session : Session) : Option Draft.Analysis := session.edit.map (·.analysis)

/-! ## Completion -/

/-- The partial name that suggestions are for. There is none outside a formula, during a
composition, and after the suggestions were dismissed. -/
def nameContext? (session : Session) : Option Draft.NameContext := do
  let edit ← session.edit
  if !edit.isFormula || edit.composition.isComposing || session.suggestionsDismissed then none
  else edit.nameContext?

def suggestions (session : Session) : List FunctionDefinition :=
  match session.nameContext? with
  | some context =>
      if context.shouldOpen then
        Draft.suggestions session.registry context.query session.settings.autocompleteLimit
      else []
  | none => []

/-! ## References -/

def canInsertReference (session : Session) : Bool := session.edit.any (·.canInsertReference)

/-- How a range picked on the sheet on screen is written in the edit in progress. -/
def referenceText? (session : Session) (range : CellRange) : Option Text := do
  let edit ← session.edit
  let current ← session.workbook.sheet? edit.sheetIndex
  some (Draft.referenceText range current.name (session.sheetOnScreen?.map (·.name)))

/-- Whether a reference of an edit is to the sheet on screen. -/
def isOnScreen (session : Session) (edit : Edit) (reference : Draft.Reference) : Bool :=
  match reference.target.sheet with
  | some name => session.workbook.indexOfName? name = some session.activeSheet
  | none => edit.sheetIndex = session.activeSheet

/-- The colour of a cell on screen: that of the first reference of the edit that covers it. -/
def referenceColour? (session : Session) (cell : CellAddress) : Option Colour := do
  let edit ← session.edit
  let covering ← edit.analysis.references.find? fun reference =>
    session.isOnScreen edit reference && reference.target.range.contains cell
  some (Palette.colour covering.colour)

end Session

end SheetEditor
