import SheetEditor.Draft.Anchor
import SheetEditor.Draft.Closing
import SheetEditor.Session.State

/-!
Contract: the actions on a session.

Owns: every change of a session's state. Each action yields the next state and
says whether it was accepted. An edit in progress belongs to the sheet on which it
began: a commit writes there, whichever sheet is on screen, and deleting that
sheet or the one on screen ends the edit without a commit.

Does not own: which key means which action (`SheetEditor.Session.Key`).
-/

namespace SheetEditor

inductive Action where
  | enterEdit (address : CellAddress) (mode : EntryMode) (typed : Option Char)
  | updateText (text : Text) (caret selectionEnd : Nat)
  | setOrigin (origin : EditOrigin)
  | setComposition (composition : Composition)
  /-- Inserts the text of a reference at the caret. -/
  | insertReference (text : Text)
  | commit
  | cancel
  /-- Commits the edit in progress, if there is one, and moves the selection. -/
  | commitAndMove (rows columns : Int)
  /-- Moves the selection, unless an edit is in progress. -/
  | moveSelection (rows columns : Int)
  | acceptSuggestion (function : Text)
  /-- Hides the suggestions until the text changes. -/
  | dismissSuggestions
  | cycleAnchors
  | setActiveSheet (index : Nat)
  | addSheet (name : Option Text)
  | renameSheet (index : Nat) (name : Text)
  | deleteSheet (index : Nat)
  | undo
  | redo
deriving DecidableEq, Repr, Inhabited

namespace Session

abbrev Outcome := Session × Bool

def accept (session : Session) : Outcome := (session, true)

/-- An action that was refused; the state stays as it is. -/
def refuse (session : Session) : Outcome := (session, false)

/-! ## Edits -/

/-- Begins an edit on the sheet on screen, unless one is in progress or the cell is not on the
sheet. -/
def enterEdit (session : Session) (address : CellAddress) (mode : EntryMode)
    (typed : Option Char) : Outcome :=
  match session.edit, session.sheetOnScreen? with
  | none, some sheet =>
      if address.InBounds then
        let text :=
          match mode, typed with
          | .replace, some character => [character]
          | _, _ => sheet.editText address
        accept { session with
          edit := some (.ofCell address mode text session.activeSheet)
          selected := address
          suggestionsDismissed := false }
      else session.refuse
  | _, _ => session.refuse

def changeEdit (session : Session) (change : Edit → Edit) : Outcome :=
  match session.edit with
  | some edit => accept { session with edit := some (change edit) }
  | none => session.refuse

def changeEditIf (session : Session) (change : Edit → Option Edit) : Outcome :=
  match session.edit.bind change with
  | some edit => accept { session with edit := some edit }
  | none => session.refuse

/-- Replaces the text of the edit; suggestions may show again. -/
def updateText (session : Session) (text : Text) (caret selectionEnd : Nat) : Outcome :=
  match session.edit with
  | some edit =>
      accept { session with
        edit := some (edit.replaceText text caret selectionEnd)
        suggestionsDismissed := false }
  | none => session.refuse

/-- Completes the partial name at the caret to a function's name. -/
def acceptSuggestion (session : Session) (function : Text) : Outcome :=
  session.changeEditIf fun edit =>
    edit.nameContext?.map fun context =>
      edit.apply (Draft.acceptSuggestion edit.text context.start edit.caret function)

/-- Gives the reference at the caret of a formula the next combination of `$` marks. -/
def cycleAnchors (session : Session) : Outcome :=
  session.changeEditIf fun edit =>
    if edit.isFormula then (Draft.cycleAnchors? edit.text edit.caret).map edit.apply else none

def dismissSuggestions (session : Session) : Outcome :=
  if session.edit.isNone || session.suggestionsDismissed then session.refuse
  else accept { session with suggestionsDismissed := true }

def withoutEdit (session : Session) : Session :=
  { session with edit := none, suggestionsDismissed := false }

def committedText (session : Session) (edit : Edit) : Text :=
  if session.settings.autoCloseParentheses then Draft.closeParentheses edit.text else edit.text

/-- Ends the edit and writes its value to the cell and the sheet on which it began. -/
def commit (session : Session) : Outcome :=
  match session.edit with
  | none => session.refuse
  | some edit =>
      match session.workbook.sheet? edit.sheetIndex with
      | none => accept session.withoutEdit
      | some sheet =>
          let value := CellValue.ofInput (session.committedText edit)
          let written := session.workbook.withSheet edit.sheetIndex
            (sheet.write edit.address value)
          accept { session.withoutEdit with
            history := session.history.push written
            activeSheet := edit.sheetIndex
            selected := edit.address }

def cancel (session : Session) : Outcome :=
  if session.isEditing then accept session.withoutEdit else session.refuse

/-! ## Selection -/

/-- The nearest of the indices below `count` to an integer. -/
def clampIndex (count : Nat) (index : Int) : Nat := (min (max index 0) (count - 1 : Nat)).toNat

/-- The state with the selection moved, but not off the sheet. -/
def withSelectionMoved (session : Session) (rows columns : Int) : Session :=
  { session with
    selected := ⟨clampIndex rowCount (session.selected.row + rows),
      clampIndex columnCount (session.selected.column + columns)⟩ }

def commitAndMove (session : Session) (rows columns : Int) : Outcome :=
  accept (session.commit.1.withSelectionMoved rows columns)

def moveSelection (session : Session) (rows columns : Int) : Outcome :=
  if session.isEditing then session.refuse
  else accept (session.withSelectionMoved rows columns)

/-! ## Sheets -/

def setActiveSheet (session : Session) (index : Nat) : Outcome :=
  if index < session.workbook.sheetCount then accept { session with activeSheet := index }
  else session.refuse

def pushWorkbook (session : Session) (workbook : Workbook) : Session :=
  { session with history := session.history.push workbook }

def pushIf (session : Session) (workbook : Option Workbook) : Outcome :=
  match workbook with
  | some changed => accept (session.pushWorkbook changed)
  | none => session.refuse

/-- Adds a sheet under a name, or under the next free one. -/
def addSheet (session : Session) (name : Option Text) : Outcome :=
  session.pushIf <|
    match name with
    | some name => session.workbook.addSheetNamed? name
    | none => some session.workbook.addSheet

def renameSheet (session : Session) (index : Nat) (name : Text) : Outcome :=
  session.pushIf (session.workbook.renameSheet? index name)

/-- The index of a sheet after the one at `deleted` is gone, where `count` remain. The next sheet
takes the place of the deleted one, or the last sheet if there is no next. -/
def indexAfterDeletion (deleted remaining index : Nat) : Nat :=
  if deleted < index then index - 1
  else if index = deleted then min deleted (remaining - 1)
  else index

/-- Deletes a sheet. An edit that began on it, or any edit while it is on screen, ends without a
commit. -/
def deleteSheet (session : Session) (index : Nat) : Outcome :=
  match session.workbook.deleteSheet? index with
  | none => session.refuse
  | some remaining =>
      let endsEdit := session.edit.any fun edit =>
        edit.sheetIndex = index || session.activeSheet = index
      let kept := if endsEdit then session.withoutEdit else session
      let moved := indexAfterDeletion index remaining.sheetCount
      accept { kept.pushWorkbook remaining with
        edit := kept.edit.map fun edit => { edit with sheetIndex := moved edit.sheetIndex }
        activeSheet := moved session.activeSheet }

/-! ## History -/

/-- The state after a step in the history, with a sheet on screen that still exists. -/
def withHistory (session : Session) (history : History Workbook) : Session :=
  { session with
    history := history
    activeSheet := min session.activeSheet (history.present.sheetCount - 1) }

/-- Takes a step in the history, unless an edit is in progress. -/
def travel (session : Session) (step : Option (History Workbook)) : Outcome :=
  if session.isEditing then session.refuse
  else (session.withHistory (step.getD session.history), step.isSome)

def undo (session : Session) : Outcome := session.travel session.history.undo?

def redo (session : Session) : Outcome := session.travel session.history.redo?

/-! ## Dispatch -/

def dispatch (session : Session) : Action → Outcome
  | .enterEdit address mode typed => session.enterEdit address mode typed
  | .updateText text caret selectionEnd => session.updateText text caret selectionEnd
  | .setOrigin origin => session.changeEdit fun edit => { edit with origin := origin }
  | .setComposition composition => session.changeEdit (·.compose composition)
  | .insertReference text => session.changeEdit (·.insertAtCaret text)
  | .commit => session.commit
  | .cancel => session.cancel
  | .commitAndMove rows columns => session.commitAndMove rows columns
  | .moveSelection rows columns => session.moveSelection rows columns
  | .acceptSuggestion function => session.acceptSuggestion function
  | .dismissSuggestions => session.dismissSuggestions
  | .cycleAnchors => session.cycleAnchors
  | .setActiveSheet index => session.setActiveSheet index
  | .addSheet name => session.addSheet name
  | .renameSheet index name => session.renameSheet index name
  | .deleteSheet index => session.deleteSheet index
  | .undo => session.undo
  | .redo => session.redo

end Session

end SheetEditor
