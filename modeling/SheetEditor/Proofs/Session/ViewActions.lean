import SheetEditor.Proofs.Session.Refusal
import SheetEditor.Proofs.Session.Reversal

/-!
Contract: what a commit depends on, and what it does not.

Owns: the actions that only concern the view during an edit, the part of a session that a commit
depends on, and that view actions leave no trace in the session after the commit.

A run with view actions and the run without them show different sheets and suggestions and compose
differently all along. What they agree on is the document and the content of the edit; every action
that works on the edit keeps that agreement, and a commit leaves nothing else.
-/

namespace SheetEditor

namespace Action

/-- Whether an action, during an edit, concerns at most what is shown: the sheet on screen, the
focus, the composition and the suggestions. Moves of the selection, the beginning of another edit,
undo and redo are refused then. -/
def isView : Action → Bool
  | .setActiveSheet _ | .setOrigin _ | .setComposition _ | .dismissSuggestions
  | .moveSelection .. | .enterEdit .. | .undo | .redo => true
  | _ => false

/-- Whether an action works on the text of the edit, or adds or renames a sheet beside it. -/
def isDrafting : Action → Bool
  | .updateText .. | .insertReference _ | .acceptSuggestion _ | .cycleAnchors | .addSheet _
  | .renameSheet .. => true
  | _ => false

end Action

/-! ## The content of an edit -/

namespace Edit

/-- What of an edit a commit reads, and the caret, which says where the next change is made. -/
structure Content where
  address : CellAddress
  text : Text
  caret : Nat
  sheetIndex : Nat
deriving DecidableEq

def content (edit : Edit) : Content := ⟨edit.address, edit.text, edit.caret, edit.sheetIndex⟩

variable {edit other : Edit}

theorem content_inj (same : edit.content = other.content) :
    edit.address = other.address ∧ edit.text = other.text ∧ edit.caret = other.caret ∧
      edit.sheetIndex = other.sheetIndex := by
  simpa [content] using same

theorem content_apply (same : edit.content = other.content) (change : TextEdit) :
    (edit.apply change).content = (other.apply change).content := by
  obtain ⟨address, -, -, sheetIndex⟩ := content_inj same
  simp [content, apply, address, sheetIndex]

theorem content_replaceText (same : edit.content = other.content) (text : Text)
    (caret selectionEnd : Nat) :
    (edit.replaceText text caret selectionEnd).content =
      (other.replaceText text caret selectionEnd).content := by
  obtain ⟨address, -, -, sheetIndex⟩ := content_inj same
  simp [content, replaceText, address, sheetIndex]

theorem content_insertAtCaret (same : edit.content = other.content) (inserted : Text) :
    (edit.insertAtCaret inserted).content = (other.insertAtCaret inserted).content := by
  obtain ⟨-, text, caret, -⟩ := content_inj same
  simp only [insertAtCaret, text, caret]
  exact content_apply same _

/-- The partial name at the caret is one of the content. -/
theorem nameContext?_eq (same : edit.content = other.content) :
    edit.nameContext? = other.nameContext? := by
  obtain ⟨-, text, caret, -⟩ := content_inj same
  simp only [nameContext?, analysis, text, caret]

/-- Applying a text edit that is found in the content. -/
theorem content_map_apply (same : edit.content = other.content) (change : Option TextEdit) :
    (change.map edit.apply).map content = (change.map other.apply).map content := by
  cases change with
  | none => rfl
  | some change => exact congrArg some (content_apply same change)

end Edit

/-! ## Sessions that agree -/

namespace Session

variable {session one other : Session} {action : Action}

/-- Two sessions agree on everything that an edit in progress and its commit depend on. -/
structure Agrees (one other : Session) : Prop where
  history : one.history = other.history
  settings : one.settings = other.settings
  registry : one.registry = other.registry
  content : one.edit.map Edit.content = other.edit.map Edit.content

namespace Agrees

theorem refl (session : Session) : session.Agrees session := ⟨rfl, rfl, rfl, rfl⟩

theorem symm (agrees : one.Agrees other) : other.Agrees one :=
  ⟨agrees.history.symm, agrees.settings.symm, agrees.registry.symm, agrees.content.symm⟩

theorem trans {third : Session} (first : one.Agrees other) (second : other.Agrees third) :
    one.Agrees third :=
  ⟨first.history.trans second.history, first.settings.trans second.settings,
    first.registry.trans second.registry, first.content.trans second.content⟩

theorem workbook (agrees : one.Agrees other) : one.workbook = other.workbook :=
  congrArg History.present agrees.history

theorem isEditing (agrees : one.Agrees other) : one.isEditing = other.isEditing := by
  simpa [Session.isEditing] using congrArg Option.isSome agrees.content

/-- Edits in progress that agree have the same content. -/
theorem exists_edit {edit : Edit} (agrees : one.Agrees other) (editing : one.edit = some edit) :
    ∃ otherEdit, other.edit = some otherEdit ∧ edit.content = otherEdit.content := by
  have content := agrees.content
  rw [editing, Option.map_some] at content
  obtain ⟨otherEdit, otherEditing, same⟩ := Option.map_eq_some_iff.mp content.symm
  exact ⟨otherEdit, otherEditing, same.symm⟩

theorem idle (agrees : one.Agrees other) (idle : one.edit = none) : other.edit = none := by
  simpa [idle] using agrees.content.symm

/-! ### Actions on the edit and on the sheets -/

theorem changeEditIf (agrees : one.Agrees other) {change : Edit → Option Edit}
    (respects : ∀ {edit otherEdit : Edit}, edit.content = otherEdit.content →
      (change edit).map Edit.content = (change otherEdit).map Edit.content) :
    (one.changeEditIf change).1.Agrees (other.changeEditIf change).1 := by
  cases editing : one.edit with
  | none =>
      simp only [Session.changeEditIf, editing, agrees.idle editing]
      exact agrees
  | some edit =>
      obtain ⟨otherEdit, otherEditing, same⟩ := agrees.exists_edit editing
      simp only [Session.changeEditIf, editing, otherEditing, Option.bind_some]
      have changed := respects same
      cases revised : change edit with
      | none =>
          rw [revised, Option.map_none, eq_comm, Option.map_eq_none_iff] at changed
          rw [changed]
          exact agrees
      | some revision =>
          rw [revised, Option.map_some, eq_comm] at changed
          obtain ⟨otherRevision, otherRevised, sameRevision⟩ := Option.map_eq_some_iff.mp changed
          rw [otherRevised]
          exact ⟨agrees.history, agrees.settings, agrees.registry,
            congrArg some sameRevision.symm⟩

theorem changeEdit (agrees : one.Agrees other) {change : Edit → Edit}
    (respects : ∀ {edit otherEdit : Edit}, edit.content = otherEdit.content →
      (change edit).content = (change otherEdit).content) :
    (one.changeEdit change).1.Agrees (other.changeEdit change).1 := by
  rw [changeEdit_eq, changeEdit_eq]
  exact agrees.changeEditIf fun same => congrArg some (respects same)

/-- Whether suggestions may show again does not matter. -/
theorem of_updateText (session : Session) (text : Text) (caret selectionEnd : Nat) :
    (session.updateText text caret selectionEnd).1.Agrees
      (session.changeEdit (·.replaceText text caret selectionEnd)).1 := by
  unfold Session.updateText Session.changeEdit
  split <;> exact ⟨rfl, rfl, rfl, rfl⟩

theorem updateText (agrees : one.Agrees other) (text : Text) (caret selectionEnd : Nat) :
    (one.updateText text caret selectionEnd).1.Agrees
      (other.updateText text caret selectionEnd).1 :=
  (of_updateText one text caret selectionEnd).trans <|
    (agrees.changeEdit fun same => Edit.content_replaceText same text caret selectionEnd).trans
      (of_updateText other text caret selectionEnd).symm

theorem pushIf (agrees : one.Agrees other) (workbook : Option Workbook) :
    (one.pushIf workbook).1.Agrees (other.pushIf workbook).1 := by
  cases workbook with
  | none => exact agrees
  | some changed =>
      exact ⟨congrArg (·.push changed) agrees.history, agrees.settings, agrees.registry,
        agrees.content⟩

/-- Whatever works on the edit does the same in sessions that agree. -/
theorem dispatch (agrees : one.Agrees other) (drafting : action.isDrafting = true) :
    (one.dispatch action).1.Agrees (other.dispatch action).1 := by
  cases action with
  | updateText text caret selectionEnd => exact agrees.updateText text caret selectionEnd
  | insertReference text => exact agrees.changeEdit fun same => Edit.content_insertAtCaret same text
  | acceptSuggestion function =>
      refine agrees.changeEditIf fun {edit otherEdit} same => ?_
      obtain ⟨-, text, caret, -⟩ := Edit.content_inj same
      rw [Edit.nameContext?_eq same, text, caret]
      cases otherEdit.nameContext? with
      | none => rfl
      | some context => exact congrArg some (Edit.content_apply same _)
  | cycleAnchors =>
      refine agrees.changeEditIf fun {edit otherEdit} same => ?_
      obtain ⟨-, text, caret, -⟩ := Edit.content_inj same
      have isFormula : edit.isFormula = otherEdit.isFormula := by simp only [Edit.isFormula, text]
      rw [isFormula]
      split
      · rw [text, caret]
        exact Edit.content_map_apply same _
      · rfl
  | addSheet name =>
      simp only [Session.dispatch, Session.addSheet, agrees.workbook]
      exact agrees.pushIf _
  | renameSheet index name =>
      simp only [Session.dispatch, Session.renameSheet, agrees.workbook]
      exact agrees.pushIf _
  | _ => cases drafting

/-! ### View actions -/

theorem of_changeEdit {change : Edit → Edit}
    (keeps : ∀ edit : Edit, (change edit).content = edit.content) :
    (session.changeEdit change).1.Agrees session := by
  unfold Session.changeEdit
  split
  · next edit editing =>
      refine ⟨rfl, rfl, rfl, ?_⟩
      rw [editing]
      exact congrArg some (keeps edit)
  · exact refl session

/-- During an edit, a view action leaves everything that the edit depends on. -/
theorem of_isView (editing : session.isEditing = true) (view : action.isView = true) :
    (session.dispatch action).1.Agrees session := by
  cases action with
  | enterEdit | moveSelection | undo | redo =>
      rw [dispatch_of_needsIdle editing rfl]
      exact refl session
  | setOrigin | setComposition => exact of_changeEdit fun edit => rfl
  | dismissSuggestions =>
      simp only [Session.dispatch, dismissSuggestions]
      split
      · exact refl session
      · exact ⟨rfl, rfl, rfl, rfl⟩
  | setActiveSheet index =>
      simp only [Session.dispatch, setActiveSheet]
      split
      · exact ⟨rfl, rfl, rfl, rfl⟩
      · exact refl session
  | _ => cases view

/-! ### Commits -/

/-- Sessions that agree are the same after a commit. -/
theorem commit (agrees : one.Agrees other) (wellFormed : one.WellFormed)
    (editing : one.isEditing = true) : one.commit = other.commit := by
  obtain ⟨edit, found⟩ := Option.isSome_iff_exists.mp editing
  obtain ⟨otherEdit, otherFound, same⟩ := agrees.exists_edit found
  obtain ⟨address, text, -, sheetIndex⟩ := Edit.content_inj same
  obtain ⟨sheet, target⟩ :=
    Workbook.exists_sheet?_of_lt (wellFormed.edit_valid edit found).sheetIndex_lt
  have otherTarget : other.workbook.sheet? otherEdit.sheetIndex = some sheet := by
    rw [← agrees.workbook, ← sheetIndex]
    exact target
  rw [commit_eq found target, commit_eq otherFound otherTarget]
  simp only [committedText, withoutEdit, agrees.workbook, agrees.history, agrees.settings,
    agrees.registry, address, text, sheetIndex]

end Agrees

/-! ## Runs -/

/-- An edit goes on while its text is worked on and while sheets are added or renamed. -/
theorem isEditing_of_isDrafting (session : Session) (drafting : action.isDrafting = true) :
    (session.dispatch action).1.isEditing = session.isEditing := by
  cases action with
  | updateText => simp [dispatch, isEditing, edit_updateText]
  | insertReference => simp [dispatch, isEditing, edit_changeEdit]
  | acceptSuggestion | cycleAnchors =>
      simp [dispatch, acceptSuggestion, cycleAnchors, isEditing, edit_changeEditIf]
  | addSheet | renameSheet => exact congrArg Option.isSome (session.edit_pushIf _)
  | _ => cases drafting

/-- The run without the view actions agrees with the run that has them. -/
theorem Agrees.perform {actions : List Action} (agrees : one.Agrees other)
    (editing : one.isEditing = true)
    (drawn : ∀ action ∈ actions, action.isView = true ∨ action.isDrafting = true) :
    (one.perform actions).Agrees (other.perform (actions.filter fun action => !action.isView)) ∧
      (one.perform actions).isEditing = true := by
  induction actions generalizing one other with
  | nil => exact ⟨agrees, editing⟩
  | cons action rest inductionHypothesis =>
      have drawnLater := fun later member => drawn later (List.mem_cons_of_mem _ member)
      rw [perform_cons]
      cases view : action.isView with
      | true =>
          -- Only the first run takes this step, and it still agrees with the other one after it.
          have unseen := Agrees.of_isView editing view
          rw [List.filter_cons_of_neg (by simp [view])]
          exact inductionHypothesis (unseen.trans agrees) (unseen.isEditing.trans editing)
            drawnLater
      | false =>
          -- Both runs take this step.
          have drafting : action.isDrafting = true :=
            (drawn action List.mem_cons_self).resolve_left (by simp [view])
          rw [List.filter_cons_of_pos (by simp [view]), perform_cons]
          exact inductionHypothesis (agrees.dispatch drafting)
            ((one.isEditing_of_isDrafting drafting).trans editing) drawnLater

/-- During an edit, view actions have no influence on what is committed: deleted from a run, they
leave the same session after the commit, with the same history, sheet on screen and selected cell,
and without an edit. The commit is accepted either way. -/
theorem view_actions_leave_no_trace {actions : List Action} (reachable : session.Reachable)
    (editing : session.isEditing = true)
    (drawn : ∀ action ∈ actions, action.isView = true ∨ action.isDrafting = true) :
    let viewed := (session.perform actions).dispatch .commit
    let unviewed :=
      (session.perform (actions.filter fun action => !action.isView)).dispatch .commit
    viewed = unviewed ∧ viewed.2 = true ∧ viewed.1.edit = none := by
  intro viewed unviewed
  obtain ⟨agrees, stillEditing⟩ := (Agrees.refl session).perform editing drawn
  have wellFormed : (session.perform actions).WellFormed := (reachable.run _).wellFormed
  obtain ⟨edit, found⟩ := Option.isSome_iff_exists.mp stillEditing
  obtain ⟨sheet, target⟩ :=
    Workbook.exists_sheet?_of_lt (wellFormed.edit_valid edit found).sheetIndex_lt
  have committed := commit_eq found target
  exact ⟨agrees.commit wellFormed stillEditing, congrArg Prod.snd committed,
    congrArg (·.1.edit) committed⟩

/-- A formula is typed on the first sheet with a second one on screen, a composition under way and
every view action in between; the sheet it is written to is renamed meanwhile. -/
theorem view_actions_around_formula :
    let session := (((Session.new Workbook.new.addSheet .default).withRegistry []).run
      [.act (.enterEdit ⟨4, 1⟩ .replace (some '='))])
    let actions : List Action := [.setActiveSheet 1, .updateText "=SU".toList 3 3,
      .setComposition ⟨true, "m".toList, 3⟩, .dismissSuggestions, .acceptSuggestion "SUM".toList,
      .undo, .setOrigin .formulaBar, .insertReference "A1".toList, .enterEdit ⟨0, 0⟩ .enter none,
      .cycleAnchors, .addSheet none, .moveSelection 3 3, .renameSheet 0 "Data".toList, .redo]
    session.isEditing = true ∧
      (∀ action ∈ actions, action.isView = true ∨ action.isDrafting = true) ∧
      (session.perform actions).activeSheet = 1 ∧
      (session.perform actions).edit.map (·.text) = some "=SUM($A$1".toList ∧
      (session.perform actions).dispatch .commit =
        (session.perform [.updateText "=SU".toList 3 3, .acceptSuggestion "SUM".toList,
          .insertReference "A1".toList, .cycleAnchors, .addSheet none,
          .renameSheet 0 "Data".toList]).dispatch .commit := by
  intro session actions
  have reachable : session.Reachable := .run (.start .default [] (.addSheet .new)) _
  have editing : session.isEditing = true := rfl
  have drawn : ∀ action ∈ actions, action.isView = true ∨ action.isDrafting = true := by decide
  exact ⟨editing, drawn, by decide +kernel, by decide +kernel,
    (view_actions_leave_no_trace reachable editing drawn).1⟩

end Session

end SheetEditor
