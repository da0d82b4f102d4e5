import SheetEditor.Proofs.Session.WellFormed

/-!
Contract: actions and key presses that are refused.

Owns: which actions need an edit in progress and which need that there is none, and that a session
is the same after a refusal as before it.

An outcome is a session with a flag, so nothing in its type keeps a refusal from changing the
session. Undo and redo are the ones that could: they bring the sheet on screen back among the sheets
of the workbook, also where there is no step to take.
-/

namespace SheetEditor

/-! ## When actions are available -/

namespace Action

/-- Whether an action is one on the edit in progress. -/
def needsEdit : Action → Bool
  | .updateText .. | .setOrigin _ | .setComposition _ | .insertReference _ | .commit | .cancel
  | .acceptSuggestion _ | .dismissSuggestions | .cycleAnchors => true
  | _ => false

/-- Whether an action is only for a session without an edit. -/
def needsIdle : Action → Bool
  | .enterEdit .. | .moveSelection .. | .undo | .redo => true
  | _ => false

end Action

namespace Session

variable {session : Session} {action : Action}

theorem dispatch_of_needsEdit (idle : session.edit = none) (needs : action.needsEdit = true) :
    session.dispatch action = session.refuse := by
  cases action with
  | updateText text caret selectionEnd => simp [dispatch, updateText, idle]
  | setOrigin | setComposition | insertReference => simp [dispatch, changeEdit, idle]
  | commit => simp [dispatch, commit, idle]
  | cancel => simp [dispatch, cancel, isEditing, idle]
  | acceptSuggestion function => simp [dispatch, acceptSuggestion, changeEditIf, idle]
  | dismissSuggestions => simp [dispatch, dismissSuggestions, idle]
  | cycleAnchors => simp [dispatch, cycleAnchors, changeEditIf, idle]
  | _ => cases needs

theorem dispatch_of_needsIdle (editing : session.isEditing = true)
    (needs : action.needsIdle = true) : session.dispatch action = session.refuse := by
  cases action with
  | enterEdit address mode typed =>
      obtain ⟨edit, found⟩ := Option.isSome_iff_exists.mp editing
      simp [dispatch, enterEdit, found]
  | moveSelection rows columns => simp [dispatch, moveSelection, editing]
  | undo => simp [dispatch, undo, travel, editing]
  | redo => simp [dispatch, redo, travel, editing]
  | _ => cases needs

/-! ## The outcome of each operation -/

/-- An outcome is a refusal that changes nothing, or the action was accepted. -/
def Settles (session : Session) (outcome : Outcome) : Prop :=
  outcome = session.refuse ∨ outcome.2 = true

theorem Settles.eq_of_refused {outcome : Outcome} (settles : session.Settles outcome)
    (refused : outcome.2 = false) : outcome.1 = session := by
  rcases settles with unchanged | accepted
  · rw [unchanged]
    rfl
  · cases refused.symm.trans accepted

theorem settles_enterEdit (session : Session) (address : CellAddress) (mode : EntryMode)
    (typed : Option Char) : session.Settles (session.enterEdit address mode typed) := by
  unfold enterEdit
  split
  · split
    · exact .inr rfl
    · exact .inl rfl
  · exact .inl rfl

theorem settles_changeEditIf (session : Session) (change : Edit → Option Edit) :
    session.Settles (session.changeEditIf change) := by
  unfold changeEditIf
  split
  · exact .inr rfl
  · exact .inl rfl

theorem settles_changeEdit (session : Session) (change : Edit → Edit) :
    session.Settles (session.changeEdit change) := by
  rw [changeEdit_eq]
  exact session.settles_changeEditIf _

theorem settles_updateText (session : Session) (text : Text) (caret selectionEnd : Nat) :
    session.Settles (session.updateText text caret selectionEnd) := by
  unfold updateText
  split
  · exact .inr rfl
  · exact .inl rfl

theorem settles_dismissSuggestions (session : Session) :
    session.Settles session.dismissSuggestions := by
  unfold dismissSuggestions
  split
  · exact .inl rfl
  · exact .inr rfl

theorem settles_commit (session : Session) : session.Settles session.commit := by
  unfold commit
  split
  · exact .inl rfl
  · split <;> exact .inr rfl

theorem settles_cancel (session : Session) : session.Settles session.cancel := by
  unfold cancel
  split
  · exact .inr rfl
  · exact .inl rfl

theorem settles_moveSelection (session : Session) (rows columns : Int) :
    session.Settles (session.moveSelection rows columns) := by
  unfold moveSelection
  split
  · exact .inl rfl
  · exact .inr rfl

theorem settles_setActiveSheet (session : Session) (index : Nat) :
    session.Settles (session.setActiveSheet index) := by
  unfold setActiveSheet
  split
  · exact .inr rfl
  · exact .inl rfl

theorem settles_pushIf (session : Session) (workbook : Option Workbook) :
    session.Settles (session.pushIf workbook) := by
  cases workbook with
  | none => exact .inl rfl
  | some changed => exact .inr rfl

theorem settles_deleteSheet (session : Session) (index : Nat) :
    session.Settles (session.deleteSheet index) := by
  unfold deleteSheet
  split
  · exact .inl rfl
  · exact .inr rfl

/-- The sheet on screen is one of the workbook, so bringing it back among them changes nothing. -/
theorem WellFormed.withHistory_self (wellFormed : session.WellFormed) :
    session.withHistory session.history = session := by
  have inside : session.activeSheet ≤ session.history.present.sheetCount - 1 :=
    Nat.le_sub_one_of_lt wellFormed.activeSheet_lt
  simp only [withHistory, Nat.min_eq_left inside]

theorem WellFormed.settles_travel (wellFormed : session.WellFormed)
    (step : Option (History Workbook)) : session.Settles (session.travel step) := by
  unfold travel
  split
  · exact .inl rfl
  · cases step with
    | none =>
        -- All that could change is the sheet on screen.
        refine .inl ?_
        rw [Option.getD_none, wellFormed.withHistory_self]
        rfl
    | some history => exact .inr rfl

/-- Every action either is refused without a change or is accepted. -/
theorem WellFormed.settles_dispatch (wellFormed : session.WellFormed) (action : Action) :
    session.Settles (session.dispatch action) := by
  cases action with
  | enterEdit address mode typed => exact session.settles_enterEdit address mode typed
  | updateText text caret selectionEnd => exact session.settles_updateText text caret selectionEnd
  | setOrigin | setComposition | insertReference => exact session.settles_changeEdit _
  | commit => exact session.settles_commit
  | cancel => exact session.settles_cancel
  | commitAndMove rows columns => exact .inr rfl
  | moveSelection rows columns => exact session.settles_moveSelection rows columns
  | acceptSuggestion | cycleAnchors => exact session.settles_changeEditIf _
  | dismissSuggestions => exact session.settles_dismissSuggestions
  | setActiveSheet index => exact session.settles_setActiveSheet index
  | addSheet | renameSheet => exact session.settles_pushIf _
  | deleteSheet index => exact session.settles_deleteSheet index
  | undo | redo => exact wellFormed.settles_travel _

/-- A key press is ignored or is an action, so it settles as actions do. -/
theorem WellFormed.settles_pressKey (wellFormed : session.WellFormed) (press : KeyPress) :
    session.Settles (session.pressKey press) := by
  rcases session.pressKey_eq press with ignored | ⟨action, acts⟩
  · exact .inl ignored
  · rw [acts]
    exact wellFormed.settles_dispatch action

/-! ## Refusals -/

/-- In every reachable session an action or a key press that is refused leaves the whole session as
it was. Refused are, among others, all actions on an edit if there is none, and during an edit the
beginning of another one, moves of the selection, undo and redo. -/
theorem refusal_changes_nothing (reachable : session.Reachable) :
    (∀ action, (session.dispatch action).2 = false → (session.dispatch action).1 = session) ∧
      (∀ press, (session.pressKey press).2 = false → (session.pressKey press).1 = session) ∧
      ∀ action : Action,
        (if session.isEditing then action.needsIdle else action.needsEdit) = true →
          session.dispatch action = session.refuse := by
  have wellFormed := reachable.wellFormed
  refine ⟨fun action => (wellFormed.settles_dispatch action).eq_of_refused,
    fun press => (wellFormed.settles_pressKey press).eq_of_refused, ?_⟩
  intro action needs
  split at needs
  · next editing => exact dispatch_of_needsIdle editing needs
  · next notEditing =>
      have idle : session.edit = none := by simpa [isEditing] using notEditing
      exact dispatch_of_needsEdit idle needs

/-- The last sheet is on screen, one sheet was deleted and the deletion undone. There is nothing to
redo after another sheet was added, no edit for a composition, and an escape key means nothing. -/
theorem refusals_on_last_sheet :
    let session := ((Session.new Workbook.new.addSheet .default).withRegistry []).run
      [.act (.deleteSheet 0), .press ⟨.character 'z', false, true⟩, .act (.addSheet none),
        .act (.setActiveSheet 2)]
    session.activeSheet = 2 ∧
      (session.dispatch .redo).2 = false ∧ (session.dispatch .redo).1 = session ∧
      (session.pressKey ⟨.escape, false, false⟩).2 = false ∧
      (session.pressKey ⟨.escape, false, false⟩).1 = session ∧
      session.dispatch (.setComposition ⟨true, "k".toList, 1⟩) = session.refuse := by
  intro session
  obtain ⟨actions, presses, unavailable⟩ :=
    refusal_changes_nothing (.run (.start .default [] (.addSheet .new)) _ : session.Reachable)
  exact ⟨rfl, rfl, actions .redo rfl, rfl, presses ⟨.escape, false, false⟩ rfl,
    unavailable (.setComposition _) rfl⟩

end Session

end SheetEditor
