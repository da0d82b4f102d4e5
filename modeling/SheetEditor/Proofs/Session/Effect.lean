import SheetEditor.Proofs.Workbook.Operations
import SheetEditor.Session.Key

/-!
Contract: what an action or a key press can do to a session.

Owns: the changes that an edit in progress undergoes, the complete list of
effects on a session, the proof that every action and every key press has one of
them, the edit after each operation, and the reachable sessions.

An effect says which fields change and under which condition it occurs; it
forgets which action caused it. Invariants are proved once for each effect.
-/

namespace SheetEditor

/-! ## Changes of an edit -/

namespace Edit

variable {edit : Edit}

/-- Caret and selection lie within the text. -/
structure CaretsInText (edit : Edit) : Prop where
  caret : edit.caret ≤ edit.text.length
  selectionEnd : edit.selectionEnd ≤ edit.text.length

/-- A later form of the same edit: its cell and its sheet stay, and its caret and selection stay
within the text. -/
structure Revises (edit revision : Edit) : Prop where
  address : revision.address = edit.address
  sheetIndex : revision.sheetIndex = edit.sheetIndex
  carets : edit.CaretsInText → revision.CaretsInText

theorem caretsInText_ofCell (address : CellAddress) (mode : EntryMode) (text : Text)
    (sheetIndex : Nat) : (ofCell address mode text sheetIndex).CaretsInText :=
  ⟨Nat.le_refl _, Nat.le_refl _⟩

theorem revises_refl (edit : Edit) : edit.Revises edit := ⟨rfl, rfl, id⟩

theorem revises_origin (edit : Edit) (origin : EditOrigin) :
    edit.Revises { edit with origin := origin } :=
  ⟨rfl, rfl, fun inText => ⟨inText.caret, inText.selectionEnd⟩⟩

theorem revises_compose (edit : Edit) (composition : Composition) :
    edit.Revises (edit.compose composition) :=
  ⟨rfl, rfl, fun inText => ⟨inText.caret, inText.selectionEnd⟩⟩

theorem revises_replaceText (edit : Edit) (text : Text) (caret selectionEnd : Nat) :
    edit.Revises (edit.replaceText text caret selectionEnd) :=
  ⟨rfl, rfl, fun _ => ⟨Nat.min_le_right .., Nat.min_le_right ..⟩⟩

/-- A text edit revises an edit if it leaves the caret within its own text. -/
theorem revises_apply {change : TextEdit}
    (caretInText : edit.CaretsInText → change.caret ≤ change.text.length) :
    edit.Revises (edit.apply change) :=
  ⟨rfl, rfl, fun inText => ⟨caretInText inText, caretInText inText⟩⟩

theorem revises_insertAtCaret (edit : Edit) (inserted : Text) :
    edit.Revises (edit.insertAtCaret inserted) := by
  apply revises_apply
  intro inText
  have caret := inText.caret
  simp only [Text.length_splice]
  omega

end Edit

namespace Draft

theorem caret_acceptSuggestion_le (text : Text) (start caret : Nat) (name : Text) :
    (acceptSuggestion text start caret name).caret ≤
      (acceptSuggestion text start caret name).text.length := by
  simp only [acceptSuggestion, Text.length_splice]
  omega

/-- The caret stays in the text even where the cell would not: a cell is replaced where it
stands, and a caret behind it moves by what the cell grows. -/
theorem caret_cycleAnchors?_le {text : Text} {caret : Nat} {change : TextEdit}
    (cycled : cycleAnchors? text caret = some change) : change.caret ≤ change.text.length := by
  unfold cycleAnchors? at cycled
  obtain ⟨placed, _, rest⟩ := Option.bind_eq_some_iff.mp cycled
  obtain rfl := Option.some.inj rest
  have cellSpan : placed.start ≤ placed.stop := by simp [PlacedCell.stop]
  simp only [Text.length_splice, PlacedCell.moveCaret]
  split
  · omega
  · split <;> omega

end Draft

/-! ## Effects on a session -/

namespace Session

variable {session : Session}

/-- What one action can do to a session. -/
inductive Effect (session : Session) : Session → Prop where
  | unchanged : Effect session session
  /-- An edit begins on the sheet on screen. -/
  | began {sheet : Sheet} {address : CellAddress} (mode : EntryMode) (text : Text)
      (idle : session.edit = none) (onScreen : session.sheetOnScreen? = some sheet)
      (inBounds : address.InBounds) :
      Effect session { session with
        edit := some (.ofCell address mode text session.activeSheet)
        selected := address
        suggestionsDismissed := false }
  /-- The edit in progress is revised, or its suggestions are dismissed. -/
  | revised {edit revision : Edit} (dismissed : Bool) (editing : session.edit = some edit)
      (revises : edit.Revises revision) :
      Effect session { session with edit := some revision, suggestionsDismissed := dismissed }
  /-- The edit ends without a change of the workbook. -/
  | ended {selected : CellAddress}
      (keepsBounds : session.selected.InBounds → selected.InBounds) :
      Effect session { session.withoutEdit with selected := selected }
  /-- The edit ends with a value written to its cell. -/
  | committed {edit : Edit} {sheet : Sheet} {selected : CellAddress} (value : CellValue)
      (editing : session.edit = some edit)
      (target : session.workbook.sheet? edit.sheetIndex = some sheet)
      (keepsBounds : edit.address.InBounds → selected.InBounds) :
      Effect session { session.withoutEdit with
        history := session.history.push
          (session.workbook.withSheet edit.sheetIndex (sheet.write edit.address value))
        activeSheet := edit.sheetIndex
        selected := selected }
  | moved (rows columns : Int) (idle : session.edit = none) :
      Effect session (session.withSelectionMoved rows columns)
  | switched {index : Nat} (inside : index < session.workbook.sheetCount) :
      Effect session { session with activeSheet := index }
  /-- A sheet is added under the next free name, or under a name that is accepted. -/
  | appended (name : Text)
      (added : session.workbook.addSheet = session.workbook.append name ∨
        session.workbook.addSheetNamed? name = some (session.workbook.append name)) :
      Effect session (session.pushWorkbook (session.workbook.append name))
  | renamed {index : Nat} {name : Text} {changed : Workbook}
      (accepted : session.workbook.renameSheet? index name = some changed) :
      Effect session (session.pushWorkbook changed)
  /-- A sheet is deleted, and with it goes the edit. -/
  | deletedEnding {deleted : Nat} {remaining : Workbook}
      (deletion : session.workbook.deleteSheet? deleted = some remaining) :
      Effect session { session.withoutEdit with
        history := session.history.push remaining
        activeSheet := indexAfterDeletion deleted remaining.sheetCount session.activeSheet }
  /-- A sheet is deleted that is neither edited nor, during an edit, on screen. -/
  | deletedKeeping {deleted : Nat} {remaining : Workbook}
      (deletion : session.workbook.deleteSheet? deleted = some remaining)
      (elsewhere : ∀ edit, session.edit = some edit →
        edit.sheetIndex ≠ deleted ∧ session.activeSheet ≠ deleted) :
      Effect session { session with
        history := session.history.push remaining
        edit := session.edit.map fun edit =>
          { edit with
            sheetIndex := indexAfterDeletion deleted remaining.sheetCount edit.sheetIndex }
        activeSheet := indexAfterDeletion deleted remaining.sheetCount session.activeSheet }
  /-- A step in the history, or none if there is none to take. -/
  | travelled {history : History Workbook} (idle : session.edit = none)
      (step : session.history.undo? = some history ∨ session.history.redo? = some history ∨
        history = session.history) :
      Effect session (session.withHistory history)

/-! ### The effect of each operation -/

theorem clampIndex_lt {count : Nat} (positive : 0 < count) (index : Int) :
    clampIndex count index < count := by
  simp only [clampIndex]
  omega

/-- Moving never leads off the sheet. -/
theorem inBounds_withSelectionMoved (session : Session) (rows columns : Int) :
    (session.withSelectionMoved rows columns).selected.InBounds :=
  ⟨clampIndex_lt (by decide) _, clampIndex_lt (by decide) _⟩

theorem effect_enterEdit (session : Session) (address : CellAddress) (mode : EntryMode)
    (typed : Option Char) : session.Effect (session.enterEdit address mode typed).1 := by
  unfold enterEdit
  split
  · rename_i sheet idle onScreen
    split
    · exact .began mode _ idle onScreen (by assumption)
    · exact .unchanged
  · exact .unchanged

theorem effect_changeEditIf {change : Edit → Option Edit}
    (revises : ∀ edit revision : Edit, change edit = some revision → edit.Revises revision) :
    session.Effect (session.changeEditIf change).1 := by
  unfold changeEditIf
  split
  · rename_i revision changed
    obtain ⟨edit, editing, applied⟩ := Option.bind_eq_some_iff.mp changed
    exact .revised session.suggestionsDismissed editing (revises edit revision applied)
  · exact .unchanged

/-- A change that is always possible is a special case of one that may be refused. -/
theorem changeEdit_eq (session : Session) (change : Edit → Edit) :
    session.changeEdit change = session.changeEditIf fun edit => some (change edit) := by
  cases editing : session.edit <;> simp [changeEdit, changeEditIf, editing]

theorem effect_changeEdit {change : Edit → Edit}
    (revises : ∀ edit : Edit, edit.Revises (change edit)) :
    session.Effect (session.changeEdit change).1 := by
  rw [changeEdit_eq]
  apply effect_changeEditIf
  rintro edit _ ⟨⟩
  exact revises edit

theorem effect_updateText (session : Session) (text : Text) (caret selectionEnd : Nat) :
    session.Effect (session.updateText text caret selectionEnd).1 := by
  unfold updateText
  split
  · rename_i edit editing
    exact .revised false editing (edit.revises_replaceText text caret selectionEnd)
  · exact .unchanged

theorem effect_acceptSuggestion (session : Session) (function : Text) :
    session.Effect (session.acceptSuggestion function).1 := by
  apply effect_changeEditIf
  intro edit revision accepted
  obtain ⟨context, _, rfl⟩ := Option.map_eq_some_iff.mp accepted
  exact Edit.revises_apply fun _ => Draft.caret_acceptSuggestion_le ..

theorem effect_cycleAnchors (session : Session) : session.Effect session.cycleAnchors.1 := by
  apply effect_changeEditIf
  intro edit revision cycled
  split at cycled
  · obtain ⟨change, found, rfl⟩ := Option.map_eq_some_iff.mp cycled
    exact Edit.revises_apply fun _ => Draft.caret_cycleAnchors?_le found
  · contradiction

theorem effect_dismissSuggestions (session : Session) :
    session.Effect session.dismissSuggestions.1 := by
  unfold dismissSuggestions
  split
  · exact .unchanged
  · rename_i shown
    simp only [Bool.or_eq_true, Option.isNone_iff_eq_none, not_or] at shown
    obtain ⟨edit, editing⟩ := Option.ne_none_iff_exists'.mp shown.1
    have same : { session with suggestionsDismissed := true } =
        { session with edit := some edit, suggestionsDismissed := true } := by rw [← editing]
    simp only [accept]
    rw [same]
    exact .revised true editing edit.revises_refl

theorem effect_cancel (session : Session) : session.Effect session.cancel.1 := by
  unfold cancel
  split
  · exact .ended id
  · exact .unchanged

/-- A commit ends the edit, and a move after it only changes the selection. -/
theorem effect_commitAndMove (session : Session) (rows columns : Int) :
    session.Effect (session.commitAndMove rows columns).1 := by
  have moved := fun later : Session => inBounds_withSelectionMoved later rows columns
  unfold commitAndMove commit
  split
  · rename_i idle
    exact .moved rows columns idle
  · rename_i edit editing
    split
    · exact .ended fun _ => moved session.withoutEdit
    · rename_i sheet target
      exact .committed _ editing target fun _ => moved _

theorem effect_commit (session : Session) : session.Effect session.commit.1 := by
  unfold commit
  split
  · exact .unchanged
  · rename_i edit editing
    split
    · exact .ended id
    · rename_i sheet target
      exact .committed _ editing target id

theorem effect_moveSelection (session : Session) (rows columns : Int) :
    session.Effect (session.moveSelection rows columns).1 := by
  unfold moveSelection
  split
  · exact .unchanged
  · rename_i idle
    exact .moved rows columns (by simpa [isEditing] using idle)

theorem effect_setActiveSheet (session : Session) (index : Nat) :
    session.Effect (session.setActiveSheet index).1 := by
  unfold setActiveSheet
  split
  · exact .switched (by assumption)
  · exact .unchanged

theorem effect_addSheet (session : Session) (name : Option Text) :
    session.Effect (session.addSheet name).1 := by
  unfold addSheet pushIf
  split
  · rename_i changed added
    split at added
    · obtain rfl := Workbook.eq_append_of_addSheetNamed? added
      exact .appended _ (.inr added)
    · rw [← Option.some.inj added]
      exact .appended _ (.inl rfl)
  · exact .unchanged

theorem effect_renameSheet (session : Session) (index : Nat) (name : Text) :
    session.Effect (session.renameSheet index name).1 := by
  unfold renameSheet pushIf
  split
  · rename_i changed accepted
    exact .renamed accepted
  · exact .unchanged

theorem effect_deleteSheet (session : Session) (index : Nat) :
    session.Effect (session.deleteSheet index).1 := by
  unfold deleteSheet
  split
  · exact .unchanged
  · rename_i remaining deletion
    by_cases ends : (session.edit.any fun edit =>
        edit.sheetIndex = index || session.activeSheet = index) = true
    · simp only [ends, if_true]
      exact .deletedEnding deletion
    · simp only [ends]
      refine .deletedKeeping deletion ?_
      intro edit editing
      simpa [editing] using ends

theorem effect_travel {step : Option (History Workbook)}
    (steps : ∀ history, step = some history →
      session.history.undo? = some history ∨ session.history.redo? = some history) :
    session.Effect (session.travel step).1 := by
  unfold travel
  split
  · exact .unchanged
  · rename_i idle
    refine .travelled (by simpa [isEditing] using idle) ?_
    cases step with
    | none => exact .inr (.inr rfl)
    | some history => exact (steps history rfl).imp id .inl

/-- Every action has one of the effects. -/
theorem effect_dispatch (session : Session) (action : Action) :
    session.Effect (session.dispatch action).1 := by
  cases action with
  | enterEdit address mode typed => exact session.effect_enterEdit address mode typed
  | updateText text caret selectionEnd => exact session.effect_updateText text caret selectionEnd
  | setOrigin origin => exact effect_changeEdit fun edit => edit.revises_origin origin
  | setComposition composition =>
      exact effect_changeEdit fun edit => edit.revises_compose composition
  | insertReference text => exact effect_changeEdit fun edit => edit.revises_insertAtCaret text
  | commit => exact session.effect_commit
  | cancel => exact session.effect_cancel
  | commitAndMove rows columns => exact session.effect_commitAndMove rows columns
  | moveSelection rows columns => exact session.effect_moveSelection rows columns
  | acceptSuggestion function => exact session.effect_acceptSuggestion function
  | dismissSuggestions => exact session.effect_dismissSuggestions
  | cycleAnchors => exact session.effect_cycleAnchors
  | setActiveSheet index => exact session.effect_setActiveSheet index
  | addSheet name => exact session.effect_addSheet name
  | renameSheet index name => exact session.effect_renameSheet index name
  | deleteSheet index => exact session.effect_deleteSheet index
  | undo => exact effect_travel fun _ => .inl
  | redo => exact effect_travel fun _ => .inr

/-! ### The edit after each operation -/

theorem edit_commit (session : Session) : session.commit.1.edit = none := by
  unfold commit
  split
  · next idle => exact idle
  · split <;> rfl

theorem edit_cancel (session : Session) : session.cancel.1.edit = none := by
  unfold cancel
  split
  · rfl
  · next idle => simpa [refuse, isEditing] using idle

theorem edit_pushIf (session : Session) (workbook : Option Workbook) :
    (session.pushIf workbook).1.edit = session.edit := by
  cases workbook <;> rfl

theorem edit_travel (session : Session) (step : Option (History Workbook)) :
    (session.travel step).1.edit = session.edit := by
  unfold travel
  split <;> rfl

/-- A change that is not possible leaves the edit as it was. -/
theorem edit_changeEditIf (session : Session) (change : Edit → Option Edit) :
    (session.changeEditIf change).1.edit = session.edit.map fun edit => (change edit).getD edit := by
  cases editing : session.edit with
  | none => simp [changeEditIf, editing, refuse]
  | some edit =>
      cases changed : change edit <;> simp [changeEditIf, editing, changed, accept, refuse]

theorem edit_changeEdit (session : Session) (change : Edit → Edit) :
    (session.changeEdit change).1.edit = session.edit.map change := by
  rw [changeEdit_eq, edit_changeEditIf]
  rfl

theorem edit_updateText (session : Session) (text : Text) (caret selectionEnd : Nat) :
    (session.updateText text caret selectionEnd).1.edit =
      session.edit.map (·.replaceText text caret selectionEnd) := by
  cases editing : session.edit <;> simp [updateText, editing, accept, refuse]

/-! ## Runs -/

/-- What can happen to a session. -/
inductive Event where
  | act (action : Action)
  | press (press : KeyPress)
deriving DecidableEq, Repr

/-- The session after an action or a key press. -/
def after (session : Session) : Event → Session
  | .act action => (session.dispatch action).1
  | .press press => (session.pressKey press).1

/-- The session after one event after the other. -/
def run (session : Session) (events : List Event) : Session := events.foldl after session

theorem run_append (session : Session) (earlier later : List Event) :
    session.run (earlier ++ later) = (session.run earlier).run later :=
  List.foldl_append ..

/-- A key press is an action or is ignored. -/
theorem pressKey_eq (session : Session) (press : KeyPress) :
    session.pressKey press = session.refuse ∨
      ∃ action, session.pressKey press = session.dispatch action := by
  unfold pressKey
  simp only
  split
  · exact .inr ⟨_, rfl⟩
  · exact .inl rfl

theorem effect_after (session : Session) (event : Event) :
    session.Effect (session.after event) := by
  cases event with
  | act action => exact session.effect_dispatch action
  | press press =>
      simp only [after]
      rcases session.pressKey_eq press with ignored | ⟨action, acts⟩
      · rw [ignored]
        exact .unchanged
      · rw [acts]
        exact session.effect_dispatch action

/-- The sessions that actions and key presses lead to from a session on a reachable workbook,
whichever settings it has and whichever functions it suggests. -/
inductive Reachable : Session → Prop where
  | start {workbook : Workbook} (settings : Settings) (registry : List FunctionDefinition)
      (reachable : workbook.Reachable) :
      Reachable ((Session.new workbook settings).withRegistry registry)
  | after {session : Session} (event : Event) (reachable : Reachable session) :
      Reachable (session.after event)

theorem Reachable.run (reachable : session.Reachable) (events : List Event) :
    (session.run events).Reachable := by
  induction events generalizing session with
  | nil => exact reachable
  | cons event rest inductionHypothesis => exact inductionHypothesis (.after event reachable)

end Session

end SheetEditor
