import SheetEditor.Proofs.Session.Effect
import SheetEditor.Proofs.Workbook.Cells

/-!
Contract: the sheet and the cell that a commit writes to.

Owns: the identities of the edited sheet and of the sheet on screen, their
stability while an edit lasts, and the state after a commit.

An edit refers to its sheet by index, and each deletion moves the index. What
stays the same from the beginning of an edit to its commit is the identity found
there.
-/

namespace SheetEditor

/-! ## Identities after a deletion -/

/-- The index of a sheet that remains after a deletion leads to the same sheet. -/
theorem Workbook.sheetId?_indexAfterDeletion {workbook remaining : Workbook} {deleted index : Nat}
    (deletion : workbook.deleteSheet? deleted = some remaining) (other : index ≠ deleted) :
    remaining.sheetId? (Session.indexAfterDeletion deleted remaining.sheetCount index) =
      workbook.sheetId? index := by
  unfold Session.indexAfterDeletion sheetId?
  split
  · rename_i behind
    rw [sheet?_of_deleteSheet?_of_gt deletion behind]
  · rw [sheet?_of_deleteSheet?_of_lt deletion (by omega)]

namespace Session

variable {session next : Session} {address : CellAddress} {id : SheetId}

/-- The identity of the sheet on screen. -/
def activeId? (session : Session) : Option SheetId := session.workbook.sheetId? session.activeSheet

/-- The identity of the sheet that the edit in progress belongs to. -/
def editedId? (session : Session) : Option SheetId :=
  session.edit.bind fun edit => session.workbook.sheetId? edit.sheetIndex

/-! ## The target of an edit -/

/-- The edit in progress is of a cell on the sheet with an identity. -/
def EditsCell (session : Session) (address : CellAddress) (id : SheetId) : Prop :=
  ∃ edit, session.edit = some edit ∧ edit.address = address ∧
    session.workbook.sheetId? edit.sheetIndex = some id

/-- The edit in progress is still in progress after each of the events. -/
def EditLasts (session : Session) (events : List Event) : Prop :=
  ∀ earlier, earlier <+: events → (session.run earlier).isEditing = true

theorem EditLasts.isEditing {events : List Event} (lasts : session.EditLasts events) :
    session.isEditing = true :=
  lasts [] List.nil_prefix

@[simp] theorem editLasts_nil : session.EditLasts [] ↔ session.isEditing = true := by
  constructor
  · exact EditLasts.isEditing
  · intro editing earlier initial
    rw [List.prefix_nil.mp initial]
    exact editing

@[simp] theorem editLasts_cons {event : Event} {rest : List Event} :
    session.EditLasts (event :: rest) ↔
      session.isEditing = true ∧ (session.after event).EditLasts rest := by
  constructor
  · intro lasts
    refine ⟨lasts.isEditing, ?_⟩
    intro earlier initial
    exact lasts (event :: earlier) (List.cons_prefix_cons.mpr ⟨rfl, initial⟩)
  · rintro ⟨editing, later⟩ earlier initial
    cases earlier with
    | nil => exact editing
    | cons first others =>
        obtain ⟨rfl, initialRest⟩ := List.cons_prefix_cons.mp initial
        exact later others initialRest

/-- Whatever happens, an edit that goes on keeps its cell and its sheet. -/
theorem EditsCell.effect (edits : session.EditsCell address id) (effect : session.Effect next)
    (goesOn : next.isEditing = true) : next.EditsCell address id := by
  obtain ⟨edit, editing, atAddress, onSheet⟩ := edits
  have onSheetBound : edit.sheetIndex < session.workbook.sheetCount := by
    obtain ⟨sheet, found, _⟩ := Option.map_eq_some_iff.mp onSheet
    exact Workbook.lt_sheetCount_of_sheet? found
  cases effect with
  | unchanged => exact ⟨edit, editing, atAddress, onSheet⟩
  | began mode text idle => simp [editing] at idle
  | @revised current revision dismissed current_eq revises =>
      obtain rfl := Option.some.inj (editing.symm.trans current_eq)
      refine ⟨revision, rfl, revises.address.trans atAddress, ?_⟩
      rw [revises.sheetIndex]
      exact onSheet
  | ended => contradiction
  | committed => contradiction
  | moved rows columns idle => simp [editing] at idle
  | switched => exact ⟨edit, editing, atAddress, onSheet⟩
  | appended name =>
      refine ⟨edit, editing, atAddress, ?_⟩
      show ((session.workbook.append name).sheet? edit.sheetIndex).map (·.id) = some id
      rw [Workbook.sheet?_append name onSheetBound]
      exact onSheet
  | renamed accepted =>
      refine ⟨edit, editing, atAddress, ?_⟩
      exact (Workbook.sheetId?_of_renameSheet? accepted _).trans onSheet
  | deletedEnding => contradiction
  | @deletedKeeping deleted remaining deletion elsewhere =>
      refine ⟨_, Option.map_eq_some_iff.mpr ⟨edit, editing, rfl⟩, atAddress, ?_⟩
      exact (Workbook.sheetId?_indexAfterDeletion deletion (elsewhere edit editing).1).trans onSheet
  | travelled idle => simp [editing] at idle

/-- An edit that lasts through a run is of the same cell on the same sheet at its end. -/
theorem EditsCell.run {events : List Event} (edits : session.EditsCell address id)
    (lasts : session.EditLasts events) : (session.run events).EditsCell address id := by
  induction events generalizing session with
  | nil => exact edits
  | cons event rest inductionHypothesis =>
      have later := (editLasts_cons.mp lasts).2
      exact inductionHypothesis (edits.effect (effect_after session event) later.isEditing) later

/-- An accepted edit is of the cell it was asked for, on the sheet on screen. -/
theorem editsCell_of_enterEdit {mode : EntryMode} {typed : Option Char}
    (accepted : (session.enterEdit address mode typed).2 = true)
    (active : session.activeId? = some id) :
    (session.enterEdit address mode typed).1.EditsCell address id := by
  unfold enterEdit at accepted ⊢
  split at accepted
  · split at accepted
    · rename_i inBounds
      rw [if_pos inBounds]
      exact ⟨_, rfl, rfl, active⟩
    · contradiction
  · contradiction

/-! ## Commits and deletions -/

/-- A commit writes the value of the text to the cell of the edit, records one snapshot, and shows
that cell. -/
theorem commit_eq {edit : Edit} {sheet : Sheet} (editing : session.edit = some edit)
    (found : session.workbook.sheet? edit.sheetIndex = some sheet) :
    session.commit =
      ({ session.withoutEdit with
          history := session.history.push (session.workbook.withSheet edit.sheetIndex
            (sheet.write edit.address (CellValue.ofInput (session.committedText edit))))
          activeSheet := edit.sheetIndex
          selected := edit.address }, true) := by
  simp only [commit, editing, found]
  rfl

/-- Deleting a sheet that is neither edited nor on screen changes neither identity. -/
theorem deleteSheet_keeps_ids {index : Nat} (offScreen : index ≠ session.activeSheet)
    (notEdited : ∀ edit, session.edit = some edit → index ≠ edit.sheetIndex) :
    (session.deleteSheet index).1.activeId? = session.activeId? ∧
      (session.deleteSheet index).1.editedId? = session.editedId? := by
  unfold deleteSheet
  split
  · exact ⟨rfl, rfl⟩
  · rename_i remaining deletion
    have goesOn : (session.edit.any fun edit =>
        edit.sheetIndex = index || session.activeSheet = index) = false := by
      cases editing : session.edit with
      | none => rfl
      | some edit => simp [(notEdited edit editing).symm, offScreen.symm]
    simp only [goesOn, Bool.false_eq_true, if_false]
    refine ⟨Workbook.sheetId?_indexAfterDeletion deletion offScreen.symm, ?_⟩
    cases editing : session.edit with
    | none => simp [accept, editedId?, editing]
    | some edit =>
        simp only [accept, editedId?, editing, Option.map_some, Option.bind_some]
        exact Workbook.sheetId?_indexAfterDeletion deletion (notEdited edit editing).symm

/-- A commit writes to the sheet on which the edit began.

After an edit was accepted and lasted through any events, the index of its sheet still leads to the
sheet that was on screen, and a commit gives one cell of that sheet the value of the text, with its
parentheses closed if the setting says so. It changes nothing else, records one snapshot, and shows
the cell. A deletion of any sheet but the edited one and the one on screen keeps
the identities of both. -/
theorem commit_writes_where_edit_began (session : Session) :
    (∀ (address : CellAddress) (mode : EntryMode) (typed : Option Char) (id : SheetId)
        (events : List Event),
      (session.dispatch (.enterEdit address mode typed)).2 = true →
      session.activeId? = some id →
      (session.dispatch (.enterEdit address mode typed)).1.EditLasts events →
      let later := (session.dispatch (.enterEdit address mode typed)).1.run events
      ∃ edit written, later.edit = some edit ∧
        later.workbook.sheetId? edit.sheetIndex = some id ∧
        later.workbook.WritesCell written edit.sheetIndex address
          (CellValue.ofInput
            (if later.settings.autoCloseParentheses then Draft.closeParentheses edit.text
              else edit.text)) ∧
        later.dispatch .commit =
          ({ later with
              edit := none
              suggestionsDismissed := false
              history := later.history.push written
              activeSheet := edit.sheetIndex
              selected := address }, true)) ∧
      ∀ index, index ≠ session.activeSheet →
        (∀ edit, session.edit = some edit → index ≠ edit.sheetIndex) →
        (session.dispatch (.deleteSheet index)).1.activeId? = session.activeId? ∧
          (session.dispatch (.deleteSheet index)).1.editedId? = session.editedId? := by
  refine ⟨?_, fun index offScreen notEdited => deleteSheet_keeps_ids offScreen notEdited⟩
  intro address mode typed id events accepted active lasts later
  obtain ⟨edit, editing, atAddress, onSheet⟩ := (editsCell_of_enterEdit accepted active).run lasts
  obtain ⟨sheet, found, _⟩ := Option.map_eq_some_iff.mp onSheet
  rw [← atAddress]
  exact ⟨edit, _, editing, onSheet, Workbook.writesCell_withSheet found edit.address _,
    commit_eq editing found⟩

/-- During an edit on the third sheet another sheet is put on screen, the first one is deleted and
undo is refused; the commit still writes to the sheet with the third identity, and it closes the
formula. -/
theorem commit_after_switch_and_deletion :
    let session := (Session.new Workbook.new.addSheet.addSheet .default).run
      [.act (.setActiveSheet 2)]
    let begun := session.dispatch (.enterEdit ⟨4, 1⟩ .replace (some '7'))
    let events : List Event := [.act (.setActiveSheet 1), .act (.updateText "=(1".toList 3 3),
      .act (.deleteSheet 0), .act .undo, .press ⟨.f2, false, false⟩]
    let later := begun.1.run events
    begun.2 = true ∧ session.activeId? = some ⟨3⟩ ∧ begun.1.EditLasts events ∧
      later.settings.autoCloseParentheses = true ∧
      ∃ edit written sheet, later.edit = some edit ∧ edit.text = "=(1".toList ∧
        later.workbook.WritesCell written edit.sheetIndex ⟨4, 1⟩ (.formula "(1)".toList) ∧
        written.sheet? edit.sheetIndex = some sheet ∧ sheet.id = ⟨3⟩ ∧
        sheet.get? ⟨4, 1⟩ = some (.formula "(1)".toList) ∧
        later.dispatch .commit =
          ({ later with
              edit := none
              suggestionsDismissed := false
              history := later.history.push written
              activeSheet := edit.sheetIndex
              selected := ⟨4, 1⟩ }, true) := by
  intro session begun events later
  have accepted : begun.2 = true := rfl
  have active : session.activeId? = some ⟨3⟩ := rfl
  have lasts : begun.1.EditLasts events := by
    simp only [events, editLasts_cons, editLasts_nil]
    exact ⟨rfl, rfl, rfl, rfl, rfl, rfl⟩
  have closes : later.settings.autoCloseParentheses = true := rfl
  have typed : later.edit.map (·.text) = some "=(1".toList := rfl
  obtain ⟨edit, written, editing, onSheet, writes, committed⟩ :=
    (commit_writes_where_edit_began session).1 ⟨4, 1⟩ .replace (some '7') ⟨3⟩ events accepted
      active lasts
  have textEq : edit.text = "=(1".toList := by
    rw [editing] at typed
    exact Option.some.inj typed
  have value : CellValue.ofInput (Draft.closeParentheses "=(1".toList) =
      .formula "(1)".toList := by decide +kernel
  rw [if_pos closes, textEq, value] at writes
  obtain ⟨before, after, found, foundAfter, sameId, -, stored, -⟩ := writes.sheet
  have isThird : before.id = ⟨3⟩ := by
    rw [Workbook.sheetId?, found] at onSheet
    exact Option.some.inj onSheet
  exact ⟨accepted, active, lasts, closes, edit, written, after, editing, textEq, writes, foundAfter,
    sameId.trans isThird, stored, committed⟩

end Session

end SheetEditor
