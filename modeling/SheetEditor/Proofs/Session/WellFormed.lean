import SheetEditor.Proofs.Session.Effect
import SheetEditor.Proofs.Session.Timeline

/-!
Contract: the invariant of sessions.

Owns: the conditions that tie the fields of a session together, their
preservation by every effect, and their validity in every reachable session.

Sheets are referred to by index from two independent places, the sheet on screen
and the sheet of the edit. Both stay valid because an edit blocks undo and redo,
and because a deletion moves both indices or ends the edit.
-/

namespace SheetEditor.Session

variable {session next : Session}

/-! ## The invariant -/

/-- The edit in progress belongs to a sheet that exists and to the selected cell, and its caret and
selection lie within its text. -/
structure ValidEdit (session : Session) (edit : Edit) : Prop where
  sheetIndex_lt : edit.sheetIndex < session.workbook.sheetCount
  address_eq : edit.address = session.selected
  carets : edit.CaretsInText

/-- The invariant of sessions. -/
structure WellFormed (session : Session) : Prop where
  /-- No snapshot of the history is without a sheet. -/
  snapshots_nonempty : ∀ workbook ∈ session.history.timeline, 0 < workbook.sheetCount
  activeSheet_lt : session.activeSheet < session.workbook.sheetCount
  selected_inBounds : session.selected.InBounds
  edit_valid : ∀ edit, session.edit = some edit → session.ValidEdit edit
  /-- Suggestions are dismissed only during an edit. -/
  dismissed_editing : session.suggestionsDismissed = true → session.isEditing = true
  stepCount_le : session.history.stepCount ≤ session.history.limit

theorem wellFormed_new {workbook : Workbook} (nonempty : 0 < workbook.sheetCount)
    (settings : Settings) (registry : List FunctionDefinition) :
    ((Session.new workbook settings).withRegistry registry).WellFormed where
  snapshots_nonempty := by
    intro snapshot member
    have only : snapshot = workbook := by
      simpa [Session.new, withRegistry, History.withLimit, History.timeline] using member
    rw [only]
    exact nonempty
  activeSheet_lt := nonempty
  selected_inBounds := by
    show (⟨0, 0⟩ : CellAddress).InBounds
    decide
  edit_valid := by
    intro edit editing
    contradiction
  dismissed_editing := by
    intro dismissed
    contradiction
  stepCount_le := Nat.zero_le _

/-! ## Preservation -/

/-- The index of a sheet that remains, or of the one that takes the place of a deleted sheet, is
valid among the remaining sheets. -/
theorem indexAfterDeletion_lt {deleted remaining index : Nat} (positive : 0 < remaining)
    (inside : index < remaining + 1) (deletedInside : deleted < remaining + 1) :
    indexAfterDeletion deleted remaining index < remaining := by
  unfold indexAfterDeletion
  split
  · omega
  · split <;> omega

namespace WellFormed

/-- A workbook with a sheet can be pushed whenever the fields that refer to sheets fit it. -/
private theorem snapshots_push (wellFormed : session.WellFormed) {workbook : Workbook}
    (nonempty : 0 < workbook.sheetCount) :
    ∀ snapshot ∈ (session.history.push workbook).timeline, 0 < snapshot.sheetCount := by
  intro snapshot member
  rcases History.mem_timeline_of_mem_push member with pushed | kept
  · rw [pushed]
    exact nonempty
  · exact wellFormed.snapshots_nonempty snapshot kept

/-- A workbook with no fewer sheets may become the present one, even during an edit. -/
private theorem pushWorkbook (wellFormed : session.WellFormed) {workbook : Workbook}
    (grows : session.workbook.sheetCount ≤ workbook.sheetCount) :
    (session.pushWorkbook workbook).WellFormed where
  snapshots_nonempty :=
    wellFormed.snapshots_push (Nat.lt_of_lt_of_le
      (wellFormed.snapshots_nonempty _ session.history.present_mem_timeline) grows)
  activeSheet_lt := Nat.lt_of_lt_of_le wellFormed.activeSheet_lt grows
  selected_inBounds := wellFormed.selected_inBounds
  edit_valid := by
    intro edit editing
    have valid := wellFormed.edit_valid edit editing
    exact ⟨Nat.lt_of_lt_of_le valid.sheetIndex_lt grows, valid.address_eq, valid.carets⟩
  dismissed_editing := wellFormed.dismissed_editing
  stepCount_le := session.history.stepCount_push_le workbook

private theorem began (wellFormed : session.WellFormed) {address : CellAddress}
    (mode : EntryMode) (text : Text) (inBounds : address.InBounds) :
    WellFormed { session with
      edit := some (.ofCell address mode text session.activeSheet)
      selected := address
      suggestionsDismissed := false } where
  snapshots_nonempty := wellFormed.snapshots_nonempty
  activeSheet_lt := wellFormed.activeSheet_lt
  selected_inBounds := inBounds
  edit_valid := by
    intro edit editing
    obtain rfl := Option.some.inj editing
    exact ⟨wellFormed.activeSheet_lt, rfl, Edit.caretsInText_ofCell ..⟩
  dismissed_editing := fun _ => rfl
  stepCount_le := wellFormed.stepCount_le

private theorem revised (wellFormed : session.WellFormed) {edit revision : Edit}
    (dismissed : Bool) (editing : session.edit = some edit) (revises : edit.Revises revision) :
    WellFormed { session with
      edit := some revision
      suggestionsDismissed := dismissed } where
  snapshots_nonempty := wellFormed.snapshots_nonempty
  activeSheet_lt := wellFormed.activeSheet_lt
  selected_inBounds := wellFormed.selected_inBounds
  edit_valid := by
    intro later revisedTo
    obtain rfl := Option.some.inj revisedTo
    have valid := wellFormed.edit_valid edit editing
    refine ⟨?_, revises.address.trans valid.address_eq, revises.carets valid.carets⟩
    rw [revises.sheetIndex]
    exact valid.sheetIndex_lt
  dismissed_editing := fun _ => rfl
  stepCount_le := wellFormed.stepCount_le

/-- Without an edit, only the history, the sheet on screen and the selection matter. -/
private theorem idle {history : History Workbook} {activeSheet : Nat} {selected : CellAddress}
    (nonempty : ∀ workbook ∈ history.timeline, 0 < workbook.sheetCount)
    (activeSheet_lt : activeSheet < history.present.sheetCount) (inBounds : selected.InBounds)
    (bounded : history.stepCount ≤ history.limit) :
    WellFormed { session.withoutEdit with
      history := history
      activeSheet := activeSheet
      selected := selected } where
  snapshots_nonempty := nonempty
  activeSheet_lt := activeSheet_lt
  selected_inBounds := inBounds
  edit_valid := by
    intro edit editing
    contradiction
  dismissed_editing := by
    intro dismissed
    contradiction
  stepCount_le := bounded

/-- An idle session is the same as itself without an edit. -/
private theorem withoutEdit_eq (wellFormed : session.WellFormed) (idle : session.edit = none) :
    session.withoutEdit = session := by
  have shown : session.suggestionsDismissed = false := by
    rw [Bool.eq_false_iff]
    intro dismissed
    have editing := wellFormed.dismissed_editing dismissed
    simp [isEditing, idle] at editing
  simp only [withoutEdit, ← idle, ← shown]

private theorem deletedKeeping (wellFormed : session.WellFormed) {deleted : Nat}
    {remaining : Workbook} (deletion : session.workbook.deleteSheet? deleted = some remaining) :
    WellFormed { session with
      history := session.history.push remaining
      edit := session.edit.map fun edit =>
        { edit with
          sheetIndex := indexAfterDeletion deleted remaining.sheetCount edit.sheetIndex }
      activeSheet := indexAfterDeletion deleted remaining.sheetCount session.activeSheet } := by
  obtain ⟨oneFewer, positive, deletedInside⟩ := Workbook.sheetCount_of_deleteSheet? deletion
  have staysInside : ∀ index, index < session.workbook.sheetCount →
      indexAfterDeletion deleted remaining.sheetCount index < remaining.sheetCount := by
    intro index inside
    exact indexAfterDeletion_lt positive (by omega) (by omega)
  refine ⟨wellFormed.snapshots_push positive, staysInside _ wellFormed.activeSheet_lt,
    wellFormed.selected_inBounds, ?_, ?_, session.history.stepCount_push_le remaining⟩
  · intro moved movedFrom
    obtain ⟨edit, editing, rfl⟩ := Option.map_eq_some_iff.mp movedFrom
    have valid := wellFormed.edit_valid edit editing
    exact ⟨staysInside _ valid.sheetIndex_lt, valid.address_eq,
      ⟨valid.carets.caret, valid.carets.selectionEnd⟩⟩
  · intro dismissed
    simpa [isEditing] using wellFormed.dismissed_editing dismissed

private theorem travelled (wellFormed : session.WellFormed) {history : History Workbook}
    (idle : session.edit = none)
    (step : session.history.undo? = some history ∨ session.history.redo? = some history ∨
      history = session.history) : (session.withHistory history).WellFormed := by
  have kept : history.timeline = session.history.timeline ∧
      history.stepCount = session.history.stepCount ∧ history.limit = session.history.limit := by
    rcases step with undone | redone | rfl
    · exact ⟨History.timeline_of_undo? undone, History.stepCount_of_undo? undone⟩
    · exact ⟨History.timeline_of_redo? redone, History.stepCount_of_redo? redone⟩
    · exact ⟨rfl, rfl, rfl⟩
  obtain ⟨sameTimeline, sameCount, sameLimit⟩ := kept
  have nonempty : ∀ workbook ∈ history.timeline, 0 < workbook.sheetCount := by
    rw [sameTimeline]
    exact wellFormed.snapshots_nonempty
  have positive := nonempty _ history.present_mem_timeline
  have bounded : history.stepCount ≤ history.limit := by
    rw [sameCount, sameLimit]
    exact wellFormed.stepCount_le
  rw [← wellFormed.withoutEdit_eq idle]
  exact WellFormed.idle nonempty (by omega) wellFormed.selected_inBounds bounded

/-- Every effect preserves the invariant. -/
theorem effect (wellFormed : session.WellFormed) (effect : session.Effect next) :
    next.WellFormed := by
  have active := wellFormed.activeSheet_lt
  have inBounds := wellFormed.selected_inBounds
  cases effect with
  | unchanged => exact wellFormed
  | began mode text _ _ inBounds => exact wellFormed.began mode text inBounds
  | revised dismissed editing revises => exact wellFormed.revised dismissed editing revises
  | ended keepsBounds =>
      exact .idle wellFormed.snapshots_nonempty active (keepsBounds inBounds)
        wellFormed.stepCount_le
  | @committed edit sheet selected value editing target keepsBounds =>
      have valid := wellFormed.edit_valid edit editing
      have written : 0 < (session.workbook.withSheet edit.sheetIndex
          (sheet.write edit.address value)).sheetCount := by
        rw [Workbook.sheetCount_withSheet]
        omega
      refine .idle (wellFormed.snapshots_push written) ?_ (keepsBounds ?_)
        (session.history.stepCount_push_le _)
      · rw [History.push_present, Workbook.sheetCount_withSheet]
        exact valid.sheetIndex_lt
      · rw [valid.address_eq]
        exact inBounds
  | moved rows columns idle =>
      rw [← wellFormed.withoutEdit_eq idle]
      exact .idle wellFormed.snapshots_nonempty active
        (inBounds_withSelectionMoved session rows columns) wellFormed.stepCount_le
  | switched inside =>
      exact ⟨wellFormed.snapshots_nonempty, inside, inBounds,
        fun edit editing =>
          have valid := wellFormed.edit_valid edit editing
          ⟨valid.sheetIndex_lt, valid.address_eq, valid.carets⟩,
        wellFormed.dismissed_editing, wellFormed.stepCount_le⟩
  | appended name => exact wellFormed.pushWorkbook (by simp)
  | renamed accepted =>
      exact wellFormed.pushWorkbook (Nat.le_of_eq (Workbook.sheetCount_of_renameSheet? accepted).symm)
  | @deletedEnding deleted remaining deletion =>
      obtain ⟨oneFewer, positive, deletedInside⟩ := Workbook.sheetCount_of_deleteSheet? deletion
      exact .idle (wellFormed.snapshots_push positive)
        (indexAfterDeletion_lt positive (by omega) (by omega)) inBounds
        (session.history.stepCount_push_le remaining)
  | deletedKeeping deletion _ => exact wellFormed.deletedKeeping deletion
  | travelled idle step => exact wellFormed.travelled idle step

end WellFormed

/-! ## Reachable sessions -/

/-- The invariant holds in every reachable session. -/
theorem Reachable.wellFormed (reachable : session.Reachable) : session.WellFormed := by
  induction reachable with
  | start settings registry reachable =>
      exact wellFormed_new reachable.sheetCount_pos settings registry
  | after event _ inductionHypothesis => exact inductionHypothesis.effect (effect_after _ event)

/-- In every reachable session the invariant holds. In particular the sheet of the edit in progress
exists, so that a commit always writes to it and makes the written workbook the present one. -/
theorem wellFormed_and_commit_writes (reachable : session.Reachable) :
    session.WellFormed ∧
      ∀ edit, session.edit = some edit →
        ∃ sheet, session.workbook.sheet? edit.sheetIndex = some sheet ∧
          session.commit.1.history = session.history.push
            (session.workbook.withSheet edit.sheetIndex
              (sheet.write edit.address (CellValue.ofInput (session.committedText edit)))) := by
  refine ⟨reachable.wellFormed, ?_⟩
  intro edit editing
  obtain ⟨sheet, found⟩ :=
    Workbook.exists_sheet?_of_lt (reachable.wellFormed.edit_valid edit editing).sheetIndex_lt
  refine ⟨sheet, found, ?_⟩
  simp only [commit, editing, found]
  rfl

/-- The sheet below the edited one is deleted: the edit goes on, one index lower. -/
theorem wellFormed_after_deletion_below :
    let session := ((Session.new Workbook.new.addSheet .default).withRegistry []).run
      [.act (.setActiveSheet 1), .act (.enterEdit ⟨2, 3⟩ .enter none),
        .act (.updateText "kept".toList 9 2), .press ⟨.f4, false, false⟩, .act (.deleteSheet 0)]
    session.edit.map (fun edit => (edit.sheetIndex, edit.caret)) = some (0, 4) ∧
      session.WellFormed ∧
        ∀ edit, session.edit = some edit →
          ∃ sheet, session.workbook.sheet? edit.sheetIndex = some sheet ∧
            session.commit.1.history = session.history.push
              (session.workbook.withSheet edit.sheetIndex
                (sheet.write edit.address (CellValue.ofInput (session.committedText edit)))) :=
  ⟨rfl, wellFormed_and_commit_writes (.run (.start _ _ (.addSheet .new)) _)⟩

end SheetEditor.Session
