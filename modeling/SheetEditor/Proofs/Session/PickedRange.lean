import SheetEditor.Proofs.Draft.Picking
import SheetEditor.Proofs.Session.WellFormed
import SheetEditor.Proofs.Workbook.Consistency

/-!
Contract: a range picked on the grid refers back to the sheet on screen.

Owns: the names in every snapshot of a session, the sheet that a reference of an
edit denotes, and the highlight of a picked range.

The sheet on screen and the sheet of the edit are two indices; a picked range is
qualified if their names differ. This finds the sheet on screen again because
names are unique in every snapshot.
-/

namespace SheetEditor.Session

open Draft (Target)

variable {session next : Session}

/-! ## Names in a session -/

/-- Names and identities are unique in every snapshot of the history. -/
def SnapshotsConsistent (session : Session) : Prop :=
  ∀ workbook ∈ session.history.timeline, workbook.Consistent

theorem SnapshotsConsistent.workbook (consistent : session.SnapshotsConsistent) :
    session.workbook.Consistent :=
  consistent _ session.history.present_mem_timeline

theorem SnapshotsConsistent.push (consistent : session.SnapshotsConsistent) {workbook : Workbook}
    (pushed : workbook.Consistent) :
    ∀ snapshot ∈ (session.history.push workbook).timeline, snapshot.Consistent := by
  intro snapshot member
  rcases History.mem_timeline_of_mem_push member with rfl | kept
  · exact pushed
  · exact consistent snapshot kept

/-- Every effect keeps names and identities unique. -/
theorem SnapshotsConsistent.effect (consistent : session.SnapshotsConsistent)
    (effect : session.Effect next) : next.SnapshotsConsistent := by
  have present := consistent.workbook
  cases effect with
  | unchanged | began | revised | ended | moved | switched => exact consistent
  | @committed edit sheet selected value editing target keepsBounds =>
      exact consistent.push (present.withCells target (sheet.sameLabel_write edit.address value))
  | appended name added =>
      refine consistent.push ?_
      rcases added with next | named
      · rw [← next]
        exact present.addSheet
      · exact present.addSheetNamed named
  | renamed accepted => exact consistent.push (present.renameSheet accepted)
  | deletedEnding deletion | deletedKeeping deletion =>
      exact consistent.push (present.deleteSheet deletion)
  | travelled idle step =>
      intro workbook member
      exact consistent workbook (History.timeline_of_step step ▸ member)

theorem SnapshotsConsistent.run (consistent : session.SnapshotsConsistent) (events : List Event) :
    (session.run events).SnapshotsConsistent := by
  induction events generalizing session with
  | nil => exact consistent
  | cons event later inductionHypothesis =>
      exact inductionHypothesis (consistent.effect (effect_after session event))

theorem snapshotsConsistent_new {workbook : Workbook} (consistent : workbook.Consistent)
    (settings : Settings) (registry : List FunctionDefinition) :
    ((Session.new workbook settings).withRegistry registry).SnapshotsConsistent := by
  intro snapshot member
  have only : snapshot = workbook := by
    simpa [Session.new, withRegistry, History.withLimit, History.timeline] using member
  rw [only]
  exact consistent

/-! ## The sheet of a reference -/

/-- The index of the sheet that a reference of an edit is to: the sheet it names, or else that of
the edit. -/
def denotedSheet? (session : Session) (edit : Edit) (target : Target) : Option Nat :=
  match target.sheet with
  | some name => session.workbook.indexOfName? name
  | none => some edit.sheetIndex

theorem isOnScreen_iff (session : Session) (edit : Edit) (reference : Draft.Reference) :
    session.isOnScreen edit reference = true ↔
      session.denotedSheet? edit reference.target = some session.activeSheet := by
  unfold isOnScreen denotedSheet?
  cases reference.target.sheet with
  | none | some name => simp

/-- A picked range is written so that it resolves to the range on the sheet on screen, and a draft
reads it as one reference. -/
theorem referenceText?_resolves (wellFormed : session.WellFormed)
    (consistent : session.SnapshotsConsistent) {edit : Edit} {range : CellRange}
    (editing : session.edit = some edit) (inBounds : range.InBounds) :
    ∃ text target, session.referenceText? range = some text ∧
      Target.ofText? text = some target ∧ target.range = range ∧
      session.denotedSheet? edit target = some session.activeSheet ∧
      Draft.Token.scanAll text = [⟨.reference, text, 0⟩] := by
  have names := consistent.workbook
  obtain ⟨current, foundCurrent⟩ :=
    Workbook.exists_sheet?_of_lt (wellFormed.edit_valid edit editing).sheetIndex_lt
  obtain ⟨shown, foundShown⟩ := Workbook.exists_sheet?_of_lt wellFormed.activeSheet_lt
  have written : session.referenceText? range =
      some (Draft.referenceText range current.name (some shown.name)) := by
    simp [referenceText?, editing, foundCurrent, sheetOnScreen?, foundShown]
  have nonempty : ∀ sheet ∈ some shown.name, sheet ≠ [] := by
    rintro _ ⟨⟩
    exact (names.wellNamed shown (List.mem_of_getElem? foundShown)).nonempty
  have token := Draft.scanFrom_referenceText current.name 0 inBounds nonempty
    Text.stops_nil rfl
  rw [List.append_nil, Draft.Token.scanFrom_nil] at token
  refine ⟨_, _, written, Draft.ofText?_referenceText inBounds nonempty, rfl, ?_, token⟩
  have active := names.indexOfName? foundShown
  rw [denotedSheet?, Draft.pickedSheet?_some]
  by_cases same : shown.name = current.name
  · -- Names are unique, so the sheet on screen is the sheet of the edit.
    have edited := names.indexOfName? foundCurrent
    rw [← same, active] at edited
    rw [if_pos same]
    exact edited.symm
  · rw [if_neg same]
    exact active

/-! ## The highlight of a picked range -/

/-- A range picked into a formula that has nothing yet is highlighted in the first colour, and
nothing else is. -/
theorem referenceColour?_insertReference {edit : Edit} {text : Text} {target : Target}
    (editing : session.edit = some edit) (blank : edit.text = ['=']) (caret : edit.caret = 1)
    (tokens : Draft.Token.scanAll text = [⟨.reference, text, 0⟩])
    (resolves : Target.ofText? text = some target)
    (onScreen : session.denotedSheet? edit target = some session.activeSheet)
    (cell : CellAddress) :
    (session.dispatch (.insertReference text)).1.referenceColour? cell =
      if target.range.contains cell then some (Palette.colour 0) else none := by
  have references : (edit.insertAtCaret text).analysis.references =
      [⟨target, 1, 1 + text.length, 0⟩] := by
    have written : (edit.insertAtCaret text).text = '=' :: text := by
      simp [Edit.insertAtCaret, Edit.apply, blank, caret]
    rw [Edit.analysis, written, Draft.Analysis.ofText, Draft.Analysis.ofTextWith,
      Draft.Analysis.tokensOfBody, tokens]
    simp [Draft.Reference.ofTokens, Draft.Reference.ofTokensFrom, Draft.Token.shift, resolves,
      Draft.Token.stop]
  -- An insertion keeps the sheets that the session and the edit refer to.
  have shown : Session.isOnScreen { session with edit := some (edit.insertAtCaret text) }
      (edit.insertAtCaret text) ⟨target, 1, 1 + text.length, 0⟩ = true :=
    (isOnScreen_iff session edit _).mpr onScreen
  simp only [dispatch, changeEdit, editing, accept, referenceColour?, Option.bind_eq_bind,
    Option.bind_some]
  rw [references, List.find?_singleton, shown, Bool.true_and]
  cases target.range.contains cell <;> rfl

/-- In every session on a workbook made by the operations, whatever has happened in it, a range
picked during an edit is written as a reference that resolves to the range on the sheet on screen.
Picked into a formula without a body, it gives exactly its own cells the first colour. -/
theorem picked_range_denotes_sheet_on_screen (operations : List Workbook.Operation)
    (settings : Settings) (registry : List FunctionDefinition) (events : List Event) (edit : Edit)
    (range : CellRange) :
    let session :=
      ((Session.new (Workbook.new.run operations) settings).withRegistry registry).run events
    session.edit = some edit → range.InBounds →
      ∃ text target, session.referenceText? range = some text ∧
        Target.ofText? text = some target ∧ target.range = range ∧
        session.denotedSheet? edit target = some session.activeSheet ∧
        (edit.text = ['='] → edit.caret = 1 → ∀ cell,
          (session.dispatch (.insertReference text)).1.referenceColour? cell =
            if range.contains cell then some (Palette.colour 0) else none) := by
  intro session editing inBounds
  have wellFormed : session.WellFormed :=
    (Reachable.run (.start settings registry (Workbook.Reachable.new.run operations))
      events).wellFormed
  have consistent : session.SnapshotsConsistent :=
    (snapshotsConsistent_new (Workbook.consistent_new.run operations) settings registry).run events
  obtain ⟨text, target, written, resolves, sameRange, onScreen, token⟩ :=
    referenceText?_resolves wellFormed consistent editing inBounds
  refine ⟨text, target, written, resolves, sameRange, onScreen, ?_⟩
  intro blank caret cell
  rw [← sameRange]
  exact referenceColour?_insertReference editing blank caret token resolves onScreen cell

/-- The name of the sheet on screen has a quote in it, and the range is picked from its bottom right
corner. -/
theorem picked_range_on_quoted_sheet :
    let operations : List Workbook.Operation :=
      [.addSheetNamed "It's 2".toList, .renameSheet 0 "2024".toList, .addSheet]
    let events : List Event :=
      [.act (.setActiveSheet 2), .act (.enterEdit ⟨0, 0⟩ .replace (some '=')),
        .act (.deleteSheet 0), .act (.setActiveSheet 0)]
    let edit := Edit.ofCell ⟨0, 0⟩ .replace ['='] 1
    let range : CellRange := ⟨⟨3, 2⟩, ⟨0, 0⟩⟩
    let session :=
      ((Session.new (Workbook.new.run operations) .default).withRegistry []).run events
    session.referenceText? range = some "'It''s 2'!C4:A1".toList ∧
      session.edit = some edit ∧ range.InBounds ∧
      ∃ text target, session.referenceText? range = some text ∧
        Target.ofText? text = some target ∧ target.range = range ∧
        session.denotedSheet? edit target = some session.activeSheet ∧
        ∀ cell, (session.dispatch (.insertReference text)).1.referenceColour? cell =
          if range.contains cell then some (Palette.colour 0) else none := by
  intro operations events edit range session
  have editing : session.edit = some edit := by decide +kernel
  have inBounds : range.InBounds := by decide
  obtain ⟨text, target, written, resolves, sameRange, onScreen, colours⟩ :=
    picked_range_denotes_sheet_on_screen operations .default [] events edit range editing inBounds
  exact ⟨by decide +kernel, editing, inBounds, text, target, written, resolves, sameRange, onScreen,
    colours rfl rfl⟩

end SheetEditor.Session
