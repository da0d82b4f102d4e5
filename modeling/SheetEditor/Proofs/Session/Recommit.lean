import SheetEditor.Proofs.Session.CommitTarget
import SheetEditor.Proofs.Session.WellFormed
import SheetEditor.Proofs.Workbook.CellText

/-!
Contract: opening a cell and committing it at once.

Owns: the workbook that is left by opening a cell in the editor and committing
the text unchanged.

Does not own: what the text of a value stands for (`SheetEditor.Proofs.Workbook.CellText`).
-/

namespace SheetEditor.Session

variable {session : Session} {address : CellAddress} {sheet : Sheet}

/-- The state after a cell was opened in the editor and committed at once. -/
def recommit (session : Session) (address : CellAddress) (typed : Option Char) : Session :=
  ((session.dispatch (.enterEdit address .enter typed)).1.dispatch .commit).1

/-- An idle session opens a cell of the sheet on screen with the text of its value. -/
theorem enterEdit_eq (idle : session.edit = none) (onScreen : session.sheetOnScreen? = some sheet)
    (inBounds : address.InBounds) (typed : Option Char) :
    session.dispatch (.enterEdit address .enter typed) =
      ({ session with
          edit := some (.ofCell address .enter (sheet.editText address) session.activeSheet)
          selected := address
          suggestionsDismissed := false }, true) := by
  show session.enterEdit address .enter typed = _
  simp only [enterEdit, idle, onScreen, if_pos inBounds]
  rfl

/-- Committing the text of a cell writes what the text stands for to that cell. -/
theorem recommit_writes (idle : session.edit = none) (onScreen : session.sheetOnScreen? = some sheet)
    (inBounds : address.InBounds) (typed : Option Char) :
    (session.dispatch (.enterEdit address .enter typed)).2 = true ∧
      ((session.dispatch (.enterEdit address .enter typed)).1.dispatch .commit).2 = true ∧
      session.workbook.WritesCell (session.recommit address typed).workbook session.activeSheet
        address (CellValue.ofInput
          (if session.settings.autoCloseParentheses then
            Draft.closeParentheses (sheet.editText address) else sheet.editText address)) := by
  unfold recommit
  rw [enterEdit_eq idle onScreen inBounds typed]
  refine ⟨rfl, ?_⟩
  let edit : Edit := .ofCell address .enter (sheet.editText address) session.activeSheet
  let opened : Session := { session with
    edit := some edit
    selected := address
    suggestionsDismissed := false }
  have editing : opened.edit = some edit := rfl
  have found : opened.workbook.sheet? edit.sheetIndex = some sheet := onScreen
  show opened.commit.2 = true ∧ session.workbook.WritesCell opened.commit.1.workbook _ _ _
  rw [commit_eq editing found]
  exact ⟨rfl, Workbook.writesCell_withSheet onScreen address _⟩

/-- Committing an untouched cell keeps every value that was entered as plain text.

In every reachable session without an edit, opening a cell on the sheet on screen and committing at
once is accepted and changes no other cell. The cell stays empty if it was; and a value that entering
a text without an apostrophe leaves is kept, numbers compared as numbers, except that a formula has
its open parentheses closed if the setting says so. Every value that such a text leaves is one of
these, and a formula without an open parenthesis is not changed by closing it. -/
theorem recommit_keeps_plain_values (reachable : session.Reachable) (idle : session.edit = none)
    (inBounds : address.InBounds) (typed : Option Char) :
    (session.dispatch (.enterEdit address .enter typed)).2 = true ∧
      ((session.dispatch (.enterEdit address .enter typed)).1.dispatch .commit).2 = true ∧
      (∀ index cell, index ≠ session.activeSheet ∨ cell ≠ address →
        (session.recommit address typed).workbook.stored? index cell =
          session.workbook.stored? index cell) ∧
      (session.workbook.stored? session.activeSheet address = none →
        (session.recommit address typed).workbook.stored? session.activeSheet address = none) ∧
      (∀ value, session.workbook.stored? session.activeSheet address = some value → value.IsPlain →
        ∃ kept,
          (session.recommit address typed).workbook.stored? session.activeSheet address =
            some kept ∧
          (value.closed session.settings.autoCloseParentheses).agreesWith kept = true) ∧
      (∀ input : Text, input.head? ≠ some '\'' →
        CellValue.ofInput input = .empty ∨ (CellValue.ofInput input).IsPlain) ∧
      ∀ body, Draft.openDepth (Draft.Token.scanAll body) = 0 → ∀ closing,
        (CellValue.formula body).closed closing = .formula body := by
  obtain ⟨sheet, onScreen⟩ := Workbook.exists_sheet?_of_lt reachable.wellFormed.activeSheet_lt
  obtain ⟨openAccepted, commitAccepted, writes⟩ := recommit_writes idle onScreen inBounds typed
  have storedBefore := Workbook.stored?_of_sheet? onScreen address
  refine ⟨openAccepted, commitAccepted, fun index cell different => writes.stored?_of_ne different,
    ?_, ?_, fun input notMarked => CellValue.isPlain_ofInput notMarked,
    fun body balanced closing => CellValue.closed_formula_eq_self balanced closing⟩
  · intro empty
    rw [storedBefore] at empty
    rw [writes.stored?_self, Sheet.editText, empty]
    cases session.settings.autoCloseParentheses with
    | true => rfl
    | false => rfl
  · intro value stored plain
    rw [storedBefore] at stored
    have agrees := CellValue.ofInput_editText_agrees plain session.settings.autoCloseParentheses
    rw [← Sheet.editText_of_get? stored] at agrees
    refine ⟨_, ?_, agrees⟩
    rw [writes.stored?_self, CellValue.isEmpty_eq_false_of_agrees plain agrees]
    rfl

/-- A formula on the second sheet with one string and one open parenthesis, which is what a text
without an apostrophe leaves, is kept and closed; closing it once more changes nothing. -/
theorem recommit_closes_formula :
    let formula := CellValue.formula "\"(\"&(1".toList
    let closed := CellValue.formula "\"(\"&(1)".toList
    let session := (Session.new (Workbook.new.addSheet.withSheet 1
      ((Sheet.named ⟨2⟩ "Sheet2".toList).write ⟨4, 1⟩ formula)) .default).run
      [.act (.setActiveSheet 1)]
    session.Reachable ∧ session.edit = none ∧ (⟨4, 1⟩ : CellAddress).InBounds ∧
      session.workbook.stored? session.activeSheet ⟨4, 1⟩ = some formula ∧
      CellValue.ofInput "=\"(\"&(1".toList = formula ∧ formula.IsPlain ∧
      (∃ kept,
        (session.recommit ⟨4, 1⟩ none).workbook.stored? session.activeSheet ⟨4, 1⟩ = some kept ∧
        (formula.closed session.settings.autoCloseParentheses).agreesWith kept = true) ∧
      formula.closed session.settings.autoCloseParentheses = closed ∧
      closed.closed session.settings.autoCloseParentheses = closed := by
  intro formula closed session
  have reachable : session.Reachable := .run (.start _ _ (.withSheet _ _ (.addSheet .new))) _
  have idle : session.edit = none := rfl
  have inBounds : (⟨4, 1⟩ : CellAddress).InBounds := by decide
  have stored : session.workbook.stored? session.activeSheet ⟨4, 1⟩ = some formula := rfl
  obtain ⟨-, -, -, -, keeps, entered, unchanged⟩ :=
    recommit_keeps_plain_values reachable idle inBounds none
  have typed : CellValue.ofInput "=\"(\"&(1".toList = formula := by decide +kernel
  have plain : formula.IsPlain := by
    apply (entered "=\"(\"&(1".toList (by decide)).resolve_left
    rw [typed]
    exact CellValue.noConfusion
  refine ⟨reachable, idle, inBounds, stored, typed, plain, keeps formula stored plain, ?_, ?_⟩
  · decide +kernel
  · exact unchanged _ (by decide +kernel) _

/-- Other values may change: a formula is closed, and what stands for something else becomes that,
be it a text marked by an apostrophe, a formula without a body, or an infinite number. -/
theorem recommit_changes_other_values :
    let cell : CellAddress := ⟨0, 0⟩
    let holding (value : CellValue) := Session.new
      (Workbook.new.withSheet 0 ((Sheet.named ⟨1⟩ "Sheet1".toList).write cell value)) .default
    let marked := (Session.new Workbook.new .default).run
      [.act (.enterEdit cell .enter none), .act (.updateText "'123".toList 4 4), .act .commit]
    let infinite : Binary64 := ⟨0x7FF0000000000000⟩
    cell.InBounds ∧ (∀ value, (holding value).Reachable ∧ (holding value).edit = none) ∧
      ((holding (.formula "(1".toList)).workbook.stored? 0 cell = some (.formula "(1".toList) ∧
        ((holding (.formula "(1".toList)).recommit cell none).workbook.stored? 0 cell =
          some (.formula "(1)".toList)) ∧
      (marked.Reachable ∧ marked.edit = none ∧
        marked.workbook.stored? 0 cell = some (.text "123".toList) ∧
        (marked.recommit cell none).workbook.stored? 0 cell =
          some (.number ⟨0x405EC00000000000⟩)) ∧
      ((holding (.formula [])).workbook.stored? 0 cell = some (.formula []) ∧
        ((holding (.formula [])).recommit cell none).workbook.stored? 0 cell =
          some (.text "=".toList)) ∧
      ((holding (.number infinite)).workbook.stored? 0 cell = some (.number infinite) ∧
        ((holding (.number infinite)).recommit cell none).workbook.stored? 0 cell =
          some (.text "inf".toList)) := by
  intro cell holding marked infinite
  refine ⟨by decide, fun value => ⟨.start _ _ (.withSheet _ _ .new), rfl⟩, ⟨rfl, ?_⟩,
    ⟨.run (.start _ _ .new) _, rfl, ?_, ?_⟩, ⟨rfl, ?_⟩, ⟨rfl, ?_⟩⟩
  · decide +kernel
  · decide +kernel
  · decide +kernel
  · decide +kernel
  · decide +kernel

end SheetEditor.Session
