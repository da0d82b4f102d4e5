import SheetEditor.Proofs.Draft.Reclosing
import SheetEditor.Proofs.Session.Recommit

/-!
Contract: a formula that a commit closes, opened and committed again.

Owns: what the first and the second commit of a formula leave in its cell when the
setting closes parentheses, and when the second one changes nothing.

Does not own: how many parentheses are open (`SheetEditor.Proofs.Draft.Reclosing`).
-/

namespace SheetEditor

open Draft (closeParentheses endsInString openDepth)

/-- A text that begins with an equals sign is what its cell opens with. -/
theorem CellValue.editText_ofInput_formula (body : Text) :
    (CellValue.ofInput ('=' :: body)).editText = '=' :: body ∧
      (CellValue.ofInput ('=' :: body)).isEmpty = false := by
  rw [CellValue.ofInput]
  split <;> exact ⟨rfl, rfl⟩

namespace Session

variable {session : Session} {edit : Edit} {body : Text}

/-- A commit shows the cell of the edit and stores what the closed text of a formula stands for. -/
theorem commit_closes (reachable : session.Reachable) (editing : session.edit = some edit)
    (isFormula : edit.text = '=' :: body) (closes : session.settings.autoCloseParentheses = true) :
    session.commit.1.edit = none ∧ session.commit.1.activeSheet = edit.sheetIndex ∧
      session.commit.1.settings = session.settings ∧
      session.commit.1.workbook.stored? edit.sheetIndex edit.address =
        some (CellValue.ofInput (closeParentheses ('=' :: body))) := by
  obtain ⟨sheet, found⟩ :=
    Workbook.exists_sheet?_of_lt (reachable.wellFormed.edit_valid edit editing).sheetIndex_lt
  have isClosed : session.committedText edit = closeParentheses ('=' :: body) := by
    rw [committedText, if_pos closes, isFormula]
  rw [commit_eq editing found, isClosed]
  refine ⟨rfl, rfl, rfl, ?_⟩
  refine (Workbook.writesCell_withSheet found edit.address _).stored?_self.trans ?_
  rw [closeParentheses, List.cons_append, (CellValue.editText_ofInput_formula _).2]
  rfl

/-- The first commit stores the formula closed once, the second one stores it closed twice. -/
theorem recommit_closes_twice (reachable : session.Reachable) (editing : session.edit = some edit)
    (isFormula : edit.text = '=' :: body) (closes : session.settings.autoCloseParentheses = true)
    (typed : Option Char) :
    let committed := session.commit.1
    (committed.dispatch (.enterEdit edit.address .enter typed)).2 = true ∧
      ((committed.dispatch (.enterEdit edit.address .enter typed)).1.dispatch .commit).2 = true ∧
      (committed.recommit edit.address typed).workbook.stored? edit.sheetIndex edit.address =
        some (CellValue.ofInput (closeParentheses (closeParentheses ('=' :: body)))) := by
  intro committed
  have valid := reachable.wellFormed.edit_valid edit editing
  have inBounds : edit.address.InBounds :=
    valid.address_eq ▸ reachable.wellFormed.selected_inBounds
  obtain ⟨idle, active, sameSettings, stored⟩ := commit_closes reachable editing isFormula closes
  have committedReachable : committed.Reachable := .after (.act .commit) reachable
  obtain ⟨opened, onScreen⟩ :=
    Workbook.exists_sheet?_of_lt committedReachable.wellFormed.activeSheet_lt
  obtain ⟨openAccepted, commitAccepted, writes⟩ := recommit_writes idle onScreen inBounds typed
  refine ⟨openAccepted, commitAccepted, ?_⟩
  have opensWith : opened.editText edit.address = closeParentheses ('=' :: body) := by
    rw [← active, Workbook.stored?_of_sheet? onScreen] at stored
    rw [Sheet.editText_of_get? stored]
    exact (CellValue.editText_ofInput_formula _).1
  rw [sameSettings, closes, if_pos rfl, opensWith, active] at writes
  rw [writes.stored?_self, closeParentheses, List.cons_append, closeParentheses, List.cons_append,
    (CellValue.editText_ofInput_formula _).2]
  rfl

/-- Closing the parentheses of a formula balances it.

The closed text is the text with closing parentheses after it. No parenthesis is open in it any more,
unless there were some and the body ends inside a string that nothing closes. If that is not so,
closing the text again changes nothing, and a formula that is committed, opened and committed again
stays what the first commit stored. -/
theorem closing_balances (body : Text) :
    ∃ count, closeParentheses ('=' :: body) = '=' :: body ++ List.replicate count ')' ∧
      (openDepth (Draft.Token.scanAll (body ++ List.replicate count ')')) = 0 ↔
        endsInString body = false ∨ count = 0) ∧
      (endsInString body = false ∨ count = 0 →
        closeParentheses (closeParentheses ('=' :: body)) = closeParentheses ('=' :: body) ∧
        ∀ (session : Session) (edit : Edit) (typed : Option Char), session.Reachable →
          session.edit = some edit → edit.text = '=' :: body →
          session.settings.autoCloseParentheses = true →
          let committed := (session.dispatch .commit).1
          (committed.dispatch (.enterEdit edit.address .enter typed)).2 = true ∧
            ((committed.dispatch (.enterEdit edit.address .enter typed)).1.dispatch .commit).2 =
              true ∧
            committed.workbook.stored? edit.sheetIndex edit.address =
              some (CellValue.ofInput ('=' :: body ++ List.replicate count ')')) ∧
            (committed.recommit edit.address typed).workbook.stored? edit.sheetIndex edit.address =
              committed.workbook.stored? edit.sheetIndex edit.address) := by
  refine ⟨openDepth (Draft.Token.scanAll body), rfl, ?_, ?_⟩
  · rw [Draft.openDepth_closed]
    cases endsInString body with
    | true => simp
    | false => simp
  · intro balanced
    have noneOpen : openDepth (Draft.Token.scanAll (body ++
        List.replicate (openDepth (Draft.Token.scanAll body)) ')')) = 0 := by
      rw [Draft.openDepth_closed]
      rcases balanced with closed | noParenthesis
      · rw [closed]
        rfl
      · rw [noParenthesis, ite_self]
    have settled : closeParentheses (closeParentheses ('=' :: body)) =
        closeParentheses ('=' :: body) :=
      Draft.closeParentheses_eq_self_of_balanced noneOpen
    refine ⟨settled, fun session edit typed reachable editing isFormula closes => ?_⟩
    obtain ⟨openAccepted, commitAccepted, storedAgain⟩ :=
      recommit_closes_twice reachable editing isFormula closes typed
    obtain ⟨_, _, _, stored⟩ := commit_closes reachable editing isFormula closes
    refine ⟨openAccepted, commitAccepted, stored, ?_⟩
    exact (storedAgain.trans (congrArg (some ∘ CellValue.ofInput) settled)).trans stored.symm

/-- On the second sheet a formula with a call, a closed string, a quoted name and a number in progress
is typed, committed, opened and committed. -/
theorem closing_balances_typed_formula :
    let body := "SUM(('Bob''s (1)'!A1 & \"(\", 2.5E".toList
    let session := (Session.new Workbook.new.addSheet .default).run
      [.act (.setActiveSheet 1), .act (.enterEdit ⟨4, 1⟩ .replace (some '=')),
        .act (.updateText ('=' :: body) 4 4)]
    let committed := (session.dispatch .commit).1
    session.Reachable ∧ session.edit.map (·.text) = some ('=' :: body) ∧
      endsInString body = false ∧
      committed.workbook.stored? 1 ⟨4, 1⟩ = some (.formula (body ++ "))".toList)) ∧
      (committed.recommit ⟨4, 1⟩ none).workbook.stored? 1 ⟨4, 1⟩ =
        committed.workbook.stored? 1 ⟨4, 1⟩ := by
  intro body session committed
  have reachable : session.Reachable := .run (.start _ _ (.addSheet .new)) _
  have closed : endsInString body = false := by decide +kernel
  have closedText : closeParentheses ('=' :: body) = '=' :: (body ++ "))".toList) := by
    decide +kernel
  obtain ⟨edit, editing⟩ : ∃ edit, session.edit = some edit := ⟨_, rfl⟩
  have place : session.edit.map (fun edit => (edit.sheetIndex, edit.address, edit.text)) =
      some (1, ⟨4, 1⟩, '=' :: body) := rfl
  rw [editing, Option.map_some, Option.some.injEq, Prod.mk.injEq, Prod.mk.injEq] at place
  obtain ⟨sheetIndex, address, isFormula⟩ := place
  obtain ⟨count, countEq, _, settles⟩ := closing_balances body
  obtain ⟨_, again⟩ := settles (.inl closed)
  obtain ⟨_, _, stored, same⟩ := again session edit none reachable editing isFormula rfl
  rw [← countEq, closedText] at stored
  rw [sheetIndex, address] at stored same
  exact ⟨reachable, rfl, closed, stored, same⟩

/-- A string that nothing closes takes in what is put at its end. The parenthesis before it stays
open, and every commit adds one. -/
theorem closing_grows_inside_string :
    let text := "=(\"abc".toList
    let session := (Session.new Workbook.new .default).run
      [.act (.enterEdit ⟨0, 0⟩ .replace (some '=')), .act (.updateText text 6 6), .act .commit]
    closeParentheses text = "=(\"abc)".toList ∧
      openDepth (Draft.Token.scanAll "(\"abc)".toList) = 1 ∧
      closeParentheses (closeParentheses text) = "=(\"abc))".toList ∧
      session.workbook.stored? 0 ⟨0, 0⟩ = some (.formula "(\"abc)".toList) ∧
      (session.recommit ⟨0, 0⟩ none).workbook.stored? 0 ⟨0, 0⟩ =
        some (.formula "(\"abc))".toList) := by
  intro text session
  refine ⟨?_, ?_, ?_, ?_, ?_⟩
  · decide +kernel
  · decide +kernel
  · decide +kernel
  · decide +kernel
  · decide +kernel

end Session

end SheetEditor
