import Mathlib.Logic.ExistsUnique
import SheetEditor.Proofs.Session.CommitTarget
import SheetEditor.Proofs.Session.WellFormed

/-!
Contract: what actions do to the history, and how undo and redo take it back.

Owns: the actions that record a snapshot, the one step that each action takes in
the history, and the workbooks that undoing and redoing a whole run lead to.

Does not own: what a history does with a step (`SheetEditor.Proofs.Session.Timeline`).
-/

namespace SheetEditor

/-! ## Kinds of actions -/

namespace Action

/-- Whether an action adds, renames or deletes a sheet. -/
def changesSheets : Action → Bool
  | .addSheet _ | .renameSheet .. | .deleteSheet _ => true
  | _ => false

/-- Whether an action commits the edit in progress. -/
def commitsEdit : Action → Bool
  | .commit | .commitAndMove .. => true
  | _ => false

/-- Whether an action asks for a step along the history. -/
def isTravel : Action → Bool
  | .undo | .redo => true
  | _ => false

end Action

namespace Session

variable {session : Session} {action : Action}

/-- Whether an action records a snapshot: a commit during an edit, and a change of the sheets that
is accepted. -/
def records (session : Session) (action : Action) : Bool :=
  action.commitsEdit && session.isEditing || action.changesSheets && (session.dispatch action).2

/-- Whether an action moves along the history. -/
def travels (session : Session) (action : Action) : Bool :=
  action.isTravel && (session.dispatch action).2

/-- What an action can do to the history. -/
inductive HistoryStep where
  | untouched
  | back
  | forward
  /-- One snapshot is pushed. -/
  | recorded (snapshot : Workbook)

/-- The history after an action, and the step that leads to it. A commit may record a snapshot that
equals the one before, so it is for the action to tell whether there was a step. -/
inductive TakesStep (session : Session) (action : Action) (after : History Workbook) :
    HistoryStep → Prop where
  | untouched (recordsNothing : session.records action = false)
      (stays : session.travels action = false) (same : after = session.history) :
      TakesStep session action after .untouched
  | back (isUndo : action = .undo) (idle : session.edit = none)
      (step : session.history.undo? = some after) : TakesStep session action after .back
  | forward (isRedo : action = .redo) (idle : session.edit = none)
      (step : session.history.redo? = some after) : TakesStep session action after .forward
  | recorded (snapshot : Workbook) (records : session.records action = true)
      (pushed : after = session.history.push snapshot) :
      TakesStep session action after (.recorded snapshot)

/-! ## The history after an action -/

theorem history_changeEditIf (session : Session) (change : Edit → Option Edit) :
    (session.changeEditIf change).1.history = session.history := by
  unfold changeEditIf
  split <;> rfl

theorem history_changeEdit (session : Session) (change : Edit → Edit) :
    (session.changeEdit change).1.history = session.history := by
  rw [changeEdit_eq]
  exact session.history_changeEditIf _

/-- A change of the sheets is pushed if and only if it is accepted. -/
theorem history_pushIf (session : Session) (workbook : Option Workbook) :
    (session.pushIf workbook).2 = workbook.isSome ∧
      (session.pushIf workbook).1.history =
        (workbook.map session.history.push).getD session.history := by
  cases workbook with
  | none => exact ⟨rfl, rfl⟩
  | some changed => exact ⟨rfl, rfl⟩

theorem history_deleteSheet (session : Session) (index : Nat) :
    (session.deleteSheet index).2 = (session.workbook.deleteSheet? index).isSome ∧
      (session.deleteSheet index).1.history =
        ((session.workbook.deleteSheet? index).map session.history.push).getD session.history := by
  unfold deleteSheet
  split
  · next refused => simp [refused, refuse]
  · next remaining deletion =>
      refine ⟨by rw [deletion]; rfl, ?_⟩
      rw [deletion]
      -- Ending the edit or keeping it makes no difference to the history.
      dsimp only
      split <;> rfl

/-- A change of the sheets leaves the history alone, or is accepted and pushes one snapshot. -/
theorem history_of_changesSheets (session : Session) (changes : action.changesSheets = true) :
    ((session.dispatch action).2 = false ∧
        (session.dispatch action).1.history = session.history) ∨
      (session.dispatch action).2 = true ∧
        ∃ snapshot, (session.dispatch action).1.history = session.history.push snapshot := by
  have pushed : ∃ changed : Option Workbook, (session.dispatch action).2 = changed.isSome ∧
      (session.dispatch action).1.history =
        (changed.map session.history.push).getD session.history := by
    cases action with
    | addSheet name => exact ⟨_, session.history_pushIf _⟩
    | renameSheet index name => exact ⟨_, session.history_pushIf _⟩
    | deleteSheet index => exact ⟨_, session.history_deleteSheet index⟩
    | _ => cases changes
  obtain ⟨changed, accepted, history⟩ := pushed
  rw [accepted, history]
  cases changed with
  | none => exact .inl ⟨rfl, rfl⟩
  | some snapshot => exact .inr ⟨rfl, snapshot, rfl⟩

/-- Travelling takes a step in an idle session that has one to take. -/
theorem travel_cases (session : Session) (step : Option (History Workbook)) :
    ((session.travel step).2 = false ∧ (session.travel step).1.history = session.history) ∨
      (session.travel step).2 = true ∧ session.edit = none ∧
        step = some (session.travel step).1.history := by
  unfold travel
  split
  · exact .inl ⟨rfl, rfl⟩
  · next notEditing =>
      have idle : session.edit = none := by simpa [isEditing] using notEditing
      cases step with
      | none => exact .inl ⟨rfl, rfl⟩
      | some history => exact .inr ⟨rfl, idle, rfl⟩

/-- A commit during an edit pushes one snapshot. -/
theorem exists_history_commit (wellFormed : session.WellFormed)
    (editing : session.isEditing = true) :
    ∃ snapshot, session.commit.1.history = session.history.push snapshot := by
  obtain ⟨edit, editEq⟩ := Option.isSome_iff_exists.mp editing
  obtain ⟨sheet, found⟩ :=
    Workbook.exists_sheet?_of_lt (wellFormed.edit_valid edit editEq).sheetIndex_lt
  exact ⟨_, congrArg (·.1.history) (commit_eq editEq found)⟩

/-- Without an edit there is nothing to commit. -/
theorem history_commit_of_idle (idle : session.isEditing = false) :
    session.commit.1.history = session.history := by
  have none : session.edit = none := by simpa [isEditing] using idle
  simp [commit, none, refuse]

/-- Actions that neither commit, nor change the sheets, nor travel leave the history alone. -/
theorem history_of_passive (noCommit : action.commitsEdit = false)
    (noChange : action.changesSheets = false) (noTravel : action.isTravel = false) :
    (session.dispatch action).1.history = session.history := by
  cases action with
  | enterEdit address mode typed =>
      show (session.enterEdit address mode typed).1.history = _
      unfold enterEdit
      split
      · split <;> rfl
      · rfl
  | updateText text caret selectionEnd =>
      show (session.updateText text caret selectionEnd).1.history = _
      unfold updateText
      split <;> rfl
  | setOrigin | setComposition | insertReference => exact session.history_changeEdit _
  | acceptSuggestion | cycleAnchors => exact session.history_changeEditIf _
  | cancel =>
      show session.cancel.1.history = _
      unfold cancel
      split <;> rfl
  | moveSelection rows columns =>
      show (session.moveSelection rows columns).1.history = _
      unfold moveSelection
      split <;> rfl
  | dismissSuggestions =>
      show session.dismissSuggestions.1.history = _
      unfold dismissSuggestions
      split <;> rfl
  | setActiveSheet index =>
      show (session.setActiveSheet index).1.history = _
      unfold setActiveSheet
      split <;> rfl
  | commit | commitAndMove => cases noCommit
  | addSheet | renameSheet | deleteSheet => cases noChange
  | undo | redo => cases noTravel

/-! ## The step of an action -/

/-- Every action takes a step. -/
theorem exists_takesStep (wellFormed : session.WellFormed) (action : Action) :
    ∃ step, session.TakesStep action (session.dispatch action).1.history step := by
  have untouched (recordsNothing : session.records action = false)
      (stays : session.travels action = false)
      (same : (session.dispatch action).1.history = session.history) :
      ∃ step, session.TakesStep action (session.dispatch action).1.history step :=
    ⟨.untouched, .untouched recordsNothing stays same⟩
  by_cases commits : action.commitsEdit = true
  · have kind : action.changesSheets = false ∧ action.isTravel = false := by
      cases action <;> simp_all [Action.commitsEdit, Action.changesSheets, Action.isTravel]
    -- Moving on after a commit does not concern the history.
    have committed : (session.dispatch action).1.history = session.commit.1.history := by
      cases action <;> first | rfl | cases commits
    cases editing : session.isEditing with
    | true =>
        obtain ⟨snapshot, pushed⟩ := exists_history_commit wellFormed editing
        exact ⟨.recorded snapshot,
          .recorded snapshot (by simp [records, commits, editing]) (committed.trans pushed)⟩
    | false =>
        exact untouched (by simp [records, editing, kind]) (by simp [travels, kind])
          (committed.trans (history_commit_of_idle editing))
  · by_cases changes : action.changesSheets = true
    · have noTravel : action.isTravel = false := by
        cases action <;> simp_all [Action.changesSheets, Action.isTravel]
      rcases history_of_changesSheets session changes with
        ⟨refused, same⟩ | ⟨accepted, snapshot, pushed⟩
      · exact untouched (by simp [records, commits, refused]) (by simp [travels, noTravel]) same
      · exact ⟨.recorded snapshot, .recorded snapshot (by simp [records, changes, accepted]) pushed⟩
    · have recordsNothing : session.records action = false := by
        simp [records, commits, changes]
      cases action with
      | undo =>
          rcases session.travel_cases session.history.undo? with ⟨refused, same⟩ | ⟨_, idle, step⟩
          · exact untouched recordsNothing refused same
          · exact ⟨.back, .back rfl idle step⟩
      | redo =>
          rcases session.travel_cases session.history.redo? with ⟨refused, same⟩ | ⟨_, idle, step⟩
          · exact untouched recordsNothing refused same
          · exact ⟨.forward, .forward rfl idle step⟩
      | _ =>
          exact untouched recordsNothing rfl
            (history_of_passive (by simpa using commits) (by simpa using changes) rfl)

theorem travels_undo {after : History Workbook} (idle : session.edit = none)
    (step : session.history.undo? = some after) : session.travels .undo = true := by
  simp [travels, Action.isTravel, dispatch, undo, travel, isEditing, idle, step]

theorem travels_redo {after : History Workbook} (idle : session.edit = none)
    (step : session.history.redo? = some after) : session.travels .redo = true := by
  simp [travels, Action.isTravel, dispatch, redo, travel, isEditing, idle, step]

/-- An action takes at most one step. -/
theorem TakesStep.unique {after : History Workbook} {left right : HistoryStep}
    (leftStep : session.TakesStep action after left)
    (rightStep : session.TakesStep action after right) : left = right := by
  cases leftStep with
  | untouched recordsNothing stays =>
      cases rightStep with
      | untouched => rfl
      | back isUndo idle step => cases stays.symm.trans (isUndo ▸ travels_undo idle step)
      | forward isRedo idle step => cases stays.symm.trans (isRedo ▸ travels_redo idle step)
      | recorded snapshot records => cases recordsNothing.symm.trans records
  | back isUndo idle step =>
      subst isUndo
      cases rightStep with
      | untouched _ stays => cases stays.symm.trans (travels_undo idle step)
      | back => rfl
      | forward isRedo => cases isRedo
      | recorded snapshot records => cases records
  | forward isRedo idle step =>
      subst isRedo
      cases rightStep with
      | untouched _ stays => cases stays.symm.trans (travels_redo idle step)
      | back isUndo => cases isUndo
      | forward => rfl
      | recorded snapshot records => cases records
  | recorded snapshot records pushed =>
      cases rightStep with
      | untouched recordsNothing => cases recordsNothing.symm.trans records
      | back isUndo => subst isUndo; cases records
      | forward isRedo => subst isRedo; cases records
      | recorded other _ otherPushed =>
          have same := congrArg History.present (pushed.symm.trans otherPushed)
          exact congrArg HistoryStep.recorded same

/-! ## Runs -/

/-- The session after one action after the other. -/
def perform (session : Session) (actions : List Action) : Session := session.run (actions.map .act)

@[simp] theorem perform_nil (session : Session) : session.perform [] = session := rfl

@[simp] theorem perform_cons (session : Session) (action : Action) (rest : List Action) :
    session.perform (action :: rest) = (session.dispatch action).1.perform rest := rfl

theorem perform_append (session : Session) (earlier later : List Action) :
    session.perform (earlier ++ later) = (session.perform earlier).perform later := by
  rw [perform, List.map_append, run_append]
  rfl

/-- Number of snapshots that actions record one after the other. -/
def recordCount : Session → List Action → Nat
  | _, [] => 0
  | session, action :: rest =>
      (session.records action).toNat + recordCount (session.dispatch action).1 rest

/-! ### Cancelled edits -/

theorem isEditing_of_commitsEdit (session : Session) (commits : action.commitsEdit = true) :
    (session.dispatch action).1.isEditing = false := by
  have ended : session.commit.1.isEditing = false := by simp [isEditing, edit_commit]
  cases action with
  | commit => exact ended
  | commitAndMove rows columns => exact ended
  | _ => cases commits

/-- As long as an edit lasts, only changes of the sheets touch the history. -/
theorem history_perform_of_editLasts {actions : List Action} (wellFormed : session.WellFormed)
    (lasts : session.EditLasts (actions.map .act))
    (noChange : ∀ action ∈ actions, action.changesSheets = false) :
    (session.perform actions).history = session.history := by
  induction actions generalizing session with
  | nil => rfl
  | cons action rest inductionHypothesis =>
      obtain ⟨editing, later⟩ := editLasts_cons.mp lasts
      have same : (session.dispatch action).1.history = session.history := by
        obtain ⟨step, takes⟩ := exists_takesStep wellFormed action
        cases takes with
        | untouched _ _ same => exact same
        | back _ idle | forward _ idle => simp [isEditing, idle] at editing
        | recorded snapshot records =>
            -- What records a snapshot here is a commit, and the edit would be over.
            have commits : action.commitsEdit = true := by
              simpa [Session.records, noChange action List.mem_cons_self, editing] using records
            have ended := isEditing_of_commitsEdit session commits
            cases ended.symm.trans later.isEditing
      rw [perform_cons]
      exact (inductionHypothesis (wellFormed.effect (session.effect_dispatch action)) later
        fun other member => noChange other (List.mem_cons_of_mem _ member)).trans same

theorem history_cancel (session : Session) : session.cancel.1.history = session.history := by
  unfold cancel
  split <;> rfl

/-! ### Undoing and redoing a run -/

/-- Along actions other than undo and redo, each snapshot moves back one step for every snapshot that
is recorded. -/
theorem ago?_perform {actions : List Action} {distance : Nat} {snapshot : Workbook}
    (wellFormed : session.WellFormed) (noTravel : ∀ action ∈ actions, action.isTravel = false)
    (before : session.history.ago? distance = some snapshot)
    (kept : distance + session.recordCount actions ≤ session.history.limit) :
    (session.perform actions).history.ago? (distance + session.recordCount actions) =
      some snapshot := by
  induction actions generalizing session distance with
  | nil => exact before
  | cons action rest inductionHypothesis =>
      have later := wellFormed.effect (session.effect_dispatch action)
      have noTravelLater : ∀ other ∈ rest, other.isTravel = false :=
        fun other member => noTravel other (List.mem_cons_of_mem _ member)
      have noTravelNow := noTravel action List.mem_cons_self
      rw [perform_cons, recordCount, ← Nat.add_assoc] at *
      obtain ⟨step, takes⟩ := exists_takesStep wellFormed action
      cases takes with
      | untouched recordsNothing _ same =>
          rw [recordsNothing] at kept ⊢
          exact inductionHypothesis later noTravelLater (same ▸ before) (same ▸ kept)
      | back isUndo => cases isUndo ▸ noTravelNow
      | forward isRedo => cases isRedo ▸ noTravelNow
      | recorded next records pushed =>
          rw [records] at kept ⊢
          have inLimit : distance < session.history.limit := by
            simp only [Bool.toNat_true] at kept
            omega
          refine inductionHypothesis later noTravelLater ?_ ?_
          · rw [pushed]
            exact (session.history.ago?_push next inLimit).trans before
          · rw [pushed]
            exact kept

theorem dispatch_undo {after : History Workbook} (idle : session.edit = none)
    (step : session.history.undo? = some after) :
    (session.dispatch .undo).1 = session.withHistory after := by
  simp [dispatch, undo, travel, isEditing, idle, step]

theorem dispatch_redo {after : History Workbook} (idle : session.edit = none)
    (step : session.history.redo? = some after) :
    (session.dispatch .redo).1 = session.withHistory after := by
  simp [dispatch, redo, travel, isEditing, idle, step]

/-- An idle session goes back by undoing, and redoing as often restores its history. -/
theorem perform_undo_redo {distance : Nat} {snapshot : Workbook} (idle : session.edit = none)
    (before : session.history.ago? distance = some snapshot) :
    (session.perform (List.replicate distance .undo)).workbook = snapshot ∧
      ((session.perform (List.replicate distance .undo)).perform
        (List.replicate distance .redo)).edit = none ∧
      ((session.perform (List.replicate distance .undo)).perform
        (List.replicate distance .redo)).history = session.history := by
  induction distance generalizing session with
  | zero => exact ⟨Option.some.inj before, idle, rfl⟩
  | succ distance inductionHypothesis =>
      obtain ⟨stepped, step, nearer⟩ := History.exists_undo?_of_ago? before
      have undone := dispatch_undo idle step
      have idleStepped : (session.withHistory stepped).edit = none := idle
      obtain ⟨restored, idleLater, sameLater⟩ := inductionHypothesis idleStepped nearer
      rw [List.replicate_succ, perform_cons, undone]
      refine ⟨restored, ?_⟩
      -- The last redo is the one that takes back the first undo.
      have redoable : ((((session.withHistory stepped).perform
          (List.replicate distance .undo)).perform
            (List.replicate distance .redo)).history).redo? = some session.history := by
        rw [sameLater]
        exact History.redo?_of_undo? step
      rw [List.replicate_succ', perform_append, perform_cons, perform_nil,
        dispatch_redo idleLater redoable]
      exact ⟨idleLater, rfl⟩

/-- Every change of the workbook can be undone, and nothing else touches the history.

In every reachable session each action takes exactly one step: it leaves the history alone, moves it
one snapshot back or forward, or records one snapshot. An edit that is cancelled without a change of
the sheets in between leaves the history as it was. And as many undos as an idle run recorded
snapshots, if that is within the limit, lead back to the workbook before it, as many redos to the
history after it. -/
theorem exactly_one_step_and_reversible (reachable : session.Reachable) :
    (∀ action, ∃! step, session.TakesStep action (session.dispatch action).1.history step) ∧
      (∀ (address : CellAddress) (mode : EntryMode) (typed : Option Char) (actions : List Action),
        (session.dispatch (.enterEdit address mode typed)).2 = true →
        (session.dispatch (.enterEdit address mode typed)).1.EditLasts (actions.map .act) →
        (∀ action ∈ actions, action.changesSheets = false) →
        (session.perform (.enterEdit address mode typed :: actions ++ [.cancel])).edit = none ∧
          (session.perform (.enterEdit address mode typed :: actions ++ [.cancel])).history =
            session.history) ∧
      ∀ actions : List Action, session.edit = none →
        (∀ action ∈ actions, action ≠ .undo ∧ action ≠ .redo) →
        (session.perform actions).edit = none →
        session.recordCount actions ≤ session.history.limit →
        let undone := (session.perform actions).perform
          (List.replicate (session.recordCount actions) .undo)
        let redone := undone.perform (List.replicate (session.recordCount actions) .redo)
        undone.workbook = session.workbook ∧ redone.history = (session.perform actions).history := by
  have wellFormed := reachable.wellFormed
  refine ⟨?_, ?_, ?_⟩
  · intro action
    obtain ⟨step, takes⟩ := exists_takesStep wellFormed action
    exact ⟨step, takes, fun other takesOther => takesOther.unique takes⟩
  · intro address mode typed actions accepted lasts noChange
    have begun : (session.dispatch (.enterEdit address mode typed)).1.history = session.history :=
      history_of_passive rfl rfl rfl
    have kept := history_perform_of_editLasts
      (wellFormed.effect (session.effect_dispatch _)) lasts noChange
    rw [List.cons_append, perform_cons, perform_append, perform_cons, perform_nil]
    exact ⟨edit_cancel _, (history_cancel _).trans (kept.trans begun)⟩
  · intro actions idle noTravel endsIdle withinLimit undone redone
    have notTravelling : ∀ action ∈ actions, action.isTravel = false := by
      intro action member
      obtain ⟨notUndo, notRedo⟩ := noTravel action member
      cases action <;> first | rfl | contradiction
    have before : (session.perform actions).history.ago? (session.recordCount actions) =
        some session.workbook := by
      have moved := ago?_perform wellFormed notTravelling session.history.ago?_zero (by omega)
      rwa [Nat.zero_add] at moved
    obtain ⟨restored, _, same⟩ := perform_undo_redo endsIdle before
    exact ⟨restored, same⟩

/-- With a limit of two steps, a sheet is added and a cell is written, besides actions that are
refused or change no workbook; two undos lead back. An edit that is cancelled leaves no trace. -/
theorem two_undos_and_cancelled_edit :
    let session := Session.new Workbook.new { Settings.default with historyLimit := 2 }
    let actions : List Action := [.addSheet none, .setActiveSheet 1,
      .enterEdit ⟨4, 1⟩ .replace (some '7'), .updateText "=(1".toList 3 3, .commitAndMove 1 0,
      .renameSheet 0 "Sheet2".toList, .commit, .deleteSheet 5, .moveSelection 2 2]
    let editing : List Action := [.updateText "12".toList 2 2, .undo]
    session.Reachable ∧ session.edit = none ∧ session.recordCount actions = 2 ∧
      (∃! step, session.TakesStep .undo (session.dispatch .undo).1.history step) ∧
      (session.perform (.enterEdit ⟨0, 0⟩ .enter none :: editing ++ [.cancel])).history =
        session.history ∧
      ((session.perform actions).perform [.undo, .undo]).workbook = session.workbook ∧
      (((session.perform actions).perform [.undo, .undo]).perform [.redo, .redo]).history =
        (session.perform actions).history := by
  intro session actions editing
  have reachable : session.Reachable := .start _ _ .new
  have count : session.recordCount actions = 2 := by decide +kernel
  obtain ⟨oneStep, cancelled, reversible⟩ := exactly_one_step_and_reversible reachable
  have lasts : (session.dispatch (.enterEdit ⟨0, 0⟩ .enter none)).1.EditLasts
      (editing.map .act) := by
    simp only [editing, List.map, editLasts_cons, editLasts_nil]
    exact ⟨rfl, rfl, rfl⟩
  have kept := (cancelled ⟨0, 0⟩ .enter none editing rfl lasts (by decide)).2
  have restored := reversible actions rfl (by decide) (by decide +kernel)
    (count ▸ (by decide : 2 ≤ session.history.limit))
  rw [count] at restored
  exact ⟨reachable, rfl, count, oneStep .undo, kept, restored⟩

end Session

end SheetEditor
