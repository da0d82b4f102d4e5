import Mathlib.Data.List.Induction
import SheetEditor.Proofs.Session.Effect

/-!
Contract: where a composition starts, and whether that is in the text.

Owns: what each action does to the composition of the edit in progress, and the one way in which its
start can come to lie behind the end of the text.

A composition is set within the text as it is at that moment. The three actions that replace text
keep the composition and do not look at it; where they leave a text that is too short, the start of
the composition is stranded behind its end, until the composition is set again or a longer text
reaches it.
-/

namespace SheetEditor

/-- Whether an action replaces text of the edit in progress, and so may leave less of it. -/
def Action.replacesText : Action → Bool
  | .updateText .. | .acceptSuggestion _ | .cycleAnchors => true
  | _ => false

namespace Edit

/-- The composition starts in the text or at its end. -/
def ComposesInText (edit : Edit) : Prop := edit.composition.start ≤ edit.text.length

instance (edit : Edit) : Decidable edit.ComposesInText :=
  inferInstanceAs (Decidable (edit.composition.start ≤ edit.text.length))

theorem composesInText_ofCell (address : CellAddress) (mode : EntryMode) (text : Text)
    (sheetIndex : Nat) : (ofCell address mode text sheetIndex).ComposesInText :=
  Nat.zero_le _

theorem composesInText_compose (edit : Edit) (composition : Composition) :
    (edit.compose composition).ComposesInText :=
  Nat.min_le_right ..

/-- An insertion only adds text. -/
theorem length_insertAtCaret (edit : Edit) (inserted : Text) :
    (edit.insertAtCaret inserted).text.length = edit.text.length + inserted.length := by
  simp only [insertAtCaret, apply, Text.length_splice]
  omega

end Edit

namespace Session

variable {session start : Session} {action : Action} {event : Event} {events : List Event}
  {edit revision : Edit}

/-! ## The composition after an action -/

theorem exists_of_changeEdit {change : Edit → Edit}
    (revised : (session.changeEdit change).1.edit = some revision) :
    ∃ edit, session.edit = some edit ∧ change edit = revision :=
  Option.map_eq_some_iff.mp ((session.edit_changeEdit change).symm.trans revised)

theorem exists_of_changeEditIf {change : Edit → Option Edit}
    (revised : (session.changeEditIf change).1.edit = some revision) :
    ∃ edit, session.edit = some edit ∧ (change edit).getD edit = revision :=
  Option.map_eq_some_iff.mp ((session.edit_changeEditIf change).symm.trans revised)

/-- How an action leaves the composition of the edit in progress. -/
inductive Recomposes (session : Session) (action : Action) (revision : Edit) : Prop where
  /-- The edit begins, or its composition is set. -/
  | anew (inText : revision.ComposesInText)
  /-- The composition is kept, and no text is lost. -/
  | kept {edit : Edit} (editing : session.edit = some edit)
      (same : revision.composition = edit.composition)
      (noShorter : edit.text.length ≤ revision.text.length)
  /-- The composition is kept, whatever the text is now. -/
  | replaced {edit : Edit} (replaces : action.replacesText = true)
      (editing : session.edit = some edit) (same : revision.composition = edit.composition)

theorem Recomposes.of_eq (same : (session.dispatch action).1.edit = session.edit)
    (revised : (session.dispatch action).1.edit = some revision) :
    session.Recomposes action revision :=
  .kept (same.symm.trans revised) rfl (Nat.le_refl _)

/-- Every action sets the composition in the text, keeps it without loss of text, or replaces
text. -/
theorem recomposes_dispatch (revised : (session.dispatch action).1.edit = some revision) :
    session.Recomposes action revision := by
  cases action with
  | enterEdit address mode typed =>
      simp only [dispatch, enterEdit] at revised
      split at revised
      · split at revised
        · cases revised
          exact .anew (Edit.composesInText_ofCell ..)
        · exact .kept revised rfl (Nat.le_refl _)
      · exact .kept revised rfl (Nat.le_refl _)
  | updateText text caret selectionEnd =>
      obtain ⟨edit, editing, rfl⟩ :=
        Option.map_eq_some_iff.mp ((session.edit_updateText ..).symm.trans revised)
      exact .replaced rfl editing rfl
  | setOrigin origin =>
      obtain ⟨edit, editing, rfl⟩ := exists_of_changeEdit revised
      exact .kept editing rfl (Nat.le_refl _)
  | setComposition composition =>
      obtain ⟨edit, -, rfl⟩ := exists_of_changeEdit revised
      exact .anew (edit.composesInText_compose composition)
  | insertReference text =>
      obtain ⟨edit, editing, rfl⟩ := exists_of_changeEdit revised
      refine .kept editing rfl ?_
      rw [Edit.length_insertAtCaret]
      exact Nat.le_add_right ..
  | acceptSuggestion function =>
      obtain ⟨edit, editing, rfl⟩ := exists_of_changeEditIf revised
      refine .replaced rfl editing ?_
      cases edit.nameContext? <;> rfl
  | cycleAnchors =>
      obtain ⟨edit, editing, rfl⟩ := exists_of_changeEditIf revised
      refine .replaced rfl editing ?_
      split
      · cases Draft.cycleAnchors? edit.text edit.caret <;> rfl
      · rfl
  | commit | commitAndMove => cases session.edit_commit.symm.trans revised
  | cancel => cases session.edit_cancel.symm.trans revised
  | deleteSheet index =>
      simp only [dispatch, deleteSheet] at revised
      split at revised
      · exact .kept revised rfl (Nat.le_refl _)
      · next remaining deletion =>
          obtain ⟨edit, editing, rfl⟩ := Option.map_eq_some_iff.mp revised
          split at editing
          · cases editing
          · exact .kept editing rfl (Nat.le_refl _)
  | moveSelection rows columns =>
      refine .of_eq ?_ revised
      simp only [dispatch, moveSelection]
      split <;> rfl
  | dismissSuggestions =>
      refine .of_eq ?_ revised
      simp only [dispatch, dismissSuggestions]
      split <;> rfl
  | setActiveSheet index =>
      refine .of_eq ?_ revised
      simp only [dispatch, setActiveSheet]
      split <;> rfl
  | addSheet | renameSheet => exact .of_eq (session.edit_pushIf _) revised
  | undo | redo => exact .of_eq (session.edit_travel _) revised

/-! ## Stranded compositions -/

/-- An event replaces text of the edit in progress and thereby leaves the start of its composition,
which was in the text, behind the end. -/
structure Strands (session : Session) (event : Event) (edit revision : Edit) : Prop where
  editing : session.edit = some edit
  revised : (session.after event).edit = some revision
  replaced : ∃ action : Action, action.replacesText = true ∧
    session.after event = (session.dispatch action).1
  composition : revision.composition = edit.composition
  inText : edit.ComposesInText
  behind : ¬revision.ComposesInText

/-- One of the events of a run strands the composition, and since then the edit has gone on with the
composition as it was. -/
def Stranded (session : Session) (events : List Event) : Prop :=
  ∃ before event after, events = before ++ event :: after ∧
    ∃ edit revision, (session.run before).Strands event edit revision ∧
      ∀ initial, initial <+: after → ∃ later,
        (session.run (before ++ event :: initial)).edit = some later ∧
          later.composition = revision.composition

theorem run_concat (session : Session) (events : List Event) (event : Event) :
    session.run (events ++ [event]) = (session.run events).after event :=
  session.run_append events [event]

theorem stranded_of_strands (strands : (session.run events).Strands event edit revision) :
    session.Stranded (events ++ [event]) := by
  refine ⟨events, event, [], rfl, edit, revision, strands, ?_⟩
  intro initial atMost
  rw [List.prefix_nil.mp atMost, run_concat]
  exact ⟨revision, strands.revised, rfl⟩

/-- A composition stays stranded as long as the edit goes on with it. -/
theorem Stranded.concat (stranded : start.Stranded events)
    (editing : (start.run events).edit = some edit)
    (revised : ((start.run events).after event).edit = some revision)
    (same : revision.composition = edit.composition) : start.Stranded (events ++ [event]) := by
  obtain ⟨before, stranding, after, rfl, earlier, left, strands, since⟩ := stranded
  refine ⟨before, stranding, after ++ [event], by simp, earlier, left, strands, ?_⟩
  intro initial atMost
  rcases List.prefix_concat_iff.mp atMost with whole | shorter
  · obtain ⟨later, found, kept⟩ := since after (List.prefix_refl after)
    obtain rfl := Option.some.inj (found.symm.trans editing)
    refine ⟨revision, ?_, same.trans kept⟩
    rw [whole, ← List.cons_append, ← List.append_assoc, run_concat]
    exact revised
  · exact since initial shorter

/-- What an event leaves is composed in its text, or was stranded by the event, or keeps the
composition of an edit that was stranded before. -/
theorem after_cases (revised : (session.after event).edit = some revision) :
    revision.ComposesInText ∨
      ∃ edit, session.edit = some edit ∧ revision.composition = edit.composition ∧
        (edit.ComposesInText → session.Strands event edit revision) := by
  by_cases inText : revision.ComposesInText
  · exact .inl inText
  -- Whether the action came by itself or from a key makes no difference from here on.
  have recomposes : ∀ action, session.after event = (session.dispatch action).1 →
      ∃ edit, session.edit = some edit ∧ revision.composition = edit.composition ∧
        (edit.ComposesInText → session.Strands event edit revision) := by
    intro action acts
    cases recomposes_dispatch (acts ▸ revised) with
    | anew setInText => exact absurd setInText inText
    | @kept edit editing same noShorter =>
        refine ⟨edit, editing, same, fun wasInText => absurd ?_ inText⟩
        unfold Edit.ComposesInText at *
        rw [same]
        exact Nat.le_trans wasInText noShorter
    | @replaced edit replaces editing same =>
        exact ⟨edit, editing, same, fun wasInText =>
          ⟨editing, revised, ⟨action, replaces, acts⟩, same, wasInText, inText⟩⟩
  right
  cases event with
  | act action => exact recomposes action rfl
  | press press =>
      rcases session.pressKey_eq press with ignored | ⟨action, acts⟩
      · have unchanged : session.after (.press press) = session := congrArg Prod.fst ignored
        rw [unchanged] at revised
        exact ⟨revision, revised, rfl, fun wasInText => absurd wasInText inText⟩
      · exact recomposes action (congrArg Prod.fst acts)

/-- A run from a session without an edit leaves a composition in the text or stranded. -/
theorem composesInText_or_stranded (idle : start.edit = none)
    (editing : (start.run events).edit = some edit) :
    edit.ComposesInText ∨ start.Stranded events := by
  -- From the end of the run: what strands a composition lies before the events that keep it.
  induction events using List.reverseRecOn generalizing edit with
  | nil => cases idle.symm.trans editing
  | append_singleton events event inductionHypothesis =>
      rw [run_concat] at editing
      rcases after_cases editing with inText | ⟨earlier, wasEditing, same, strands⟩
      · exact .inl inText
      · rcases inductionHypothesis wasEditing with wasInText | stranded
        · exact .inr (stranded_of_strands (strands wasInText))
        · exact .inr (stranded.concat wasEditing editing same)

/-- In a session, whatever has happened in it, the composition of an edit in progress starts in the
text, unless one of the actions that replace text has stranded it and it was not set again since.

Setting the composition always puts its start in the text. After an update of the text it is there
exactly if the new text reaches it. -/
theorem composition_in_text_unless_stranded (workbook : Workbook) (settings : Settings)
    (registry : List FunctionDefinition) (events : List Event) {edit : Edit} :
    let start := (Session.new workbook settings).withRegistry registry
    let session := start.run events
    session.edit = some edit →
      (edit.ComposesInText ∨ start.Stranded events) ∧
        (∀ composition, ∃ revision,
          (session.dispatch (.setComposition composition)).1.edit = some revision ∧
            revision.ComposesInText) ∧
        ∀ text caret selectionEnd, ∃ revision,
          (session.dispatch (.updateText text caret selectionEnd)).1.edit = some revision ∧
            (revision.ComposesInText ↔ edit.composition.start ≤ text.length) := by
  intro start session editing
  refine ⟨composesInText_or_stranded rfl editing, ?_, ?_⟩
  · intro composition
    refine ⟨edit.compose composition, ?_, edit.composesInText_compose composition⟩
    simp [dispatch, edit_changeEdit, editing]
  · intro text caret selectionEnd
    refine ⟨edit.replaceText text caret selectionEnd, ?_, Iff.rfl⟩
    simp [dispatch, edit_updateText, editing]

/-- The whole text of a formula is selected and typed over while its end is composed. -/
theorem composition_stranded_by_typing :
    let events : List Event := [.act (.enterEdit ⟨0, 0⟩ .replace (some '=')),
      .act (.insertReference "Sheet1!A1".toList), .act (.setComposition ⟨true, "k".toList, 99⟩),
      .act (.insertReference "+B2".toList), .act (.updateText "7".toList 1 1),
      .press ⟨.escape, false, false⟩]
    let start := (Session.new Workbook.new .default).withRegistry []
    (start.run events).edit.map (fun edit => (edit.composition.start, edit.text)) =
        some (10, "7".toList) ∧
      start.Stranded events := by
  intro events start
  obtain ⟨edit, editing⟩ : ∃ edit, (start.run events).edit = some edit :=
    Option.isSome_iff_exists.mp (by decide +kernel)
  have seen : (start.run events).edit.map (fun edit => (edit.composition.start, edit.text)) =
      some (10, "7".toList) := by decide +kernel
  have behind : ¬edit.ComposesInText := by
    rw [editing, Option.map_some, Option.some_inj, Prod.mk.injEq] at seen
    simp [Edit.ComposesInText, seen]
  exact ⟨seen, ((composition_in_text_unless_stranded Workbook.new .default [] events
    editing).1).resolve_left behind⟩

/-- Each of the three actions that replace text can leave the composition behind the end of the text:
an update with less text, a function's name that is shorter than what was typed of it, and a
reference that loses its marks. -/
theorem not_composesInText_after_replacement :
    let start := (Session.new Workbook.new .default).withRegistry []
    let composed (text : Text) : List Event := [.act (.enterEdit ⟨0, 0⟩ .enter none),
      .act (.updateText text text.length text.length),
      .act (.setComposition ⟨true, "k".toList, text.length⟩)]
    ∀ events ∈ [composed "abc".toList ++ [.act (.updateText [] 0 0)],
        composed "=SUMI".toList ++ [.act (.acceptSuggestion "N".toList)],
        composed "=$A1".toList ++ [.act .cycleAnchors]],
      ¬∀ edit, (start.run events).edit = some edit → edit.ComposesInText := by
  intro start composed
  have stranded : ∀ events ∈ [composed "abc".toList ++ [.act (.updateText [] 0 0)],
      composed "=SUMI".toList ++ [.act (.acceptSuggestion "N".toList)],
      composed "=$A1".toList ++ [.act .cycleAnchors]],
      (start.run events).edit.map (fun edit => decide edit.ComposesInText) = some false := by
    decide +kernel
  intro events member inText
  obtain ⟨edit, editing, behind⟩ := Option.map_eq_some_iff.mp (stranded events member)
  exact of_decide_eq_false behind (inText edit editing)

end Session

end SheetEditor
