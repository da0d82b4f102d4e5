import SheetEditor.Proofs.Draft.NameAtCaret
import SheetEditor.Proofs.Formula.LetterCase
import SheetEditor.Proofs.Session.Effect

/-!
Contract: what accepting a suggestion does to a session.

Owns: that suggestions are shown for what is typed of a name, that the first of them replaces exactly
that, and that no suggestions are shown afterwards.

The new text is scanned anew: whatever the function is called and whatever stands behind the caret,
nothing of a name is typed behind the parenthesis that comes with the name.
-/

namespace SheetEditor

variable {session : Session} {edit : Edit} {context : Draft.NameContext}
  {top definition : FunctionDefinition} {others : List FunctionDefinition}

namespace Draft

/-- What is suggested begins with what was asked for, letter case aside. -/
theorem prefix_of_mem_suggestions {registry : List FunctionDefinition} {query : Text} {limit : Nat}
    (suggested : definition ∈ suggestions registry query limit) :
    query.upper <+: definition.name.upper := by
  have ranked := List.mem_of_mem_take suggested
  rw [List.mem_mergeSort, List.mem_filter] at ranked
  exact List.isPrefixOf_iff_prefix.mp ranked.2

/-- Between two offsets of a text, acceptance leaves the name and a parenthesis. -/
theorem acceptSuggestion_eq {text : Text} {start caret : Nat} (ordered : start ≤ caret)
    (inText : caret ≤ text.length) (name : Text) :
    acceptSuggestion text start caret name =
      ⟨text.take start ++ name ++ '(' :: text.drop caret, start + name.length + 1⟩ := by
  simp [acceptSuggestion, Text.splice, Nat.min_eq_left ordered, Nat.min_eq_left inText,
    Nat.max_eq_right ordered, Nat.add_assoc]

end Draft

namespace Edit

theorem nameContext?_formula {body : Text} (isFormula : edit.text = '=' :: body) :
    edit.nameContext? =
      Draft.NameContext.ofTokens? edit.caret (Draft.Token.scanFrom 1 body) := by
  rw [nameContext?, analysis, isFormula, Draft.Analysis.tokens_ofText_formula]

theorem exists_body (isFormula : edit.isFormula = true) : ∃ body, edit.text = '=' :: body := by
  rw [Edit.isFormula, decide_eq_true_iff] at isFormula
  exact List.head?_eq_some_iff.mp isFormula

end Edit

namespace Session

/-! ## When suggestions are shown -/

/-- A name is completed only in a formula that is not being composed. -/
theorem nameContext?_eq_some (found : session.nameContext? = some context) :
    ∃ edit, session.edit = some edit ∧ edit.isFormula = true ∧
      edit.composition.isComposing = false ∧ edit.nameContext? = some context := by
  obtain ⟨edit, editing, found⟩ := Option.bind_eq_some_iff.mp found
  split at found
  · cases found
  · next shown =>
      simp only [Bool.or_eq_true, Bool.not_eq_true', not_or, Bool.not_eq_false,
        Bool.not_eq_true] at shown
      exact ⟨edit, editing, shown.1.1, shown.1.2, found⟩

/-- A suggestion belongs to a name of which something is typed. -/
theorem mem_suggestions (suggested : definition ∈ session.suggestions) :
    ∃ context, session.nameContext? = some context ∧ context.shouldOpen = true ∧
      definition ∈ Draft.suggestions session.registry context.query
        session.settings.autocompleteLimit := by
  unfold suggestions at suggested
  split at suggested
  · next context found =>
      split at suggested
      · next opens => exact ⟨context, found, opens, suggested⟩
      · cases suggested
  · cases suggested

/-- Nothing is suggested with the caret right behind an opening parenthesis. -/
theorem suggestions_behind_opening {before after : Text} (editing : session.edit = some edit)
    (textEq : edit.text = before ++ '(' :: after) (caretEq : edit.caret = before.length + 1) :
    session.suggestions = [] := by
  rw [List.eq_nil_iff_forall_not_mem]
  intro definition suggested
  obtain ⟨context, shown, opens, -⟩ := mem_suggestions suggested
  obtain ⟨current, editingCurrent, isFormula, -, found⟩ := nameContext?_eq_some shown
  obtain rfl := Option.some.inj (editing.symm.trans editingCurrent)
  obtain ⟨body, formula⟩ := Edit.exists_body isFormula
  rw [Edit.nameContext?_formula formula, caretEq] at found
  cases before with
  | nil => cases formula.symm.trans textEq
  | cons first before =>
      cases formula.symm.trans textEq
      rw [Draft.NameContext.shouldOpen_behind_opening found] at opens
      cases opens

/-! ## Acceptance by key -/

/-- With suggestions shown, the tabulator accepts the first one, if the shift key is up. -/
theorem pressKey_tab (editing : session.edit = some edit)
    (notComposing : edit.composition.isComposing = false)
    (shown : session.suggestions = top :: others) (control : Bool) :
    session.pressKey ⟨.tab, false, control⟩ = session.acceptSuggestion top.name := by
  simp [pressKey, KeyPress.command?, KeyPress.plainCommand?, shown, editing, notComposing,
    actionOf?, dispatch]

/-- The tabulator completes a name and closes the suggestions. While suggestions are shown, a name has
been typed from its start up to the caret, which lies behind the start, and the first suggestion
begins with what has been typed, letter case aside. The press puts the name of that function and an
opening parenthesis in its place and the caret behind them, with nothing selected; nothing else of the
session changes. Then no suggestions are shown. -/
theorem tab_accepts_first_suggestion (shown : session.suggestions = top :: others)
    (control : Bool) :
    ∃ edit context, session.edit = some edit ∧ session.nameContext? = some context ∧
      context.start < edit.caret ∧ edit.caret ≤ edit.text.length ∧
      (edit.text.slice context.start edit.caret).upper <+: top.name.upper ∧
      let caret := context.start + top.name.length + 1
      let accepted := { session with
        edit := some { edit with
          text := edit.text.take context.start ++ top.name ++ '(' :: edit.text.drop edit.caret
          caret := caret
          selectionEnd := caret } }
      session.pressKey ⟨.tab, false, control⟩ = (accepted, true) ∧ accepted.suggestions = [] := by
  have suggested : top ∈ session.suggestions := shown ▸ List.mem_cons_self
  obtain ⟨context, named, opens, offered⟩ := mem_suggestions suggested
  obtain ⟨edit, editing, isFormula, notComposing, found⟩ := nameContext?_eq_some named
  obtain ⟨body, formula⟩ := Edit.exists_body isFormula
  have scanned := (Edit.nameContext?_formula formula).symm.trans found
  obtain ⟨-, inText, query⟩ := Draft.NameContext.query_eq_slice scanned
  have begun := Draft.NameContext.start_lt_of_shouldOpen scanned opens
  rw [← formula] at inText query
  refine ⟨edit, context, editing, named, begun, inText, ?_, ?_, ?_⟩
  · have begins := Draft.prefix_of_mem_suggestions offered
    rwa [query, Text.upper_upper] at begins
  · rw [pressKey_tab editing notComposing shown]
    simp [acceptSuggestion, changeEditIf, editing, found, Edit.apply, accept,
      Draft.acceptSuggestion_eq begun.le inText]
  · refine suggestions_behind_opening rfl rfl ?_
    simp only [List.length_append, List.length_take]
    omega

/-- A function whose name has quotes in it, between a name that is typed and a reference. -/
theorem tab_accepts_quoted_name :
    let quoted : FunctionDefinition := ⟨"Su'm\"".toList, none⟩
    let start := (Session.new Workbook.new .default).withRegistry [⟨"SQRT".toList, none⟩, quoted]
    let session := start.run [.press ⟨.character '=', false, false⟩,
      .act (.updateText "=2*su+A1".toList 5 5)]
    let completed := (session.pressKey ⟨.tab, false, false⟩).1
    session.suggestions = [quoted] ∧
      completed.edit.map (fun edit => (edit.text, edit.caret)) =
        some ("=2*Su'm\"(+A1".toList, 9) ∧
      completed.suggestions = [] := by
  intro quoted start session completed
  have typed : session.nameContext? = some ⟨"SU".toList, 3⟩ := by decide +kernel
  have offered : session.registry.filter (Draft.matchesQuery (Text.upper "SU".toList)) = [quoted] := by
    decide +kernel
  have shown : session.suggestions = [quoted] := by
    rw [suggestions, typed]
    simp only [Draft.suggestions, offered, List.mergeSort_singleton]
    decide +kernel
  have drafted : session.edit.map (fun edit => (edit.text, edit.caret)) =
      some ("=2*su+A1".toList, 5) := by
    decide +kernel
  obtain ⟨edit, context, editing, named, -, -, -, pressed, closed⟩ :=
    tab_accepts_first_suggestion shown false
  obtain rfl := Option.some.inj (typed.symm.trans named)
  rw [editing, Option.map_some, Option.some_inj, Prod.mk.injEq] at drafted
  obtain ⟨text, caret⟩ := drafted
  simp only [completed, pressed]
  exact ⟨shown, by simp [text, caret, quoted], closed⟩

end Session

end SheetEditor
