import SheetEditor.Draft.Analysis
import SheetEditor.Draft.Completion
import SheetEditor.Proofs.Draft.CellPlaces
import SheetEditor.Proofs.Draft.Outline
import SheetEditor.Proofs.Draft.Tiling

/-!
Contract: the partial name at the caret of a formula.

Owns: that the name is what stands in the text between its start and the caret, that no token which
can begin a name contains a parenthesis, and that nothing of a name is typed right behind an opening
parenthesis, whatever the text around it is.

Does not own: which functions are offered for a name (`SheetEditor.Draft.Completion`).
-/

namespace SheetEditor.Draft

variable {text body following : Text} {first : Char} {start caret : Nat} {tokens : List Token}
  {context : NameContext}

/-! ## Tokens that can begin a name -/

theorem NameContext.touches_iff {token : Token} :
    touches caret token = true ↔
      token.start ≤ caret ∧ caret ≤ token.start + token.text.length := by
  rw [touches, Bool.and_eq_true, decide_eq_true_iff, decide_eq_true_iff, Token.stop]

namespace Token

/-- The quote of a sheet name that no exclamation mark completes is a token by itself. -/
theorem classify_unqualified_quote
    (unqualified : qualifierLength? (SheetName.quote :: following) = none) :
    classify SheetName.quote following = (.error, 0) := by
  have noArea : areaLength? (SheetName.quote :: following) = none := by
    rw [areaLength?_of_not_isAlpha rfl (by decide), pairLength?, rowLength?_of_ne (by decide)]
    rfl
  have noReference : referenceRule (SheetName.quote :: following) = none := by
    simp [referenceRule, referenceLength?, unqualified, noArea]
  have noName : identifierRule (SheetName.quote :: following) = none := by
    have notLetter : SheetName.quote.isAlpha = false := rfl
    simp [identifierRule, identifierLength?_eq_none_of_ne notLetter (by decide)]
  unfold classify
  rw [findSome?_of_unqualified (by decide) unqualified, noReference, noName,
    numberRule_eq_none rfl (by decide), longOperatorRule_eq_none (by decide) (by decide)]
  rfl

/-- Parentheses, commas and strings begin no name, nor does a quoted sheet name. -/
theorem isPlain_of_isNameCandidate
    (candidate : (⟨(classify first following).1, first :: following.take (classify first following).2,
      start⟩ : Token).isNameCandidate = true) : Text.isPlain first = true := by
  by_contra special
  rw [Text.isPlain, Bool.not_eq_true, Bool.not_eq_false', List.contains_iff_mem] at special
  simp only [List.mem_cons, List.not_mem_nil, or_false] at special
  have alone (alone : standsAlone first = true) (notLess : first ≠ '<') (notGreater : first ≠ '>') :
      classify first following = (punctuationKind first, 0) :=
    classify_of_standsAlone alone (longOperatorRule_eq_none notLess notGreater)
  rcases special with rfl | rfl | rfl | rfl | rfl
  · rw [alone rfl (by decide) (by decide)] at candidate
    cases candidate
  · rw [alone rfl (by decide) (by decide)] at candidate
    cases candidate
  · rw [alone rfl (by decide) (by decide)] at candidate
    cases candidate
  · rw [classify_quote] at candidate
    cases candidate
  · cases qualified : qualifierLength? (SheetName.quote :: following) with
    | none =>
        rw [classify_unqualified_quote qualified] at candidate
        cases candidate
    | some qualifier =>
        have mark := mark_mem_of_qualifierLength? qualified
        rw [classify_qualifier qualified] at candidate mark
        simp only [isNameCandidate, Bool.not_eq_true', List.any_eq_false] at candidate
        exact candidate '!' mark (by decide)

/-- A token that can begin a name has no parenthesis in it. -/
theorem opening_notMem_of_isNameCandidate {token : Token} (scanned : token ∈ scanFrom start text)
    (candidate : token.isNameCandidate = true) : '(' ∉ token.text := by
  induction text using scan_induction generalizing start with
  | nil =>
      rw [scanFrom_nil] at scanned
      cases scanned
  | cons first following inductionHypothesis =>
      rw [scanFrom_cons] at scanned
      cases List.mem_cons.mp scanned with
      | inl isFirst =>
          subst isFirst
          have plain := isPlain_of_isNameCandidate candidate
          have allPlain : ∀ character ∈ first :: following.take (classify first following).2,
              Text.isPlain character = true :=
            List.forall_mem_cons.mpr ⟨plain, classify_staysPlain plain following⟩
          intro opening
          cases allPlain _ opening
      | inr isLater => exact inductionHypothesis isLater

/-- Right behind an opening parenthesis, a token that can begin a name and touches the caret begins
there. -/
theorem start_eq_of_behind_opening {before after : Text} {token : Token}
    (scanned : token ∈ scanFrom start (before ++ '(' :: after))
    (candidate : token.isNameCandidate = true)
    (atCaret : NameContext.touches (start + before.length + 1) token = true) :
    token.start = start + before.length + 1 := by
  have noOpening := opening_notMem_of_isNameCandidate scanned candidate
  obtain ⟨-, front, back, around, startEq⟩ := (tiles_scanFrom _ _).exists_around scanned
  rw [NameContext.touches_iff] at atCaret
  by_contra different
  -- The token would have to cover the parenthesis.
  have inside : before.length - front.length < token.text.length := by omega
  have atOpening : token.text[before.length - front.length]? = some '(' := by
    have located := congrArg (·[before.length]?) around
    simp only [List.append_assoc] at located
    rw [List.getElem?_append_right (Nat.le_refl _), List.getElem?_append_right (by omega),
      List.getElem?_append_left inside, Nat.sub_self] at located
    exact located.symm
  exact noOpening (List.mem_of_getElem? atOpening)

end Token

/-! ## The partial name -/

/-- The tokens of a formula are those of its body from offset one on. -/
theorem Analysis.tokens_ofText_formula (body : Text) (caret : Nat) :
    (Analysis.ofText ('=' :: body) caret).tokens = Token.scanFrom 1 body :=
  Token.map_shift_scanAll body

namespace NameContext

/-- A partial name is that of a token at the caret. -/
theorem exists_token (found : ofTokens? caret tokens = some context) :
    ∃ token ∈ tokens, token.isNameCandidate = true ∧ touches caret token = true ∧
      context = ⟨Text.upper (token.text.take (caret - token.start)), token.start⟩ := by
  induction tokens with
  | nil => cases found
  | cons token rest inductionHypothesis =>
      rw [ofTokens?] at found
      split at found
      · next atCaret =>
          split at found
          · cases found
          · cases found
            rw [Bool.and_eq_true] at atCaret
            exact ⟨token, List.mem_cons_self, atCaret.1, atCaret.2, rfl⟩
      · obtain ⟨token, member, isFound⟩ := inductionHypothesis found
        exact ⟨token, List.mem_cons_of_mem _ member, isFound⟩

/-- The name is what stands in the text from its start up to the caret. -/
theorem query_eq_slice (found : ofTokens? caret (Token.scanFrom 1 body) = some context) :
    context.start ≤ caret ∧ caret ≤ ('=' :: body).length ∧
      context.query = Text.upper (Text.slice ('=' :: body) context.start caret) := by
  obtain ⟨token, scanned, -, atCaret, rfl⟩ := exists_token found
  obtain ⟨-, before, after, rfl, startEq⟩ := (Token.tiles_scanFrom 1 body).exists_around scanned
  obtain ⟨begun, inside⟩ := touches_iff.mp atCaret
  refine ⟨begun, ?_, ?_⟩
  · simp only [List.length_cons, List.length_append]
    omega
  · have dropped : ('=' :: (before ++ token.text ++ after)).drop token.start = token.text ++ after := by
      rw [startEq, Nat.add_comm, List.drop_succ_cons, List.append_assoc, List.drop_left]
    have typed : caret - token.start ≤ token.text.length := by omega
    show _ = Text.upper (List.take (caret - token.start) (List.drop token.start _))
    rw [dropped, List.take_append_of_le_length typed]

/-- A name of which something is typed starts before the caret. -/
theorem start_lt_of_shouldOpen (found : ofTokens? caret (Token.scanFrom 1 body) = some context)
    (opens : context.shouldOpen = true) : context.start < caret := by
  obtain ⟨begun, -, query⟩ := query_eq_slice found
  refine Nat.lt_of_le_of_ne begun fun same => ?_
  rw [same, Text.slice, Nat.sub_self, List.take_zero] at query
  rw [shouldOpen, query] at opens
  cases opens

/-- Right behind an opening parenthesis nothing of a name is typed yet. -/
theorem shouldOpen_behind_opening {before after : Text}
    (found : ofTokens? (before.length + 2) (Token.scanFrom 1 (before ++ '(' :: after)) =
      some context) : context.shouldOpen = false := by
  obtain ⟨token, scanned, candidate, atCaret, rfl⟩ := exists_token found
  have caretEq : before.length + 2 = 1 + before.length + 1 := by omega
  rw [caretEq] at atCaret ⊢
  rw [Token.start_eq_of_behind_opening scanned candidate atCaret, Nat.sub_self, List.take_zero]
  rfl

end NameContext

end SheetEditor.Draft
