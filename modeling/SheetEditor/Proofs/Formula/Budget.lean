import SheetEditor.Formula.Parser
import SheetEditor.Proofs.Formula.Soundness

/-!
Contract: what the budget of a descent changes.

Owns: which tokens fit a budget, and every reader of the descent within one budget side by side with
the same reader within a larger one.

The two readers agree as long as the tokens fit the smaller budget, whatever the tokens are. Where
they do not agree, the reader within the smaller budget is exhausted, and the tokens do not fit. What
is read leads from a place where an operand is awaited to a place behind one, inside the same number of
brackets.

Does not own: what it means for accepted tokens not to fit
(`SheetEditor.Proofs.Formula.NestingLimit`).
-/

namespace SheetEditor.Formula

open Descent (Budget)

variable {budget : Budget} {tokens rest : List Token} {depth signs : Nat}

/-! ## Tokens that fit a budget -/

namespace Nesting

variable {nesting : Nesting}

/-- The counts are within a budget. -/
def Within (budget : Budget) (nesting : Nesting) : Prop :=
  nesting.brackets ≤ budget.brackets ∧ nesting.signs ≤ budget.signs

/-- The counts stay within a budget along tokens. -/
def Fits (budget : Budget) (nesting : Nesting) : List Token → Prop
  | [] => True
  | token :: rest =>
      (nesting.advance token).Within budget ∧ (nesting.advance token).Fits budget rest

def advanceAll (nesting : Nesting) (tokens : List Token) : Nesting := tokens.foldl advance nesting

theorem fits_append {before after : List Token} :
    nesting.Fits budget (before ++ after) ↔
      nesting.Fits budget before ∧ (nesting.advanceAll before).Fits budget after := by
  induction before generalizing nesting with
  | nil => exact (true_and _).to_iff.symm
  | cons token before inductionHypothesis =>
      rw [List.cons_append, Fits, inductionHypothesis, Fits, and_assoc]
      rfl

/-- Where an operand is awaited, behind so many signs. -/
abbrev awaiting (depth signs : Nat) : Nesting := ⟨depth, signs, false⟩

/-- Behind an operand. -/
abbrev behind (depth : Nat) : Nesting := ⟨depth, 0, true⟩

/-- Behind an operand, every operator is a binary one. -/
theorem advance_behind_operator (depth : Nat) (operator : BinaryOperator) :
    (behind depth).advance (.operator operator) = awaiting depth 0 := by
  simp [advance, Token.opensBracket, Token.closesBracket, Token.endsOperand]

/-- No list has more brackets and signs than tokens. -/
theorem fits_of_length_le (brackets : nesting.brackets + tokens.length ≤ budget.brackets)
    (signs : nesting.signs + tokens.length ≤ budget.signs) : nesting.Fits budget tokens := by
  induction tokens generalizing nesting with
  | nil => exact trivial
  | cons token rest inductionHypothesis =>
      rw [List.length_cons] at brackets signs
      have fewBrackets : (nesting.advance token).brackets ≤ nesting.brackets + 1 := by
        dsimp only [advance]
        split
        · exact Nat.le_refl _
        · split <;> omega
      have fewSigns : (nesting.advance token).signs ≤ nesting.signs + 1 := by
        dsimp only [advance]
        split <;> omega
      exact ⟨⟨by omega, by omega⟩, inductionHypothesis (by omega) (by omega)⟩

/-- The limits on nesting are a budget. -/
theorem staysWithinLimit_iff :
    nesting.staysWithinLimit tokens = true ↔ nesting.Fits ⟨nestingLimit, nestingLimit⟩ tokens := by
  induction tokens generalizing nesting with
  | nil => exact iff_of_true rfl trivial
  | cons token rest inductionHypothesis =>
      rw [staysWithinLimit, Fits, Bool.and_eq_true, inductionHypothesis, isWithinLimit,
        Bool.and_eq_true, decide_eq_true_iff, decide_eq_true_iff, Within]

end Nesting

/-- The tokens of a reference are within every budget. -/
theorem Refers.fits {sheet : Option Text} {value : Expr} (refers : Refers sheet tokens value)
    (allowed : depth ≤ budget.brackets) :
    (Nesting.awaiting depth signs).Fits budget tokens ∧
      (Nesting.awaiting depth signs).advanceAll tokens = .behind depth := by
  have within (afterOperand : Bool) : Nesting.Within budget ⟨depth, 0, afterOperand⟩ :=
    ⟨allowed, Nat.zero_le _⟩
  cases refers with
  | cell => exact ⟨⟨within _, trivial⟩, rfl⟩
  | range | columns | rows => exact ⟨⟨within _, within _, within _, trivial⟩, rfl⟩

namespace Descent

open Nesting (Within Fits advanceAll awaiting behind)

/-! ## Two outcomes, one within a larger budget -/

/-- The outcomes of a reader within a budget and of the same reader within a larger one. Either the
tokens do not fit the budget, and the reader is exhausted; or the outcomes are the same, and what is
read fits and leads from one place to another. -/
inductive Bounded (budget : Budget) (start final : Nesting) (tokens : List Token) {α : Type} :
    Except Failure (α × List Token) → Except Failure (α × List Token) → Prop where
  | exceeded (larger : Except Failure (α × List Token)) (exceeds : ¬start.Fits budget tokens) :
      Bounded budget start final tokens (.error .exhausted) larger
  | failed {failure : Failure} (other : failure ≠ .exhausted) :
      Bounded budget start final tokens (.error failure) (.error failure)
  | read (value : α) {used rest : List Token} (split : tokens = used ++ rest)
      (fits : start.Fits budget used) (leads : start.advanceAll used = final) :
      Bounded budget start final tokens (.ok (value, rest)) (.ok (value, rest))

namespace Bounded

variable {start middle final : Nesting} {α β : Type} {small large : Except Failure (α × List Token)}

/-- What follows tokens that fit. -/
theorem prepend {before after : List Token} (fits : start.Fits budget before)
    (later : Bounded budget (start.advanceAll before) final after small large) :
    Bounded budget start final (before ++ after) small large := by
  cases later with
  | exceeded _ exceeds =>
      exact .exceeded _ fun all => exceeds (Nesting.fits_append.mp all).2
  | failed other => exact .failed other
  | @read value used rest split fitsUsed leads =>
      have whole : before ++ after = (before ++ used) ++ rest := by rw [split, List.append_assoc]
      refine .read value whole (Nesting.fits_append.mpr ⟨fits, fitsUsed⟩) ?_
      rw [advanceAll, List.foldl_append]
      exact leads

theorem cons {token : Token} (within : (start.advance token).Within budget)
    (later : Bounded budget (start.advance token) final rest small large) :
    Bounded budget start final (token :: rest) small large := by
  rw [← List.singleton_append]
  exact prepend ⟨within, trivial⟩ later

/-- Nothing more is read. -/
theorem done (value : α) :
    Bounded budget start start tokens (.ok (value, tokens)) (.ok (value, tokens)) :=
  .read value (List.nil_append tokens).symm trivial rfl

/-- One step and then another one on the tokens that it leaves. -/
theorem bind {next nextLarge : α × List Token → Except Failure (β × List Token)}
    (first : Bounded budget start middle tokens small large)
    (later : ∀ value used rest, tokens = used ++ rest →
      Bounded budget middle final rest (next (value, rest)) (nextLarge (value, rest))) :
    Bounded budget start final tokens (small >>= next) (large >>= nextLarge) := by
  cases first with
  | exceeded _ exceeds => exact .exceeded _ exceeds
  | failed other => exact .failed other
  | @read value used rest split fits leads =>
      subst split
      exact prepend fits (leads ▸ later value used rest rfl)

/-- Tokens that fit are not too many, and a larger budget changes nothing. -/
theorem eq_of_fits (bounded : Bounded budget start final tokens small large)
    (fits : start.Fits budget tokens) : small = large ∧ small ≠ .error .exhausted := by
  cases bounded with
  | exceeded _ exceeds => exact absurd fits exceeds
  | failed other => exact ⟨rfl, fun same => other (Except.error.inj same)⟩
  | read => exact ⟨rfl, by simp⟩

/-- Tokens that the larger budget reads whole and that do not fit exhaust the smaller one. -/
theorem exhausted_of_not_fits {value : α} (bounded : Bounded budget start final tokens small large)
    (whole : large = .ok (value, [])) (exceeds : ¬start.Fits budget tokens) :
    small = .error .exhausted := by
  subst whole
  cases bounded with
  | exceeded => rfl
  | read _ split fits _ => exact absurd (by rwa [split, List.append_nil]) exceeds

end Bounded

/-- Two readers of which the second has a larger budget, where an operand is awaited. -/
def BoundedFrom (budget : Budget) (depth signs : Nat) (small large : Reader) : Prop :=
  ∀ tokens, Bounded budget (awaiting depth signs) (behind depth) tokens (small tokens) (large tokens)

variable {small large : Reader} {largeSigns : Nat}

/-! ## Signs, percent marks and chains of operators -/

theorem withPercents_fits (allowed : depth ≤ budget.brackets) (operand : Expr)
    (tokens : List Token) :
    ∃ used, tokens = used ++ (withPercents operand tokens).2 ∧ (behind depth).Fits budget used ∧
      (behind depth).advanceAll used = behind depth := by
  induction operand, tokens using withPercents.induct with
  | case1 operand rest inductionHypothesis =>
      obtain ⟨used, split, fits, leads⟩ := inductionHypothesis
      rw [withPercents]
      exact ⟨.percent :: used, congrArg (List.cons _) split, ⟨⟨allowed, Nat.zero_le _⟩, fits⟩, leads⟩
  | case2 operand tokens notPercent =>
      rw [withPercents]
      · exact ⟨[], rfl, trivial, rfl⟩
      · exact notPercent

/-- A run of signs exceeds what is left of the limit, or is read in the same way within a larger
one. -/
theorem readSigns_bounded {limit largeLimit : Nat} (allowed : depth ≤ budget.brackets)
    (left : signs + limit = budget.signs) (larger : limit ≤ largeLimit) (tokens : List Token) :
    (readSigns limit tokens = none ∧ ¬(awaiting depth signs).Fits budget tokens) ∨
      ∃ minuses used rest more, readSigns limit tokens = some (minuses, rest) ∧
        readSigns largeLimit tokens = some (minuses, rest) ∧ tokens = used ++ rest ∧
        (awaiting depth signs).Fits budget used ∧
        (awaiting depth signs).advanceAll used = awaiting depth more := by
  -- One more sign takes one from what is left of the limit.
  have within {signs limit : Nat} (left : signs + (limit + 1) = budget.signs) :
      (awaiting depth (signs + 1)).Within budget := ⟨allowed, show signs + 1 ≤ budget.signs by omega⟩
  have tooMany {signs : Nat} (full : signs + 0 = budget.signs) :
      ¬(awaiting depth (signs + 1)).Within budget := fun within =>
    Nat.not_succ_le_self signs (Nat.le_trans within.2 (Nat.le_of_eq full.symm))
  induction limit, tokens using readSigns.induct generalizing signs largeLimit with
  | case1 rest | case3 rest => exact .inl ⟨rfl, fun fits => tooMany left fits.1⟩
  | case2 rest limit inductionHypothesis =>
      obtain ⟨largeLimit, rfl⟩ := Nat.exists_eq_add_of_lt larger
      have leftAfter : signs + 1 + limit = budget.signs := by omega
      rcases inductionHypothesis leftAfter (Nat.le_add_right limit largeLimit)
        with ⟨unread, exceeds⟩ | ⟨minuses, used, after, more, read, readLarge, rfl, fits, leads⟩
      · exact .inl ⟨unread, fun fits => exceeds fits.2⟩
      · exact .inr ⟨minuses, _ :: used, after, more, read, readLarge, rfl, ⟨within left, fits⟩, leads⟩
  | case4 rest limit inductionHypothesis =>
      obtain ⟨largeLimit, rfl⟩ := Nat.exists_eq_add_of_lt larger
      have leftAfter : signs + 1 + limit = budget.signs := by omega
      rcases inductionHypothesis leftAfter (Nat.le_add_right limit largeLimit)
        with ⟨unread, exceeds⟩ | ⟨minuses, used, after, more, read, readLarge, rfl, fits, leads⟩
      · exact .inl ⟨by rw [readSigns, unread]; rfl, fun fits => exceeds fits.2⟩
      · exact .inr ⟨minuses + 1, _ :: used, after, more, by rw [readSigns, read]; rfl,
          by rw [readSigns, readLarge]; rfl, rfl, ⟨within left, fits⟩, leads⟩
  | case5 limit tokens notPlus notMinus =>
      have unread (limit : Nat) : readSigns limit tokens = some (0, tokens) := by
        rw [readSigns]
        · exact notPlus
        · exact notMinus
      exact .inr ⟨0, [], tokens, signs, unread _, unread _, rfl, trivial, rfl⟩

theorem signed_bounded (allowed : depth ≤ budget.brackets) (larger : budget.signs ≤ largeSigns)
    (operands : ∀ signs, BoundedFrom budget depth signs small large) :
    BoundedFrom budget depth 0 (signed budget.signs small) (signed largeSigns large) := by
  intro tokens
  rcases readSigns_bounded allowed (Nat.zero_add _) larger tokens
    with ⟨unread, exceeds⟩ | ⟨minuses, used, after, more, read, readLarge, rfl, fits, leads⟩
  · rw [signed, unread]
    exact .exceeded _ exceeds
  · simp only [signed, read, readLarge]
    refine .prepend fits (leads ▸ (operands more after).bind fun value used rest _ => ?_)
    obtain ⟨percents, split, fitsPercents, leadsPercents⟩ := withPercents_fits allowed value rest
    exact .read _ split fitsPercents leadsPercents

theorem chainFrom_bounded {level : Binding} (allowed : depth ≤ budget.brackets)
    (operands : BoundedFrom budget depth 0 small large) (steps : List Token) (left : Expr)
    (tokens : List Token) :
    Bounded budget (behind depth) (behind depth) tokens (chainFrom level small steps left tokens)
      (chainFrom level large steps left tokens) := by
  induction steps, left, tokens using chainFrom.induct level with
  | case1 _ steps left operator rest binds inductionHypothesis =>
      simp only [chainFrom, if_pos binds]
      have binary := Nesting.advance_behind_operator depth operator
      refine .cons (binary ▸ ⟨allowed, Nat.zero_le _⟩) (binary ▸ ?_)
      exact (operands rest).bind fun right _ after _ => inductionHypothesis right after
  | case2 _ steps left operator rest other =>
      simp only [chainFrom, if_neg other]
      exact .done left
  | case3 steps left tokens stops =>
      rw [chainFrom, chainFrom]
      · exact .done left
      · exact stops
      · exact stops

theorem chain_bounded (level : Binding) (allowed : depth ≤ budget.brackets)
    (operands : BoundedFrom budget depth 0 small large) :
    BoundedFrom budget depth 0 (chain level small) (chain level large) := fun tokens =>
  (operands tokens).bind fun left _ rest _ => chainFrom_bounded allowed operands rest left rest

theorem expression_bounded (allowed : depth ≤ budget.brackets) (larger : budget.signs ≤ largeSigns)
    (operands : ∀ signs, BoundedFrom budget depth signs small large) :
    BoundedFrom budget depth 0 (expression budget.signs small) (expression largeSigns large) :=
  chain_bounded _ allowed <| chain_bounded _ allowed <| chain_bounded _ allowed <|
    chain_bounded _ allowed <| chain_bounded _ allowed <| signed_bounded allowed larger operands

/-! ## Brackets -/

theorem group_bounded (allowed : depth + 1 ≤ budget.brackets)
    (inside : BoundedFrom budget (depth + 1) 0 small large) (tokens : List Token) :
    Bounded budget (awaiting (depth + 1) 0) (behind depth) tokens (group small tokens)
      (group large tokens) := by
  refine (inside tokens).bind fun value _ rest _ => ?_
  cases rest with
  | nil => exact .failed (by simp)
  | cons token rest =>
      cases token with
      | closeParenthesis => exact .cons ⟨Nat.le_of_succ_le allowed, Nat.zero_le _⟩ (.done value)
      | _ => exact .failed (by simp)

theorem arguments_bounded (allowed : depth + 1 ≤ budget.brackets)
    (inside : BoundedFrom budget (depth + 1) 0 small large) {steps tokens : List Token}
    (enough : tokens.length ≤ steps.length) :
    Bounded budget (awaiting (depth + 1) 0) (behind depth) tokens (arguments small steps tokens)
      (arguments large steps tokens) := by
  have closed : Within budget (behind depth) := ⟨Nat.le_of_succ_le allowed, Nat.zero_le _⟩
  have separated : Within budget (awaiting (depth + 1) 0) := ⟨allowed, Nat.zero_le _⟩
  induction steps, tokens using arguments.induct with
  | case1 steps =>
      rw [arguments, arguments]
      exact .failed (by simp)
  | case2 steps rest =>
      rw [arguments, arguments]
      exact .cons closed (.done _)
  | case3 _ steps rest inductionHypothesis | case4 _ steps rest inductionHypothesis =>
      rw [arguments, arguments]
      have later := inductionHypothesis (Nat.le_of_succ_le_succ enough)
      exact .cons separated (later.bind fun others _ after _ => .done _)
  | case5 _ steps tokens notEnd notClosed notComma notSemicolon inductionHypothesis =>
      rw [arguments, arguments]
      · refine (inside tokens).bind fun first used rest split => ?_
        cases rest with
        | nil => exact .failed (by simp)
        | cons token rest =>
            have fewer : rest.length ≤ steps.length := by
              rw [split, List.length_append, List.length_cons, List.length_cons] at enough
              omega
            cases token with
            | closeParenthesis => exact .cons closed (.done _)
            | comma | semicolon =>
                exact .cons separated
                  ((inductionHypothesis rest fewer).bind fun others _ after _ => .done _)
            | _ => exact .failed (by simp)
      all_goals assumption
  | case6 tokens notEnd notClosed =>
      exact absurd (List.length_eq_zero_iff.mp (Nat.le_zero.mp enough)) notEnd

theorem call_bounded (function : Text) (allowed : depth + 1 ≤ budget.brackets)
    (inside : BoundedFrom budget (depth + 1) 0 small large) (tokens : List Token) :
    Bounded budget (awaiting (depth + 1) 0) (behind depth) tokens (call function small tokens)
      (call function large tokens) := by
  have listed : Bounded budget (awaiting (depth + 1) 0) (behind depth) tokens
      (arguments small tokens tokens) (arguments large tokens tokens) :=
    arguments_bounded allowed inside (Nat.le_refl _)
  unfold call
  split
  · exact .cons ⟨Nat.le_of_succ_le allowed, Nat.zero_le _⟩ (.done _)
  · exact listed.bind fun values _ rest _ => .done _

theorem arrayRows_bounded (allowed : depth + 1 ≤ budget.brackets)
    (inside : BoundedFrom budget (depth + 1) 0 small large) {steps tokens : List Token}
    (enough : tokens.length < steps.length) :
    Bounded budget (awaiting (depth + 1) 0) (behind depth) tokens (arrayRows small steps tokens)
      (arrayRows large steps tokens) := by
  have closed : Within budget (behind depth) := ⟨Nat.le_of_succ_le allowed, Nat.zero_le _⟩
  have separated : Within budget (awaiting (depth + 1) 0) := ⟨allowed, Nat.zero_le _⟩
  induction steps, tokens using arrayRows.induct with
  | case1 _ steps tokens inductionHypothesis =>
      rw [arrayRows, arrayRows]
      refine (inside tokens).bind fun first used rest split => ?_
      cases rest with
      | nil => exact .failed (by simp)
      | cons token rest =>
          have fewer : rest.length < steps.length := by
            rw [split, List.length_append, List.length_cons, List.length_cons] at enough
            omega
          cases token with
          | closeBrace => exact .cons closed (.done _)
          | comma | semicolon =>
              exact .cons separated
                ((inductionHypothesis rest fewer).bind fun rows _ after _ => .done _)
          | _ => exact .failed (by simp)
  | case2 tokens => cases enough

theorem array_bounded (allowed : depth + 1 ≤ budget.brackets)
    (inside : BoundedFrom budget (depth + 1) 0 small large) (tokens : List Token) :
    Bounded budget (awaiting (depth + 1) 0) (behind depth) tokens (array small (.openBrace :: tokens))
      (array large (.openBrace :: tokens)) :=
  (arrayRows_bounded allowed inside (Nat.lt_succ_self tokens.length)).bind
    fun _ _ _ _ => .done _

/-! ## Operands -/

theorem reference_ne_exhausted (sheet : Option Text) (tokens : List Token) :
    reference sheet tokens ≠ .error .exhausted := by
  intro exhausted
  unfold reference at exhausted
  split at exhausted
  · cases exhausted
  · cases exhausted
  · split at exhausted <;> cases exhausted
  · cases exhausted
  · cases exhausted

/-- A reference where there is one, and something else otherwise. -/
theorem reference_or_bounded (allowed : depth ≤ budget.brackets) (sheet : Option Text)
    {otherwise : Except Failure (Expr × List Token)}
    (other : Bounded budget (awaiting depth signs) (behind depth) tokens otherwise otherwise) :
    let outcome := do
      match ← reference sheet tokens with
      | some found => return found
      | none => otherwise
    Bounded budget (awaiting depth signs) (behind depth) tokens outcome outcome := by
  intro outcome
  cases read : reference sheet tokens with
  | error failure =>
      simp only [outcome, read]
      exact .failed fun same => reference_ne_exhausted sheet tokens (same ▸ read)
  | ok found =>
      simp only [outcome, read]
      cases found with
      | none => exact other
      | some found =>
          obtain ⟨value, rest⟩ := found
          obtain ⟨used, split, refers⟩ := reference_sound read
          obtain ⟨fits, leads⟩ := refers.fits allowed
          exact .read value split fits leads

theorem bareIdentifier_bounded (allowed : depth ≤ budget.brackets) (name : Text)
    (rest : List Token) :
    Bounded budget (awaiting depth signs) (behind depth) (.identifier name :: rest)
      (bareIdentifier name rest) (bareIdentifier name rest) := by
  have single (value : Expr) : Bounded budget (awaiting depth signs) (behind depth)
      (.identifier name :: rest) (.ok (value, rest)) (.ok (value, rest)) :=
    .cons ⟨allowed, Nat.zero_le _⟩ (.done value)
  unfold bareIdentifier
  split
  · exact single _
  · split
    · exact single _
    · refine reference_or_bounded allowed none ?_
      split
      · exact .failed (by simp)
      · exact single _

/-- The readers of operands inside one more bracket, if the budget allows one. -/
inductive BoundedInside (budget : Budget) (depth : Nat) : Option Reader → Option Reader → Prop where
  | full (larger : Option Reader) (isFull : budget.brackets ≤ depth) :
      BoundedInside budget depth none larger
  | allowed {small large : Reader} (allowed : depth + 1 ≤ budget.brackets)
      (operands : ∀ signs, BoundedFrom budget (depth + 1) signs small large) :
      BoundedInside budget depth (some small) (some large)

/-- A bracket that the budget does not allow does not fit. -/
theorem not_fits_bracket {nesting : Nesting} {token : Token}
    (isFull : budget.brackets ≤ nesting.brackets) (opens : token.opensBracket = true) :
    ¬nesting.Fits budget (token :: rest) := by
  intro fits
  have within : (nesting.advance token).brackets ≤ budget.brackets := fits.1.1
  have counted : (nesting.advance token).brackets = nesting.brackets + 1 := if_pos opens
  omega

theorem operandWith_bounded {inner innerLarge : Option Reader} (allowed : depth ≤ budget.brackets)
    (larger : budget.signs ≤ largeSigns) (inside : BoundedInside budget depth inner innerLarge)
    (signs : Nat) :
    BoundedFrom budget depth signs (operandWith budget.signs inner)
      (operandWith largeSigns innerLarge) := by
  intro tokens
  have within (afterOperand : Bool) : Within budget ⟨depth, 0, afterOperand⟩ :=
    ⟨allowed, Nat.zero_le _⟩
  cases tokens with
  | nil => exact .failed (by simp)
  | cons token rest =>
      cases token with
      | number value => exact reference_or_bounded allowed none (.cons (within _) (.done _))
      | text content => exact .cons (within _) (.done _)
      | error literal => exact .cons (within _) (.done _)
      | cell address columnAbsolute rowAbsolute =>
          exact reference_or_bounded allowed none (.failed (by simp))
      | qualifier sheet =>
          exact .cons (within _)
            (reference_or_bounded allowed (some sheet) (.failed (by simp)))
      | identifier name =>
          cases rest with
          | nil => exact bareIdentifier_bounded allowed name []
          | cons next rest =>
              cases next with
              | openParenthesis =>
                  refine .cons (within true) ?_
                  cases inside with
                  | full _ isFull => exact .exceeded _ (not_fits_bracket isFull rfl)
                  | allowed allowedInside operands =>
                      exact .cons ⟨allowedInside, Nat.zero_le _⟩ (call_bounded name allowedInside
                        (expression_bounded allowedInside larger operands) rest)
              | _ => exact bareIdentifier_bounded allowed name _
      | openParenthesis =>
          cases inside with
          | full _ isFull => exact .exceeded _ (not_fits_bracket isFull rfl)
          | allowed allowedInside operands =>
              exact .cons ⟨allowedInside, Nat.zero_le _⟩ (group_bounded allowedInside
                (expression_bounded allowedInside larger operands) rest)
      | openBrace =>
          cases inside with
          | full _ isFull => exact .exceeded _ (not_fits_bracket isFull rfl)
          | allowed allowedInside operands =>
              exact .cons ⟨allowedInside, Nat.zero_le _⟩ (array_bounded allowedInside
                (signed_bounded allowedInside larger operands) rest)
      | _ => exact .failed (by simp)

theorem operand_bounded {brackets largeBrackets : Nat} (counted : depth + brackets = budget.brackets)
    (largerBrackets : brackets ≤ largeBrackets) (larger : budget.signs ≤ largeSigns) (signs : Nat) :
    BoundedFrom budget depth signs (operand budget.signs brackets)
      (operand largeSigns largeBrackets) := by
  induction brackets generalizing depth largeBrackets signs with
  | zero =>
      have isFull (inside : Option Reader) : BoundedInside budget depth none inside :=
        .full inside (Nat.le_of_eq counted.symm)
      cases largeBrackets with
      | zero => exact operandWith_bounded (Nat.le_of_eq counted) larger (isFull _) signs
      | succ largeBrackets => exact operandWith_bounded (Nat.le_of_eq counted) larger (isFull _) signs
  | succ brackets inductionHypothesis =>
      obtain ⟨largeBrackets, rfl⟩ := Nat.exists_eq_add_of_lt largerBrackets
      refine operandWith_bounded (by omega) larger (.allowed (by omega) fun signs => ?_) signs
      exact inductionHypothesis (by omega) (Nat.le_add_right brackets largeBrackets) signs

/-- A descent within a budget, and one within a larger budget. -/
theorem descend_bounded {larger : Budget} (brackets : budget.brackets ≤ larger.brackets)
    (signs : budget.signs ≤ larger.signs) :
    BoundedFrom budget 0 0 (descend budget) (descend larger) :=
  expression_bounded (Nat.zero_le _) signs
    fun count => operand_bounded (Nat.zero_add _) brackets signs count

/-- Within a budget that its tokens fit, a descent is not exhausted, and no larger budget changes what
it returns. -/
theorem descend_eq_of_fits {larger : Budget} (fits : Nesting.start.Fits budget tokens)
    (brackets : budget.brackets ≤ larger.brackets) (signs : budget.signs ≤ larger.signs) :
    descend larger tokens = descend budget tokens ∧ descend budget tokens ≠ .error .exhausted := by
  obtain ⟨same, notExhausted⟩ := (descend_bounded brackets signs tokens).eq_of_fits fits
  exact ⟨same.symm, notExhausted⟩

end Descent

end SheetEditor.Formula
