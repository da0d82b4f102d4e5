import Mathlib.Data.List.Induction
import SheetEditor.Proofs.Formula.Budget
import SheetEditor.Proofs.Formula.Completeness

/-!
Contract: the check of the nesting bounds the descent, and nothing else.

Owns: the brackets that are open at a place, each closed by one of its kind; the places of signs among
tokens that form a phrase; and that the check, which only counts along the tokens, refuses what a
descent within the limits does not finish and nothing that it does.

The check does not tell parentheses from braces, does not count below zero, and decides from the token
before whether a sign is one. On tokens that the grammar derives these shortcuts are exact. On other
tokens the counts are still those by which a descent spends its budget.
-/

namespace SheetEditor.Formula

open Descent (Budget)

variable {tokens before after opened left : List Token} {token : Token} {phrase : Phrase}
  {value : Expr} {budget : Budget} {nesting : Nesting}

/-! ## Open brackets -/

namespace Token

/-- Whether a token closes a bracket that another one opens. -/
def closes : Token → Token → Bool
  | .closeParenthesis, .openParenthesis | .closeBrace, .openBrace => true
  | _, _ => false

/-- Whether an operand has to come after a token. -/
def awaitsOperand : Token → Bool
  | .operator _ | .openParenthesis | .openBrace | .comma | .semicolon => true
  | _ => false

/-- Whether a token is the part of a reference that another part has to follow. -/
def joinsReference : Token → Bool
  | .colon | .qualifier _ => true
  | _ => false

/-- After a token, an operand ends, has to come, or goes on. -/
theorem place_cases (token : Token) :
    token.endsOperand = true ∨ token.awaitsOperand = true ∨ token.joinsReference = true := by
  cases token <;> simp [endsOperand, awaitsOperand, joinsReference]

end Token

/-- The brackets that are open after one more token, the innermost one first. Nothing if the token
closes another bracket than the innermost one. -/
def openAfter? (opened : List Token) (token : Token) : Option (List Token) :=
  if token.opensBracket then some (token :: opened)
  else if token.closesBracket then
    match opened with
    | innermost :: outer => if token.closes innermost then some outer else none
    | [] => none
  else some opened

/-- The brackets that are open after tokens, given those that were open before. -/
def openBrackets? (opened tokens : List Token) : Option (List Token) := tokens.foldlM openAfter? opened

/-- More brackets than a limit are open at some place. -/
def NestsDeeper (limit : Nat) (tokens : List Token) : Prop :=
  ∃ before after opened, tokens = before ++ after ∧ openBrackets? [] before = some opened ∧
    limit < opened.length

/-- More signs than a limit stand in a row where an operand has to come. -/
def StacksSigns (limit : Nat) (tokens : List Token) : Prop :=
  ∃ before run after, tokens = before ++ run ++ after ∧
    (∀ last ∈ before.getLast?, last.awaitsOperand = true) ∧ (∀ sign ∈ run, sign.isSign = true) ∧
    limit < run.length

theorem openBrackets?_append (opened before after : List Token) :
    openBrackets? opened (before ++ after) =
      (openBrackets? opened before).bind (openBrackets? · after) :=
  List.foldlM_append ..

theorem openBrackets?_cons (opened : List Token) (token : Token) (rest : List Token) :
    openBrackets? opened (token :: rest) =
      (openAfter? opened token).bind (openBrackets? · rest) :=
  List.foldlM_cons ..

/-- The count of brackets is that of the open ones, as long as brackets pair up. -/
theorem brackets_advanceAll (found : openBrackets? opened tokens = some left)
    (counted : nesting.brackets = opened.length) :
    (nesting.advanceAll tokens).brackets = left.length := by
  induction tokens generalizing opened nesting with
  | nil =>
      cases found
      exact counted
  | cons token rest inductionHypothesis =>
      rw [openBrackets?_cons] at found
      obtain ⟨next, stepped, found⟩ := Option.bind_eq_some_iff.mp found
      refine inductionHypothesis found (?_ : (nesting.advance token).brackets = _)
      unfold openAfter? at stepped
      dsimp only [Nesting.advance]
      split at stepped
      · next opens =>
          cases stepped
          rw [if_pos opens, counted, List.length_cons]
      · next notOpening =>
          rw [if_neg notOpening]
          split at stepped
          · next closes =>
              rw [if_pos closes, counted]
              cases opened with
              | nil => cases stepped
              | cons innermost outer =>
                  dsimp only at stepped
                  split at stepped
                  · cases stepped
                    rfl
                  · cases stepped
          · next notClosing =>
              cases stepped
              rw [if_neg notClosing, counted]

/-! ## Brackets and signs of phrases -/

/-- A token that joins a reference is followed by another token, and not by a sign. -/
def JoinsNoSign (tokens : List Token) : Prop :=
  ∀ before token after, tokens = before ++ token :: after → token.joinsReference = true →
    ∃ next ∈ after.head?, next.isSign = false

theorem joinsNoSign_nil : JoinsNoSign [] := fun before token after split => by simp at split

theorem JoinsNoSign.append (first : JoinsNoSign before) (second : JoinsNoSign after) :
    JoinsNoSign (before ++ after) := by
  intro front token back split joins
  rcases List.append_eq_append_iff.mp split with ⟨more, -, splitAfter⟩ | ⟨more, splitBefore, rest⟩
  · exact second more token back splitAfter joins
  · cases more with
    | nil => exact second [] token back rest.symm joins
    | cons other more =>
        rw [List.cons_append, List.cons.injEq] at rest
        obtain ⟨rfl, rfl⟩ := rest
        obtain ⟨next, isNext, notSign⟩ := first front token more splitBefore joins
        exact ⟨next, by rw [List.head?_append, Option.mem_def.mp isNext]; rfl, notSign⟩

theorem JoinsNoSign.cons (joinsNothing : token.joinsReference = false) (rest : JoinsNoSign after) :
    JoinsNoSign (token :: after) := by
  intro front other back split joins
  cases front with
  | nil =>
      cases split
      rw [joinsNothing] at joins
      cases joins
  | cons first front =>
      rw [List.cons_append, List.cons.injEq] at split
      exact rest front other back split.2 joins

theorem JoinsNoSign.cons_before {next : Token} (notSign : next.isSign = false)
    (rest : JoinsNoSign (next :: after)) : JoinsNoSign (token :: next :: after) := by
  intro front other back split joins
  cases front with
  | nil =>
      cases split
      exact ⟨next, rfl, notSign⟩
  | cons first front =>
      rw [List.cons_append, List.cons.injEq] at split
      exact rest front other back split.2 joins

/-- Brackets pair up, and no sign follows where a reference is joined. -/
structure Ordered (tokens : List Token) : Prop where
  balanced : ∀ opened, openBrackets? opened tokens = some opened
  joined : JoinsNoSign tokens

namespace Ordered

theorem nil : Ordered [] := ⟨fun _ => rfl, joinsNoSign_nil⟩

theorem append (first : Ordered before) (second : Ordered after) : Ordered (before ++ after) where
  balanced opened := by
    rw [openBrackets?_append, first.balanced, Option.bind_some, second.balanced]
  joined := first.joined.append second.joined

/-- A token that is no bracket and joins nothing. -/
theorem cons (notOpening : token.opensBracket = false) (notClosing : token.closesBracket = false)
    (joinsNothing : token.joinsReference = false) (rest : Ordered after) :
    Ordered (token :: after) where
  balanced opened := by
    have kept : openAfter? opened token = some opened := by simp [openAfter?, notOpening, notClosing]
    rw [openBrackets?_cons, kept, Option.bind_some, rest.balanced]
  joined := rest.joined.cons joinsNothing

/-- Such a token between others. -/
theorem between (notOpening : token.opensBracket = false) (notClosing : token.closesBracket = false)
    (joinsNothing : token.joinsReference = false) (first : Ordered before) (second : Ordered after) :
    Ordered (before ++ token :: after) :=
  first.append (second.cons notOpening notClosing joinsNothing)

/-- Tokens between two brackets of one kind. -/
theorem enclose {opening closing : Token}
    (begun : ∀ opened, openAfter? opened opening = some (opening :: opened))
    (ended : ∀ opened, openAfter? (opening :: opened) closing = some opened)
    (opensNothing : opening.joinsReference = false) (closesNothing : closing.joinsReference = false)
    (inside : Ordered tokens) : Ordered (opening :: (tokens ++ [closing])) where
  balanced opened := by
    rw [openBrackets?_cons, begun, Option.bind_some, openBrackets?_append, inside.balanced,
      Option.bind_some, openBrackets?_cons, ended]
    rfl
  joined := (inside.joined.append (joinsNoSign_nil.cons closesNothing)).cons opensNothing

theorem parentheses (inside : Ordered tokens) :
    Ordered (.openParenthesis :: (tokens ++ [.closeParenthesis])) :=
  inside.enclose (fun _ => rfl) (fun _ => rfl) rfl rfl

theorem braces (inside : Ordered tokens) : Ordered (.openBrace :: (tokens ++ [.closeBrace])) :=
  inside.enclose (fun _ => rfl) (fun _ => rfl) rfl rfl

end Ordered

theorem Refers.ordered {sheet : Option Text} (refers : Refers sheet tokens value) :
    Ordered tokens := by
  cases refers with
  | cell => exact Ordered.nil.cons rfl rfl rfl
  | range | columns | rows =>
      exact ⟨fun _ => rfl, (((joinsNoSign_nil.cons rfl).cons_before rfl).cons rfl)⟩

/-- The tokens of a phrase are in order. -/
theorem Derives.ordered (derives : Derives tokens phrase) : Ordered tokens := by
  induction derives with
  | alone _ inductionHypothesis | unsigned _ inductionHypothesis | unmarked _ inductionHypothesis
  | given _ inductionHypothesis | lastArgument _ inductionHypothesis
  | lastItem _ inductionHypothesis => exact inductionHypothesis
  | plus _ inductionHypothesis | minus _ inductionHypothesis =>
      exact inductionHypothesis.cons rfl rfl rfl
  | binary _ _ _ leftHypothesis rightHypothesis
  | nextItem _ _ leftHypothesis rightHypothesis | nextRow _ _ leftHypothesis rightHypothesis =>
      exact leftHypothesis.between rfl rfl rfl rightHypothesis
  | percent _ inductionHypothesis => exact inductionHypothesis.between rfl rfl rfl .nil
  | number | text | error | trueName | falseName | name => exact Ordered.nil.cons rfl rfl rfl
  | omitted => exact .nil
  | reference refers => exact refers.ordered
  | qualified refers =>
      have ordered := refers.ordered
      refine ⟨ordered.balanced, ?_⟩
      cases refers with
      | cell | range | columns | rows => exact ordered.joined.cons_before rfl
  | group _ inductionHypothesis => exact inductionHypothesis.parentheses
  | call _ _ inductionHypothesis => exact inductionHypothesis.parentheses.cons rfl rfl rfl
  | callEmpty => exact Ordered.nil.parentheses.cons rfl rfl rfl
  | array _ inductionHypothesis => exact inductionHypothesis.braces
  | @nextArgument _ _ _ _ separator _ separates _ firstHypothesis othersHypothesis =>
      cases separator with
      | comma | semicolon => exact firstHypothesis.between rfl rfl rfl othersHypothesis
      | _ => cases separates

/-! ## Where the counts exceed a budget -/

namespace Nesting

/-- Tokens that do not fit a budget exceed it at some place. -/
theorem exists_exceeding (exceeds : ¬nesting.Fits budget tokens) :
    ∃ before after, tokens = before ++ after ∧ ¬(nesting.advanceAll before).Within budget := by
  induction tokens generalizing nesting with
  | nil => exact absurd trivial exceeds
  | cons token rest inductionHypothesis =>
      by_cases within : (nesting.advance token).Within budget
      · obtain ⟨before, after, rfl, outside⟩ :=
          inductionHypothesis fun fits => exceeds ⟨within, fits⟩
        exact ⟨token :: before, after, rfl, outside⟩
      · exact ⟨[token], rest, rfl, within⟩

theorem advanceAll_concat (nesting : Nesting) (before : List Token) (token : Token) :
    nesting.advanceAll (before ++ [token]) = (nesting.advanceAll before).advance token := by
  rw [advanceAll, List.foldl_append]
  rfl

theorem afterOperand_advanceAll (tokens : List Token) :
    (start.advanceAll tokens).afterOperand = tokens.getLast?.any (·.endsOperand) := by
  induction tokens using List.reverseRecOn with
  | nil => rfl
  | append_singleton tokens token _ =>
      rw [advanceAll_concat, List.getLast?_concat, Option.any_some]
      rfl

/-- The count of signs is the length of a run of signs that does not begin behind an operand. -/
theorem exists_run (tokens : List Token) :
    ∃ front run, tokens = front ++ run ∧ (∀ sign ∈ run, sign.isSign = true) ∧
      run.length = (start.advanceAll tokens).signs ∧
      (run ≠ [] → ∀ last ∈ front.getLast?, last.endsOperand = false) := by
  induction tokens using List.reverseRecOn with
  | nil => exact ⟨[], [], rfl, by simp, rfl, by simp⟩
  | append_singleton tokens token inductionHypothesis =>
      rw [advanceAll_concat]
      by_cases counts : (token.isSign && !(start.advanceAll tokens).afterOperand) = true
      · obtain ⟨front, run, rfl, areSigns, counted, begins⟩ := inductionHypothesis
        have isCounted : ((start.advanceAll (front ++ run)).advance token).signs =
            (start.advanceAll (front ++ run)).signs + 1 := if_pos counts
        rw [Bool.and_eq_true, Bool.not_eq_true', afterOperand_advanceAll] at counts
        refine ⟨front, run ++ [token], List.append_assoc .., ?_, ?_, fun _ last isLast => ?_⟩
        · rw [List.forall_mem_append]
          exact ⟨areSigns, by simpa using counts.1⟩
        · rw [isCounted, ← counted, List.length_append, List.length_singleton]
        · by_cases empty : run = []
          · rw [empty, List.append_nil, Option.mem_def.mp isLast, Option.any_some] at counts
            exact counts.2
          · exact begins empty last isLast
      · exact ⟨tokens ++ [token], [], (List.append_nil _).symm, by simp, (if_neg counts).symm,
          fun nonempty => absurd rfl nonempty⟩

end Nesting

/-- Tokens of an expression that do not fit a budget open more brackets at once or stack more signs. -/
theorem Ordered.exceeds (ordered : Ordered tokens) (exceeds : ¬Nesting.start.Fits budget tokens) :
    NestsDeeper budget.brackets tokens ∨ StacksSigns budget.signs tokens := by
  obtain ⟨before, after, rfl, outside⟩ := Nesting.exists_exceeding exceeds
  rw [Nesting.Within, not_and_or, Nat.not_le, Nat.not_le] at outside
  cases outside with
  | inl tooDeep =>
      have paired := ordered.balanced []
      rw [openBrackets?_append] at paired
      obtain ⟨opened, found, -⟩ := Option.bind_eq_some_iff.mp paired
      rw [brackets_advanceAll found rfl] at tooDeep
      exact .inl ⟨before, after, opened, rfl, found, tooDeep⟩
  | inr tooMany =>
      obtain ⟨front, run, rfl, areSigns, counted, begins⟩ := Nesting.exists_run before
      rw [← counted] at tooMany
      refine .inr ⟨front, run, after, rfl, fun last isLast => ?_, areSigns, tooMany⟩
      obtain ⟨sign, others, rfl⟩ := List.exists_cons_of_length_pos (Nat.zero_lt_of_lt tooMany)
      have notOperand := begins (List.cons_ne_nil _ _) last isLast
      obtain ⟨earlier, rfl⟩ := List.getLast?_eq_some_iff.mp isLast
      rcases last.place_cases with ends | awaits | joins
      · rw [notOperand] at ends
        cases ends
      · exact awaits
      · obtain ⟨next, isNext, notSign⟩ := ordered.joined earlier last (sign :: others ++ after)
          (by simp) joins
        cases isNext
        rw [areSigns _ List.mem_cons_self] at notSign
        cases notSign

/-! ## The check and the descent -/

/-- The descent without a limit: no budget is exhausted, and none above the number of tokens makes a
difference. -/
theorem descend_unlimited (brackets : tokens.length ≤ budget.brackets)
    (signs : tokens.length ≤ budget.signs) :
    descend budget tokens = descend (.unlimited tokens.length) tokens ∧
      descend (.unlimited tokens.length) tokens ≠ .error .exhausted :=
  Descent.descend_eq_of_fits
    (Nesting.fits_of_length_le (Nat.le_of_eq (Nat.zero_add _)) (Nat.le_of_eq (Nat.zero_add _)))
    brackets signs

/-- A budget and the descent without a limit. -/
theorem descend_bounded_unlimited (budget : Budget) (tokens : List Token) :
    Descent.Bounded budget .start (.behind 0) tokens (descend budget tokens)
      (descend (.unlimited tokens.length) tokens) := by
  let larger : Budget := ⟨max budget.brackets tokens.length, max budget.signs tokens.length⟩
  have same : descend larger tokens = descend (.unlimited tokens.length) tokens :=
    (descend_unlimited (Nat.le_max_right _ _) (Nat.le_max_right _ _)).1
  have bracketsFit : budget.brackets ≤ larger.brackets := Nat.le_max_left _ _
  have signsFit : budget.signs ≤ larger.signs := Nat.le_max_left _ _
  exact same ▸ Descent.descend_bounded bracketsFit signsFit tokens

/-- The check of the nesting bounds the descent exactly. A descent without a limit is never exhausted.
Where the check passes, a descent that may open as many brackets at once and read as many signs in a row
as the limits say is not exhausted either, and returns what the unlimited one returns, a value or a
failure. Where the check fails on tokens that the unlimited descent reads whole, the limited one is
exhausted: somewhere among the tokens more brackets are open at once, or more signs stand in a row in
front of an operand. -/
theorem nesting_check_bounds_descent (tokens : List Token) :
    let limited := descend ⟨nestingLimit, nestingLimit⟩ tokens
    let unlimited := descend (.unlimited tokens.length) tokens
    (∀ budget : Budget, tokens.length ≤ budget.brackets → tokens.length ≤ budget.signs →
      descend budget tokens = unlimited) ∧ unlimited ≠ .error .exhausted ∧
      (isShallow tokens = true → limited = unlimited ∧ limited ≠ .error .exhausted) ∧
      ∀ value, isShallow tokens = false → unlimited = .ok (value, []) →
        limited = .error .exhausted ∧
          (NestsDeeper nestingLimit tokens ∨ StacksSigns nestingLimit tokens) := by
  intro limited unlimited
  have bounded := descend_bounded_unlimited ⟨nestingLimit, nestingLimit⟩ tokens
  have allowed : tokens.length ≤ (Budget.unlimited tokens.length).brackets := Nat.le_refl _
  refine ⟨fun budget brackets signs => (descend_unlimited brackets signs).1,
    (descend_unlimited allowed (Nat.le_refl _)).2,
    fun shallow => bounded.eq_of_fits (Nesting.staysWithinLimit_iff.mp shallow), ?_⟩
  intro value deep accepted
  have exceeds : ¬Nesting.start.Fits ⟨nestingLimit, nestingLimit⟩ tokens := fun fits => by
    rw [isShallow, Nesting.staysWithinLimit_iff.mpr fits] at deep
    cases deep
  have derives := (descend_eq_ok_iff_derives tokens value).1.mp accepted
  exact ⟨bounded.exhausted_of_not_fits accepted exceeds, derives.ordered.exceeds exceeds⟩

/-- As many parentheses and signs as the limits allow, and one more of each. -/
theorem nesting_check_at_limit :
    let tokens (count : Nat) := List.replicate count Token.openParenthesis ++
      List.replicate count (.operator .add) ++ .text [] :: List.replicate count .closeParenthesis
    let limited (count : Nat) := descend ⟨nestingLimit, nestingLimit⟩ (tokens count)
    let unlimited (count : Nat) := descend (.unlimited (tokens count).length) (tokens count)
    isShallow (tokens 64) = true ∧ limited 64 = unlimited 64 ∧
      (∃ value, unlimited 65 = .ok (value, [])) ∧ limited 65 = .error .exhausted ∧
      (NestsDeeper nestingLimit (tokens 65) ∨ StacksSigns nestingLimit (tokens 65)) := by
  intro tokens limited unlimited
  have shallow : isShallow (tokens 64) = true := by decide +kernel
  have deep : isShallow (tokens 65) = false := by decide +kernel
  have whole : (unlimited 65).toOption.map Prod.snd = some [] := by decide +kernel
  obtain ⟨-, -, passes, -⟩ := nesting_check_bounds_descent (tokens 64)
  obtain ⟨-, -, -, fails⟩ := nesting_check_bounds_descent (tokens 65)
  cases read : unlimited 65 with
  | error failure =>
      rw [read] at whole
      cases whole
  | ok found =>
      obtain ⟨value, rest⟩ := found
      rw [read] at whole
      obtain rfl : rest = [] := Option.some.inj whole
      exact ⟨shallow, (passes shallow).1, ⟨value, rfl⟩, fails value deep read⟩

end SheetEditor.Formula
