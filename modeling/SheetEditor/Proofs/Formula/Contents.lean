import SheetEditor.Formula.Parser

/-!
Contract: the descent passes on what strings and sheet names say.

Owns: changes to the contents of strings and to the names of sheets, in tokens and in expressions,
and that every reader of the descent reads the changed tokens as the changed expression.

The descent compares the identifiers of its tokens with words and with columns. Of a string or a sheet
name it only puts into the expression what it finds, so any change to these commutes with it.
-/

namespace SheetEditor

/-! ## Changes -/

namespace Expr

mutual

/-- An expression with a change made to its strings and to its sheet names. -/
def mapContents (change : Text → Text) : Expr → Expr
  | .text content => .text (change content)
  | .cell sheet address columnAbsolute rowAbsolute =>
      .cell (sheet.map change) address columnAbsolute rowAbsolute
  | .range sheet start stop => .range (sheet.map change) start stop
  | .columns sheet start stop => .columns (sheet.map change) start stop
  | .rows sheet start stop => .rows (sheet.map change) start stop
  | .call function arguments => .call function (mapContentsList change arguments)
  | .binary operator left right =>
      .binary operator (mapContents change left) (mapContents change right)
  | .negate operand => .negate (mapContents change operand)
  | .percent operand => .percent (mapContents change operand)
  | .array lines => .array (mapContentsRows change lines)
  | value => value

def mapContentsList (change : Text → Text) : List Expr → List Expr
  | [] => []
  | value :: values => mapContents change value :: mapContentsList change values

def mapContentsRows (change : Text → Text) : List (List Expr) → List (List Expr)
  | [] => []
  | line :: lines => mapContentsList change line :: mapContentsRows change lines

end

end Expr

namespace Formula

variable {change : Text → Text} {tokens rest : List Token} {token other : Token}

namespace Token

/-- A token with a change made to it, if it is a string or a sheet name. -/
def mapContents (change : Text → Text) : Token → Token
  | .text content => .text (change content)
  | .qualifier sheet => .qualifier (change sheet)
  | token => token

/-- Whether a token has contents to change. -/
def hasContents : Token → Bool
  | .text _ | .qualifier _ => true
  | _ => false

/-- Only a token with contents becomes another one. -/
theorem eq_of_mapContents (same : token.mapContents change = other)
    (plain : other.hasContents = false) : token = other := by
  cases token with
  | text | qualifier =>
      subst same
      cases plain
  | _ => exact same

/-- A token without contents that comes first after a change came first before it. -/
theorem exists_of_map_eq_cons (plain : other.hasContents = false)
    (same : tokens.map (mapContents change) = other :: rest) :
    ∃ others, tokens = other :: others := by
  obtain ⟨token, others, rfl, sameToken, -⟩ := List.map_eq_cons_iff.mp same
  exact ⟨others, by rw [eq_of_mapContents sameToken plain]⟩

/-- A token without contents does not come first after a change if it did not before. -/
theorem map_ne_cons (plain : other.hasContents = false)
    (notFirst : ∀ rest, tokens = other :: rest → False) (rest : List Token) :
    tokens.map (mapContents change) ≠ other :: rest := by
  intro same
  obtain ⟨others, rfl⟩ := exists_of_map_eq_cons plain same
  exact notFirst others rfl

end Token

/-! ## Nesting -/

theorem Nesting.advance_mapContents (nesting : Nesting) (token : Token) :
    nesting.advance (token.mapContents change) = nesting.advance token := by
  cases token <;> rfl

theorem isShallow_mapContents (tokens : List Token) :
    isShallow (tokens.map (Token.mapContents change)) = isShallow tokens := by
  unfold isShallow
  generalize Nesting.start = nesting
  induction tokens generalizing nesting with
  | nil => rfl
  | cons token rest inductionHypothesis =>
      rw [List.map_cons, Nesting.staysWithinLimit, Nesting.advance_mapContents, inductionHypothesis]
      rfl

/-! ## Outcomes -/

/-- Two outcomes of which the second is the first with a change made to it, unless both fail. -/
inductive Tracks {ε α β : Type} (change : α → β) : Except ε α → Except ε β → Prop where
  | failed (failure other : ε) : Tracks change (.error failure) (.error other)
  | done (value : α) : Tracks change (.ok value) (.ok (change value))

namespace Tracks

variable {ε α β γ δ : Type} {first : Except ε α} {second : Except ε β} {alter : α → β} {next : γ → δ}

/-- One step and then another one. -/
theorem bind {later : α → Except ε γ} {laterSecond : β → Except ε δ}
    (tracks : Tracks alter first second)
    (tracksLater : ∀ value, Tracks next (later value) (laterSecond (alter value))) :
    Tracks next (first >>= later) (second >>= laterSecond) := by
  cases tracks with
  | failed failure other => exact .failed failure other
  | done value => exact tracksLater value

/-- Both succeed. -/
theorem of_eq {value : α} {other : β} (same : alter value = other) :
    Tracks alter (.ok value : Except ε α) (.ok other) :=
  same ▸ .done value

/-- One step of which the result is put into something else. -/
theorem map {wrap : α → γ} {wrapSecond : β → δ} (tracks : Tracks alter first second)
    (wraps : ∀ value, next (wrap value) = wrapSecond (alter value)) :
    Tracks next (first.map wrap) (second.map wrapSecond) := by
  cases tracks with
  | failed failure other => exact .failed failure other
  | done value => exact .of_eq (wraps value)

/-- What the failures are does not matter. -/
theorem iff_toOption_eq : Tracks alter first second ↔ second.toOption = first.toOption.map alter := by
  constructor
  · intro tracks
    cases tracks <;> rfl
  · intro same
    cases first with
    | error failure =>
        cases second with
        | error other => exact .failed failure other
        | ok value => cases same
    | ok value =>
        cases second with
        | error other => cases same
        | ok other => exact .of_eq (Option.some.inj same).symm

end Tracks

namespace Descent

/-- What is read, and the tokens after it, with a change made to both. -/
abbrev changed (change : Text → Text) : Expr × List Token → Expr × List Token :=
  Prod.map (Expr.mapContents change) (List.map (Token.mapContents change))

/-- A reader is natural if it reads changed tokens as what it reads, changed. -/
def Natural (change : Text → Text) (read : Reader) : Prop :=
  ∀ tokens, Tracks (changed change) (read tokens) (read (tokens.map (Token.mapContents change)))

variable {inner operand : Reader}

/-! ## Signs, percent marks and chains of operators -/

theorem readSigns_mapContents (limit : Nat) (tokens : List Token) :
    readSigns limit (tokens.map (Token.mapContents change)) =
      (readSigns limit tokens).map (Prod.map id (List.map (Token.mapContents change))) := by
  induction limit, tokens using readSigns.induct with
  | case1 | case3 => rfl
  | case2 rest left inductionHypothesis => exact inductionHypothesis
  | case4 rest left inductionHypothesis =>
      simp only [List.map_cons, Token.mapContents, readSigns, inductionHypothesis, Option.map_map]
      rfl
  | case5 limit tokens notPlus notMinus =>
      rw [readSigns.eq_def, readSigns]
      split
      · exact (Token.map_ne_cons rfl notPlus _ ‹_›).elim
      · exact (Token.map_ne_cons rfl notMinus _ ‹_›).elim
      · rfl
      · exact notPlus
      · exact notMinus

theorem withPercents_mapContents (operand : Expr) (tokens : List Token) :
    withPercents (operand.mapContents change) (tokens.map (Token.mapContents change)) =
      changed change (withPercents operand tokens) := by
  induction operand, tokens using withPercents.induct with
  | case1 operand rest inductionHypothesis => exact inductionHypothesis
  | case2 operand tokens notPercent =>
      rw [withPercents, withPercents]
      · rfl
      · exact notPercent
      · exact Token.map_ne_cons rfl notPercent

theorem negated_mapContents (times : Nat) (operand : Expr) :
    (negated times operand).mapContents change = negated times (operand.mapContents change) := by
  induction times with
  | zero => rfl
  | succ times inductionHypothesis => rw [negated, negated, Expr.mapContents, inductionHypothesis]

theorem signed_natural (signs : Nat) (natural : Natural change operand) :
    Natural change (signed signs operand) := by
  intro tokens
  unfold signed
  rw [readSigns_mapContents]
  cases readSigns signs tokens with
  | none => exact .failed _ _
  | some read =>
      obtain ⟨minuses, fromOperand⟩ := read
      refine (natural fromOperand).bind fun found => ?_
      obtain ⟨value, afterOperand⟩ := found
      simp only [Prod.map_apply, withPercents_mapContents]
      exact .of_eq (congrArg (·, _) (negated_mapContents minuses _))

theorem chainFrom_natural {level : Binding} (natural : Natural change operand) (steps : List Token)
    (left : Expr) (tokens : List Token) :
    Tracks (changed change) (chainFrom level operand steps left tokens)
      (chainFrom level operand (steps.map (Token.mapContents change)) (left.mapContents change)
        (tokens.map (Token.mapContents change))) := by
  induction steps, left, tokens using chainFrom.induct level with
  | case1 _ steps left operator rest binds inductionHypothesis =>
      simp only [List.map_cons, Token.mapContents, chainFrom, if_pos binds]
      exact (natural rest).bind fun found => inductionHypothesis found.1 found.2
  | case2 _ steps left operator rest other =>
      simp only [List.map_cons, Token.mapContents, chainFrom, if_neg other]
      exact .done _
  | case3 steps left tokens stops =>
      rw [chainFrom, chainFrom]
      · exact .done _
      · intro step later operator rest sameSteps sameTokens
        obtain ⟨firstStep, laterSteps, rfl, -, -⟩ := List.map_eq_cons_iff.mp sameSteps
        obtain ⟨others, rfl⟩ := Token.exists_of_map_eq_cons rfl sameTokens
        exact stops firstStep laterSteps operator others rfl rfl
      · exact stops

theorem chain_natural (level : Binding) (natural : Natural change operand) :
    Natural change (chain level operand) := fun tokens =>
  (natural tokens).bind fun found => chainFrom_natural natural found.2 found.1 found.2

theorem expression_natural (signs : Nat) (natural : Natural change operand) :
    Natural change (expression signs operand) :=
  chain_natural _ <| chain_natural _ <| chain_natural _ <| chain_natural _ <| chain_natural _ <|
    signed_natural signs natural

/-! ## Brackets -/

theorem group_natural (natural : Natural change inner) : Natural change (group inner) := by
  intro tokens
  refine (natural tokens).bind fun found => ?_
  obtain ⟨value, rest⟩ := found
  cases rest with
  | nil => exact .failed _ _
  | cons token rest =>
      cases token with
      | closeParenthesis => exact .done (_, _)
      | _ => exact .failed _ _

theorem arguments_natural (natural : Natural change inner) (steps tokens : List Token) :
    Tracks (Prod.map (Expr.mapContentsList change) (List.map (Token.mapContents change)))
      (arguments inner steps tokens)
      (arguments inner (steps.map (Token.mapContents change))
        (tokens.map (Token.mapContents change))) := by
  induction steps, tokens using arguments.induct with
  | case1 steps =>
      rw [List.map_nil, arguments, arguments]
      exact .failed _ _
  | case2 steps rest =>
      simp only [List.map_cons, Token.mapContents, arguments]
      exact .of_eq rfl
  | case3 _ steps rest inductionHypothesis | case4 _ steps rest inductionHypothesis =>
      simp only [List.map_cons, Token.mapContents, arguments]
      exact inductionHypothesis.bind fun found => .of_eq rfl
  | case5 step steps tokens notEnd notClosed notComma notSemicolon inductionHypothesis =>
      rw [List.map_cons, arguments, arguments]
      · refine (natural tokens).bind fun found => ?_
        obtain ⟨first, rest⟩ := found
        cases rest with
        | nil => exact .failed _ _
        | cons token rest =>
            cases token with
            | closeParenthesis => exact .of_eq rfl
            | comma | semicolon =>
                exact (inductionHypothesis rest).bind fun found => .of_eq rfl
            | _ => exact .failed _ _
      · exact notEnd ∘ List.map_eq_nil_iff.mp
      · exact Token.map_ne_cons rfl notClosed
      · exact Token.map_ne_cons rfl notComma
      · exact Token.map_ne_cons rfl notSemicolon
      all_goals assumption
  | case6 tokens notEnd notClosed =>
      rw [List.map_nil, arguments, arguments]
      · exact .failed _ _
      · exact notEnd ∘ List.map_eq_nil_iff.mp
      · exact Token.map_ne_cons rfl notClosed
      all_goals assumption

theorem call_natural (function : Text) (natural : Natural change inner) :
    Natural change (call function inner) := by
  have listed (tokens : List Token) := arguments_natural natural tokens tokens
  intro tokens
  rw [call.eq_def]
  split
  · exact .of_eq rfl
  · rw [call]
    · refine (listed tokens).bind fun found => .of_eq rfl
    · exact Token.map_ne_cons rfl ‹_›

theorem consItem_mapContentsRows (item : Expr) (rows : List (List Expr)) :
    Expr.mapContentsRows change (consItem item rows) =
      consItem (item.mapContents change) (Expr.mapContentsRows change rows) := by
  cases rows <;> rfl

theorem arrayRows_natural (natural : Natural change inner) (steps tokens : List Token) :
    Tracks (Prod.map (Expr.mapContentsRows change) (List.map (Token.mapContents change)))
      (arrayRows inner steps tokens)
      (arrayRows inner (steps.map (Token.mapContents change))
        (tokens.map (Token.mapContents change))) := by
  induction steps, tokens using arrayRows.induct with
  | case1 step steps tokens inductionHypothesis =>
      rw [List.map_cons, arrayRows, arrayRows]
      refine (natural tokens).bind fun found => ?_
      obtain ⟨first, rest⟩ := found
      cases rest with
      | nil => exact .failed _ _
      | cons token rest =>
          cases token with
          | closeBrace => exact .of_eq rfl
          | comma =>
              exact (inductionHypothesis rest).bind fun found =>
                .of_eq (congrArg (·, _) (consItem_mapContentsRows first found.1))
          | semicolon => exact (inductionHypothesis rest).bind fun found => .of_eq rfl
          | _ => exact .failed _ _
  | case2 tokens =>
      rw [List.map_nil, arrayRows, arrayRows]
      exact .failed _ _

theorem array_natural (natural : Natural change inner) : Natural change (array inner) := by
  intro tokens
  unfold array
  rw [← List.map_tail]
  exact (arrayRows_natural natural tokens tokens.tail).bind fun found => .of_eq rfl

/-! ## Operands -/

theorem reference_natural (sheet : Option Text) (tokens : List Token) :
    Tracks (Option.map (changed change)) (reference sheet tokens)
      (reference (sheet.map change) (tokens.map (Token.mapContents change))) := by
  have columns (start stop : Text) (rest : List Token) :
      Tracks (Option.map (changed change))
        (reference sheet (.identifier start :: .colon :: .identifier stop :: rest))
        (reference (sheet.map change)
          (.identifier start :: .colon :: .identifier stop ::
            rest.map (Token.mapContents change))) := by
    rw [reference, reference]
    cases columnSpan? start stop with
    | none => exact .failed _ _
    | some span => exact .of_eq rfl
  have rows (start stop : Binary64) (rest : List Token) :
      Tracks (Option.map (changed change))
        (reference sheet (.number start :: .colon :: .number stop :: rest))
        (reference (sheet.map change)
          (.number start :: .colon :: .number stop :: rest.map (Token.mapContents change))) := by
    rw [reference, reference]
    cases rowOf? start with
    | none => exact .of_eq rfl
    | some first => cases rowOf? stop <;> exact .of_eq rfl
  cases tokens with
  | nil => exact .done none
  | cons first rest =>
      cases first with
      | cell | identifier | number =>
          cases rest with
          | nil => exact .of_eq rfl
          | cons second rest =>
              cases second with
              | colon =>
                  cases rest with
                  | nil => exact .of_eq rfl
                  | cons third rest =>
                      cases third with
                      | identifier => first | exact columns _ _ _ | exact .of_eq rfl
                      | number => first | exact rows _ _ _ | exact .of_eq rfl
                      | _ => exact .of_eq rfl
              | _ => exact .of_eq rfl
      | _ => exact .of_eq rfl

theorem reference_or_natural (sheet : Option Text) (tokens : List Token)
    {otherwise otherwiseChanged : Except Failure (Expr × List Token)}
    (other : Tracks (changed change) otherwise otherwiseChanged) :
    Tracks (changed change)
      (do
        match ← reference sheet tokens with
        | some found => return found
        | none => otherwise)
      (do
        match ← reference (sheet.map change) (tokens.map (Token.mapContents change)) with
        | some found => return found
        | none => otherwiseChanged) := by
  refine (reference_natural sheet tokens).bind fun found => ?_
  cases found with
  | none => exact other
  | some found => exact .of_eq rfl

theorem bareIdentifier_natural (name : Text) (rest : List Token) :
    Tracks (changed change) (bareIdentifier name rest)
      (bareIdentifier name (rest.map (Token.mapContents change))) := by
  unfold bareIdentifier
  split
  · exact .of_eq rfl
  · split
    · exact .of_eq rfl
    · refine reference_or_natural none (.identifier name :: rest) ?_
      split
      · exact .failed _ _
      · exact .of_eq rfl

theorem operandWith_natural (signs : Nat) {inner : Option Reader}
    (natural : ∀ operand, inner = some operand → Natural change operand) :
    Natural change (operandWith signs inner) := by
  intro tokens
  cases tokens with
  | nil => exact .failed _ _
  | cons token rest =>
      cases token with
      | text | error => exact .of_eq rfl
      | number value => exact reference_or_natural none (.number value :: rest) (.of_eq rfl)
      | cell address columnAbsolute rowAbsolute =>
          exact reference_or_natural none (.cell address columnAbsolute rowAbsolute :: rest)
            (.failed _ _)
      | qualifier sheet => exact reference_or_natural (some sheet) rest (.failed _ _)
      | identifier name =>
          cases rest with
          | nil => exact bareIdentifier_natural name []
          | cons next rest =>
              cases next with
              | openParenthesis =>
                  cases inner with
                  | none => exact .failed _ _
                  | some operand =>
                      exact call_natural name (expression_natural signs (natural operand rfl)) rest
              | _ => exact bareIdentifier_natural name (_ :: rest)
      | openParenthesis =>
          cases inner with
          | none => exact .failed _ _
          | some operand => exact group_natural (expression_natural signs (natural operand rfl)) rest
      | openBrace =>
          cases inner with
          | none => exact .failed _ _
          | some operand =>
              exact array_natural (signed_natural signs (natural operand rfl)) (.openBrace :: rest)
      | _ => exact .failed _ _

theorem operand_natural (signs brackets : Nat) :
    Natural change (Descent.operand signs brackets) := by
  induction brackets with
  | zero => exact operandWith_natural signs fun _ none => nomatch none
  | succ brackets inductionHypothesis =>
      refine operandWith_natural signs fun operand inside => ?_
      cases inside
      exact inductionHypothesis

end Descent

open Descent in
/-- Tokens with changed contents form the expression that the tokens form, changed. -/
theorem parseTokens_mapContents (tokens : List Token) :
    Tracks (Expr.mapContents change) (parseTokens tokens)
      (parseTokens (tokens.map (Token.mapContents change))) := by
  have descends : Tracks (changed change) (descend (.unlimited tokens.length) tokens)
      (descend (.unlimited tokens.length) (tokens.map (Token.mapContents change))) :=
    expression_natural _ (operand_natural _ _) tokens
  unfold parseTokens
  rw [List.length_map]
  generalize descend (.unlimited tokens.length) tokens = read at descends ⊢
  generalize descend (.unlimited tokens.length) (tokens.map (Token.mapContents change)) = readChanged
    at descends ⊢
  cases descends with
  | failed failure other => exact .failed _ _
  | done found =>
      obtain ⟨value, remaining⟩ := found
      cases remaining with
      | nil => exact .done value
      | cons => exact .failed _ _

end Formula

end SheetEditor
