import SheetEditor.Formula.Parser
import SheetEditor.Proofs.Formula.Grammar

/-!
Contract: what the descent reads is derived by the grammar.

Owns: for every reader of the descent, the phrase that the tokens it uses form.

Does not own: that phrases are read (`SheetEditor.Proofs.Formula.Completeness`).
-/

namespace SheetEditor.Formula.Descent

/-- A reader is sound for a kind of phrase if the tokens that it uses form such a phrase with the
value that it returns. -/
def Sound {α : Type} (read : List Token → Except Failure (α × List Token)) (phrase : α → Phrase) :
    Prop :=
  ∀ ⦃tokens value rest⦄, read tokens = .ok (value, rest) →
    ∃ used, tokens = used ++ rest ∧ Derives used (phrase value)

/-- What a sequence of two steps returns, the second returns after the first. -/
theorem exists_of_bind_eq_ok {α β : Type} {first : Except Failure α} {next : α → Except Failure β}
    {result : β} (run : first >>= next = .ok result) :
    ∃ value, first = .ok value ∧ next value = .ok result := by
  cases first with
  | error failure => cases run
  | ok value => exact ⟨value, rfl, run⟩

/-! ## References -/

theorem columnSpan?_eq_some {start stop : Text} {span : Nat × Nat}
    (found : columnSpan? start stop = some span) :
    ∃ first last, Column.number? (start.dropWhile (· = '$')) = some first ∧
      Column.number? (stop.dropWhile (· = '$')) = some last ∧
      (first ≤ columnCount ∧ last ≤ columnCount) ∧ span = (first - 1, last - 1) := by
  unfold columnSpan? at found
  obtain ⟨first, firstColumn, found⟩ := Option.bind_eq_some_iff.mp found
  obtain ⟨last, lastColumn, found⟩ := Option.bind_eq_some_iff.mp found
  split at found
  · next inBounds =>
      exact ⟨first, last, firstColumn, lastColumn, inBounds, (Option.some.inj found).symm⟩
  · cases found

theorem rowOf?_eq_some {value : Binary64} {row : Nat} (found : rowOf? value = some row) :
    ∃ number, value.wholeNumber? = some number ∧ (1 ≤ number ∧ number ≤ rowCount) ∧
      row = number.toNat - 1 := by
  unfold rowOf? at found
  obtain ⟨number, whole, found⟩ := Option.bind_eq_some_iff.mp found
  split at found
  · next inBounds => exact ⟨number, whole, inBounds, (Option.some.inj found).symm⟩
  · cases found

/-- A reference that is found is one of the grammar's. -/
theorem reference_sound {sheet : Option Text} {tokens rest : List Token} {value : Expr}
    (read : reference sheet tokens = .ok (some (value, rest))) :
    ∃ used, tokens = used ++ rest ∧ Refers sheet used value := by
  unfold reference at read
  split at read
  · cases read
    exact ⟨_, rfl, .range ..⟩
  · cases read
    exact ⟨_, rfl, .cell ..⟩
  · next start stop _ =>
      split at read
      · next first last found =>
          obtain ⟨firstColumn, lastColumn, firstEq, lastEq, inBounds, spanEq⟩ :=
            columnSpan?_eq_some found
          cases spanEq
          cases read
          exact ⟨_, rfl, .columns firstEq lastEq inBounds⟩
      · cases read
  · next start stop _ =>
      obtain ⟨first, firstEq, found⟩ := Option.bind_eq_some_iff.mp (Except.ok.inj read)
      obtain ⟨last, lastEq, found⟩ := Option.bind_eq_some_iff.mp found
      obtain ⟨firstRow, firstWhole, firstInBounds, rfl⟩ := rowOf?_eq_some firstEq
      obtain ⟨lastRow, lastWhole, lastInBounds, rfl⟩ := rowOf?_eq_some lastEq
      cases found
      exact ⟨_, rfl, .rows firstWhole lastWhole firstInBounds lastInBounds⟩
  · cases read

/-- A reader that tries a reference first either returns a reference or what it returns otherwise. -/
theorem reference_or_sound {tokens rest : List Token} {value : Expr}
    {otherwise : Except Failure (Expr × List Token)}
    (read : (do
      match ← reference none tokens with
      | some found => return found
      | none => otherwise) = .ok (value, rest)) :
    (∃ used, tokens = used ++ rest ∧ Derives used (.single value)) ∨
      otherwise = .ok (value, rest) := by
  obtain ⟨found, referenceRead, finished⟩ := exists_of_bind_eq_ok read
  cases found with
  | some found =>
      cases finished
      obtain ⟨used, usedEq, refers⟩ := reference_sound referenceRead
      exact .inl ⟨used, usedEq, .reference refers⟩
  | none => exact .inr finished

/-! ## Signs, percent marks and chains of operators -/

theorem readSigns_sound {limit minuses : Nat} {tokens after : List Token}
    (read : readSigns limit tokens = some (minuses, after)) :
    ∃ signs, tokens = signs ++ after ∧ ∀ used value, Derives used (.signed value) →
      Derives (signs ++ used) (.signed (negated minuses value)) := by
  induction limit, tokens using readSigns.induct generalizing minuses with
  | case1 | case3 => cases read
  | case2 rest left inductionHypothesis =>
      obtain ⟨signs, rfl, derives⟩ := inductionHypothesis read
      exact ⟨_ :: signs, rfl, fun used value operand => .plus (derives used value operand)⟩
  | case4 rest left inductionHypothesis =>
      obtain ⟨⟨fewer, after⟩, readRest, countEq⟩ := Option.map_eq_some_iff.mp read
      cases countEq
      obtain ⟨signs, rfl, derives⟩ := inductionHypothesis readRest
      exact ⟨_ :: signs, rfl, fun used value operand => .minus (derives used value operand)⟩
  | case5 limit tokens notPlus notMinus =>
      rw [readSigns] at read
      · cases read
        exact ⟨[], rfl, fun _ _ operand => operand⟩
      · exact notPlus
      · exact notMinus

theorem withPercents_sound {operand value : Expr} {before tokens rest : List Token}
    (derives : Derives before (.marked operand))
    (read : withPercents operand tokens = (value, rest)) :
    ∃ used, tokens = used ++ rest ∧ Derives (before ++ used) (.marked value) := by
  induction operand, tokens using withPercents.induct generalizing before with
  | case1 operand tokens inductionHypothesis =>
      obtain ⟨used, rfl, marked⟩ := inductionHypothesis (.percent derives) read
      rw [List.append_assoc] at marked
      exact ⟨_ :: used, rfl, marked⟩
  | case2 operand tokens notPercent =>
      rw [withPercents] at read
      · cases read
        exact ⟨[], rfl, by rwa [List.append_nil]⟩
      · exact notPercent

theorem signed_sound {signs : Nat} {operand : Reader} (sound : Sound operand .single) :
    Sound (signed signs operand) .signed := by
  intro tokens value rest read
  unfold signed at read
  split at read
  · cases read
  · next minuses fromOperand signsRead =>
      obtain ⟨⟨single, afterOperand⟩, operandRead, finished⟩ := exists_of_bind_eq_ok read
      obtain ⟨before, rfl, derives⟩ := sound operandRead
      obtain ⟨after, percentsEq, marked⟩ := withPercents_sound (.unmarked derives) rfl
      obtain ⟨prefixed, rfl, negates⟩ := readSigns_sound signsRead
      cases finished
      refine ⟨prefixed ++ (before ++ after), ?_, negates _ _ (.unsigned marked)⟩
      rw [List.append_assoc, List.append_assoc, ← percentsEq]

theorem chainFrom_sound {level : Binding} {operand : Reader}
    (sound : Sound operand (operandPhrase level)) {steps tokens rest before : List Token}
    {left value : Expr} (derives : Derives before (.joined level left))
    (read : chainFrom level operand steps left tokens = .ok (value, rest)) :
    ∃ used, tokens = used ++ rest ∧ Derives (before ++ used) (.joined level value) := by
  induction steps, left, tokens using chainFrom.induct level generalizing before with
  | case1 _ steps left operator tokens binds inductionHypothesis =>
      rw [chainFrom, if_pos binds] at read
      obtain ⟨⟨right, after⟩, rightRead, continued⟩ := exists_of_bind_eq_ok read
      obtain ⟨rightUsed, rfl, rightDerives⟩ := sound rightRead
      obtain ⟨used, rfl, joined⟩ :=
        inductionHypothesis right after (.binary derives binds rightDerives) continued
      refine ⟨.operator operator :: (rightUsed ++ used), by simp, ?_⟩
      simpa using joined
  | case2 _ steps left operator tokens other =>
      rw [chainFrom, if_neg other] at read
      cases read
      exact ⟨[], rfl, by rwa [List.append_nil]⟩
  | case3 steps left tokens stops =>
      rw [chainFrom] at read
      · cases read
        exact ⟨[], rfl, by rwa [List.append_nil]⟩
      · exact stops

theorem chain_sound {level : Binding} {operand : Reader}
    (sound : Sound operand (operandPhrase level)) : Sound (chain level operand) (.joined level) := by
  intro tokens value rest read
  obtain ⟨⟨left, afterLeft⟩, leftRead, continued⟩ := exists_of_bind_eq_ok read
  obtain ⟨before, rfl, derives⟩ := sound leftRead
  obtain ⟨used, rfl, joined⟩ := chainFrom_sound sound (.alone derives) continued
  exact ⟨before ++ used, (List.append_assoc ..).symm, joined⟩

theorem expression_sound {signs : Nat} {operand : Reader} (sound : Sound operand .single) :
    Sound (expression signs operand) (.joined .comparison) :=
  have power : Sound (chain .power (signed signs operand)) (.joined .power) :=
    chain_sound (signed_sound sound)
  have product : Sound (chain .product _) (.joined .product) := chain_sound power
  have sum : Sound (chain .sum _) (.joined .sum) := chain_sound product
  have concatenation : Sound (chain .concatenation _) (.joined .concatenation) := chain_sound sum
  chain_sound concatenation

/-! ## Brackets -/

theorem group_sound {inner : Reader} (sound : Sound inner (.joined .comparison))
    {tokens rest : List Token} {value : Expr} (read : group inner tokens = .ok (value, rest)) :
    ∃ used, tokens = used ++ rest ∧ Derives (.openParenthesis :: used) (.single value) := by
  obtain ⟨⟨inside, afterInside⟩, insideRead, finished⟩ := exists_of_bind_eq_ok read
  obtain ⟨used, rfl, derives⟩ := sound insideRead
  split at finished
  · next closed =>
      cases closed
      cases finished
      exact ⟨used ++ [.closeParenthesis], by simp, .group derives⟩
  · cases finished
  · cases finished

theorem arguments_sound {argument : Reader} (sound : Sound argument (.joined .comparison))
    {steps tokens rest : List Token} {values : List Expr}
    (read : arguments argument steps tokens = .ok (values, rest)) :
    ∃ used, tokens = used ++ .closeParenthesis :: rest ∧ Derives used (.arguments values) := by
  induction steps, tokens using arguments.induct generalizing values with
  | case1 steps =>
      rw [arguments] at read
      cases read
  | case2 steps tokens =>
      rw [arguments] at read
      cases read
      exact ⟨[], rfl, .lastArgument .omitted⟩
  | case3 _ steps tokens inductionHypothesis | case4 _ steps tokens inductionHypothesis =>
      rw [arguments] at read
      obtain ⟨⟨others, after⟩, othersRead, finished⟩ := exists_of_bind_eq_ok read
      cases finished
      obtain ⟨used, rfl, derives⟩ := inductionHypothesis othersRead
      exact ⟨_ :: used, rfl, .nextArgument .omitted rfl derives⟩
  -- An argument is given; the token after it decides how the list goes on.
  | case5 _ steps tokens notEnd notClosed notComma notSemicolon inductionHypothesis =>
      rw [arguments] at read
      · obtain ⟨⟨first, afterFirst⟩, firstRead, continued⟩ := exists_of_bind_eq_ok read
        obtain ⟨before, rfl, firstDerives⟩ := sound firstRead
        dsimp only at continued
        split at continued
        · cases continued
        · cases continued
          exact ⟨before, rfl, .lastArgument (.given firstDerives)⟩
        · obtain ⟨⟨others, after⟩, othersRead, finished⟩ := exists_of_bind_eq_ok continued
          cases finished
          obtain ⟨used, rfl, derives⟩ := inductionHypothesis _ othersRead
          exact ⟨before ++ .comma :: used, by simp, .nextArgument (.given firstDerives) rfl derives⟩
        · obtain ⟨⟨others, after⟩, othersRead, finished⟩ := exists_of_bind_eq_ok continued
          cases finished
          obtain ⟨used, rfl, derives⟩ := inductionHypothesis _ othersRead
          exact ⟨before ++ .semicolon :: used, by simp,
            .nextArgument (.given firstDerives) rfl derives⟩
        · cases continued
      · exact notEnd
      · exact notClosed
      · exact notComma
      · exact notSemicolon
  | case6 tokens notEnd notClosed =>
      rw [arguments] at read
      · cases read
      · exact notEnd
      · exact notClosed

theorem call_sound {function : Text} {argument : Reader}
    (sound : Sound argument (.joined .comparison)) {tokens rest : List Token} {value : Expr}
    (read : call function argument tokens = .ok (value, rest)) :
    ∃ used, tokens = used ++ rest ∧
      Derives (.identifier function :: .openParenthesis :: used) (.single value) := by
  unfold call at read
  split at read
  · cases read
    exact ⟨[.closeParenthesis], rfl, .callEmpty function⟩
  · next notClosed =>
      obtain ⟨⟨values, after⟩, valuesRead, finished⟩ := exists_of_bind_eq_ok read
      obtain ⟨used, rfl, derives⟩ := arguments_sound sound valuesRead
      cases finished
      have nonempty : used ≠ [] := by
        rintro rfl
        exact notClosed _ rfl
      exact ⟨used ++ [.closeParenthesis], by simp, .call nonempty derives⟩

theorem arrayRows_sound {item : Reader} (sound : Sound item .signed)
    {steps tokens rest : List Token} {rows : List (List Expr)}
    (read : arrayRows item steps tokens = .ok (rows, rest)) :
    ∃ used, tokens = used ++ .closeBrace :: rest ∧ Derives used (.rows rows) := by
  induction steps, tokens using arrayRows.induct generalizing rows with
  | case1 _ steps tokens inductionHypothesis =>
      rw [arrayRows] at read
      obtain ⟨⟨first, afterFirst⟩, firstRead, continued⟩ := exists_of_bind_eq_ok read
      obtain ⟨before, rfl, firstDerives⟩ := sound firstRead
      dsimp only at continued
      split at continued
      · cases continued
      · cases continued
        exact ⟨before, rfl, .lastItem firstDerives⟩
      · obtain ⟨⟨others, after⟩, othersRead, finished⟩ := exists_of_bind_eq_ok continued
        cases finished
        obtain ⟨used, rfl, derives⟩ := inductionHypothesis _ othersRead
        obtain ⟨row, rows, rfl⟩ := derives.rows_eq_cons
        exact ⟨before ++ .comma :: used, by simp, .nextItem firstDerives derives⟩
      · obtain ⟨⟨others, after⟩, othersRead, finished⟩ := exists_of_bind_eq_ok continued
        cases finished
        obtain ⟨used, rfl, derives⟩ := inductionHypothesis _ othersRead
        exact ⟨before ++ .semicolon :: used, by simp, .nextRow firstDerives derives⟩
      · cases continued
  | case2 tokens =>
      rw [arrayRows] at read
      cases read

theorem array_sound {item : Reader} (sound : Sound item .signed) {tokens rest : List Token}
    {value : Expr} (read : array item (.openBrace :: tokens) = .ok (value, rest)) :
    ∃ used, tokens = used ++ rest ∧ Derives (.openBrace :: used) (.single value) := by
  obtain ⟨⟨rows, after⟩, rowsRead, finished⟩ := exists_of_bind_eq_ok read
  obtain ⟨used, usedEq, derives⟩ := arrayRows_sound sound rowsRead
  cases finished
  exact ⟨used ++ [.closeBrace], by rw [List.append_assoc]; exact usedEq, .array derives⟩

/-! ## Operands -/

theorem qualifiedReference_sound {sheet : Text} {tokens rest : List Token} {value : Expr}
    (read : qualifiedReference sheet tokens = .ok (value, rest)) :
    ∃ used, tokens = used ++ rest ∧ Derives (.qualifier sheet :: used) (.single value) := by
  obtain ⟨found, referenceRead, finished⟩ := exists_of_bind_eq_ok read
  cases found with
  | none => cases finished
  | some found =>
      cases finished
      obtain ⟨used, rfl, refers⟩ := reference_sound referenceRead
      exact ⟨used, rfl, .qualified refers⟩

theorem bareIdentifier_sound {name : Text} {tokens rest : List Token} {value : Expr}
    (read : bareIdentifier name tokens = .ok (value, rest)) :
    ∃ used, .identifier name :: tokens = used ++ rest ∧ Derives used (.single value) := by
  unfold bareIdentifier at read
  split at read
  · next isTrue =>
      cases read
      exact ⟨[.identifier name], rfl, isTrue ▸ .trueName⟩
  · next notTrue =>
      split at read
      · next isFalse =>
          cases read
          exact ⟨[.identifier name], rfl, isFalse ▸ .falseName⟩
      · next notFalse =>
          rcases reference_or_sound read with found | isName
          · exact found
          · split at isName
            · cases isName
            · next unmarked =>
                cases isName
                exact ⟨[.identifier name], rfl, .name notTrue notFalse (by simpa using unmarked)⟩

/-- A single operand is one of the grammar's, if the operands inside its brackets are. -/
theorem operandWith_sound {signs : Nat} {inner : Option Reader}
    (sound : ∀ operand, inner = some operand → Sound operand .single) :
    Sound (operandWith signs inner) .single := by
  intro tokens value rest read
  unfold operandWith at read
  -- One case for each kind of first token, and one for no token.
  split at read
  · cases read
  · cases read
    exact ⟨[_], rfl, .text _⟩
  · cases read
    exact ⟨[_], rfl, .error _⟩
  · obtain ⟨used, rfl, derives⟩ := qualifiedReference_sound read
    exact ⟨_ :: used, rfl, derives⟩
  · split at read
    · next operand =>
        obtain ⟨used, rfl, derives⟩ := call_sound (expression_sound (sound operand rfl)) read
        exact ⟨_ :: _ :: used, rfl, derives⟩
    · cases read
  · exact bareIdentifier_sound read
  · split at read
    · next operand =>
        obtain ⟨used, rfl, derives⟩ := group_sound (expression_sound (sound operand rfl)) read
        exact ⟨_ :: used, rfl, derives⟩
    · cases read
  · split at read
    · next operand =>
        obtain ⟨used, rfl, derives⟩ := array_sound (signed_sound (sound operand rfl)) read
        exact ⟨_ :: used, rfl, derives⟩
    · cases read
  · rcases reference_or_sound read with found | isNumber
    · exact found
    · cases isNumber
      exact ⟨[_], rfl, .number _⟩
  · rcases reference_or_sound read with found | failed
    · exact found
    · cases failed
  · cases read

theorem operand_sound (signs brackets : Nat) : Sound (operand signs brackets) .single := by
  induction brackets with
  | zero => exact operandWith_sound fun _ impossible => nomatch impossible
  | succ brackets inductionHypothesis =>
      refine operandWith_sound fun operand isInner => ?_
      cases isInner
      exact inductionHypothesis

/-- Whatever a descent returns is derived from the tokens that it used. -/
theorem descend_sound (budget : Budget) : Sound (descend budget) (.joined .comparison) :=
  expression_sound (operand_sound budget.signs budget.brackets)

end SheetEditor.Formula.Descent

namespace SheetEditor.Formula

/-- A body that parses has tokens that form the expression. -/
theorem derives_of_parse {body : Text} {value : Expr} (parsed : parse body = .ok value) :
    ∃ tokens, Token.scanAll body = .ok tokens ∧ Derives tokens (.joined .comparison value) := by
  unfold parse at parsed
  split at parsed
  · cases parsed
  · cases scanned : Token.scanAll body with
    | error failure =>
        rw [scanned] at parsed
        cases parsed
    | ok tokens =>
        refine ⟨tokens, rfl, ?_⟩
        have descended : parseTokens tokens = .ok value := by
          simp only [scanned, bind, Except.bind] at parsed
          split at parsed
          · cases parsed
          · split at parsed
            · cases parsed
            · exact parsed
        unfold parseTokens at descended
        split at descended
        · next read =>
            cases descended
            obtain ⟨used, usedEq, derives⟩ := Descent.descend_sound _ read
            rw [List.append_nil] at usedEq
            exact usedEq ▸ derives
        · cases descended
        · cases descended

end SheetEditor.Formula
