import SheetEditor.Formula.Parser
import SheetEditor.Proofs.Formula.Soundness

/-!
Contract: the descent reads whatever the grammar derives.

Owns: the tokens that would continue a phrase, the reading of every phrase that
such a token does not follow, and the agreement of the descent with the grammar.

A reader takes the longest phrase it can. A derivation has to end where the reader
ends, so each phrase is read in front of tokens that cannot continue it. The left
operand of an operator ends in front of that operator, which does continue the
phrase. For a chain of operators the statement is therefore that the reader comes
to the end of the phrase and goes on from there.
-/

namespace SheetEditor

/-- The rank of a level of binding; tighter levels have greater ranks. -/
def Binding.tightness : Binding → Nat
  | .comparison => 0
  | .concatenation => 1
  | .sum => 2
  | .product => 3
  | .power => 4

namespace Formula

namespace Token

/-! ## Tokens that continue a phrase -/

/-- Whether a token right after a single operand would be read with it. -/
def continuesSingle : Token → Bool
  | .colon | .openParenthesis => true
  | _ => false

/-- Whether a token would be read with a marked operand before it. -/
def continuesMarked : Token → Bool
  | .percent => true
  | token => token.continuesSingle

/-- Whether a token would be read with an operand of a level before it. -/
def continuesOperand (level : Binding) : Token → Bool
  | .operator joining => level.tightness < joining.binding.tightness
  | token => token.continuesMarked

/-- Whether a token would be read with a phrase of a level before it. -/
def continuesJoined (level : Binding) : Token → Bool
  | .operator joining => level.tightness ≤ joining.binding.tightness
  | token => token.continuesMarked

end Token

/-- Tokens of which the first one, if there is one, does not continue a phrase. -/
def EndsBefore (continues : Token → Bool) (rest : List Token) : Prop :=
  ∀ token ∈ rest.head?, continues token = false

theorem EndsBefore.mono {stronger weaker : Token → Bool} {rest : List Token}
    (ends : EndsBefore stronger rest)
    (implied : ∀ token, weaker token = true → stronger token = true) : EndsBefore weaker rest := by
  intro token first
  have stops := ends token first
  cases continuation : weaker token with
  | false => rfl
  | true => rw [implied token continuation] at stops; cases stops

theorem EndsBefore.operand {level : Binding} {rest : List Token}
    (ends : EndsBefore (Token.continuesJoined level) rest) :
    EndsBefore (Token.continuesOperand level) rest := by
  refine ends.mono fun token continues => ?_
  cases token with
  | operator operator =>
      simp only [Token.continuesOperand, Token.continuesJoined, decide_eq_true_eq] at continues ⊢
      exact Nat.le_of_lt continues
  | _ => exact continues

theorem EndsBefore.marked {level : Binding} {rest : List Token}
    (ends : EndsBefore (Token.continuesOperand level) rest) :
    EndsBefore Token.continuesMarked rest := by
  refine ends.mono fun token continues => ?_
  cases token with
  | operator operator => cases continues
  | _ => exact continues

theorem EndsBefore.single {rest : List Token} (ends : EndsBefore Token.continuesMarked rest) :
    EndsBefore Token.continuesSingle rest := by
  refine ends.mono fun token continues => ?_
  cases token with
  | percent => rfl
  | _ => exact continues

namespace Descent

/-! ## References -/

theorem columnSpan?_of_inBounds {start stop : Text} {first last : Nat}
    (firstColumn : Column.number? (start.dropWhile (· = '$')) = some first)
    (lastColumn : Column.number? (stop.dropWhile (· = '$')) = some last)
    (inBounds : first ≤ columnCount ∧ last ≤ columnCount) :
    columnSpan? start stop = some (first - 1, last - 1) := by
  simp [columnSpan?, firstColumn, lastColumn, inBounds]

theorem rowOf?_of_inBounds {value : Binary64} {number : Int}
    (whole : value.wholeNumber? = some number) (inBounds : 1 ≤ number ∧ number ≤ rowCount) :
    rowOf? value = some (number.toNat - 1) := by
  simp [rowOf?, whole, inBounds]

/-- A reference that no colon follows is read. -/
theorem reference_complete {sheet : Option Text} {tokens rest : List Token} {value : Expr}
    (refers : Refers sheet tokens value) (ends : EndsBefore Token.continuesSingle rest) :
    reference sheet (tokens ++ rest) = .ok (some (value, rest)) := by
  cases refers with
  | cell address columnAbsolute rowAbsolute =>
      cases rest with
      | nil => rfl
      | cons token rest =>
          have stops := ends token rfl
          cases token with
          | colon => cases stops
          | _ => rfl
  | range => rfl
  | columns firstColumn lastColumn inBounds =>
      simp [reference, columnSpan?_of_inBounds firstColumn lastColumn inBounds]
  | rows firstRow lastRow firstInBounds lastInBounds =>
      simp [reference, rowOf?_of_inBounds firstRow firstInBounds,
        rowOf?_of_inBounds lastRow lastInBounds]

/-- A number that no colon follows is no reference. -/
theorem reference_number {sheet : Option Text} {value : Binary64} {rest : List Token}
    (ends : EndsBefore Token.continuesSingle rest) :
    reference sheet (.number value :: rest) = .ok none := by
  cases rest with
  | nil => rfl
  | cons token rest =>
      have stops := ends token rfl
      cases token with
      | colon => cases stops
      | _ => rfl

/-- An identifier that no colon follows is no reference. -/
theorem reference_identifier {sheet : Option Text} {name : Text} {rest : List Token}
    (ends : EndsBefore Token.continuesSingle rest) :
    reference sheet (.identifier name :: rest) = .ok none := by
  cases rest with
  | nil => rfl
  | cons token rest =>
      have stops := ends token rfl
      cases token with
      | colon => cases stops
      | _ => rfl

/-! ## Operands without brackets -/

/-- An identifier that no parenthesis follows is not called. -/
theorem operandWith_identifier {signs : Nat} {inner : Option Reader} {name : Text}
    {rest : List Token} (ends : EndsBefore Token.continuesSingle rest) :
    operandWith signs inner (.identifier name :: rest) = bareIdentifier name rest := by
  cases rest with
  | nil => rfl
  | cons token rest =>
      have stops := ends token rfl
      cases token with
      | openParenthesis => cases stops
      | _ => rfl

/-- A truth value names no column: both have more letters than a column can have. -/
theorem column_ne_truthValue {name : Text} {column : Nat}
    (found : Column.number? (name.dropWhile (· = '$')) = some column) :
    name ≠ "TRUE".toList ∧ name ≠ "FALSE".toList := by
  have noTrueColumn : Column.number? ("TRUE".toList.dropWhile (· = '$')) = none := by decide
  have noFalseColumn : Column.number? ("FALSE".toList.dropWhile (· = '$')) = none := by decide
  constructor
  · rintro rfl
    cases noTrueColumn.symm.trans found
  · rintro rfl
    cases noFalseColumn.symm.trans found

/-- An unqualified reference is read as an operand. -/
theorem operandWith_reference {signs : Nat} {inner : Option Reader} {tokens rest : List Token}
    {value : Expr} (refers : Refers none tokens value)
    (ends : EndsBefore Token.continuesSingle rest) :
    operandWith signs inner (tokens ++ rest) = .ok (value, rest) := by
  have read := reference_complete refers ends
  cases refers with
  | cell | range | rows =>
      simp only [List.cons_append, List.nil_append] at read ⊢
      rw [operandWith, read]
      rfl
  | columns firstColumn lastColumn inBounds =>
      obtain ⟨notTrue, notFalse⟩ := column_ne_truthValue firstColumn
      simp only [List.cons_append, List.nil_append] at read ⊢
      show bareIdentifier _ _ = _
      rw [bareIdentifier, if_neg notTrue, if_neg notFalse, read]
      rfl

/-! ## Signs, percent marks and chains of operators -/

/-- Reads an operand with the percent marks after it. -/
def marked (operand : Reader) : Reader := fun tokens => do
  let (value, after) ← operand tokens
  return withPercents value after

theorem signed_eq (signs : Nat) (operand : Reader) (tokens : List Token) :
    signed signs operand tokens =
      match readSigns signs tokens with
      | none => .error .exhausted
      | some (minuses, fromOperand) => do
          let (value, rest) ← marked operand fromOperand
          return (negated minuses value, rest) := by
  unfold signed marked
  cases readSigns signs tokens with
  | none => rfl
  | some run =>
      dsimp only
      cases operand run.2 with
      | error failure => rfl
      | ok read => rfl

/-- Reads an operand of a level. -/
def levelOperand (signs : Nat) (operand : Reader) : Binding → Reader
  | .comparison =>
      chain .concatenation <| chain .sum <| chain .product <| chain .power <| signed signs operand
  | .concatenation => chain .sum <| chain .product <| chain .power <| signed signs operand
  | .sum => chain .product <| chain .power <| signed signs operand
  | .product => chain .power <| signed signs operand
  | .power => signed signs operand

/-- Nothing that does not continue a chain is read on. -/
theorem chainFrom_ends {level : Binding} {operand : Reader} {steps rest : List Token} {value : Expr}
    (ends : EndsBefore (Token.continuesJoined level) rest) :
    chainFrom level operand steps value rest = .ok (value, rest) := by
  cases steps with
  | nil => rfl
  | cons step steps =>
      cases rest with
      | nil => rfl
      | cons token rest =>
          have stops := ends token rfl
          cases token with
          | operator operator =>
              rw [chainFrom, if_neg]
              rintro rfl
              simp [Token.continuesJoined] at stops
          | _ => rfl

/-! ## Phrases -/

/-- The readers inside so many brackets read a phrase wherever no token continues it. A chain of
operators is read up to its end, from where its reader goes on. -/
def Reads (signs : Nat) (operand : Reader) (used : List Token) : Phrase → Prop
  | .joined level value => ∀ rest, EndsBefore (Token.continuesOperand level) rest →
      ∃ steps, rest.length ≤ steps.length ∧
        chain level (levelOperand signs operand level) (used ++ rest) =
          chainFrom level (levelOperand signs operand level) steps value rest
  | .signed value => ∀ limit rest, used.length ≤ limit → EndsBefore Token.continuesMarked rest →
      ∃ minuses size fromOperand, readSigns limit (used ++ rest) = some (minuses, fromOperand) ∧
        marked operand fromOperand = .ok (size, rest) ∧ value = negated minuses size
  | .marked value => ∀ rest, EndsBefore Token.continuesSingle rest →
      marked operand (used ++ rest) = .ok (withPercents value rest)
  | .single value => ∀ rest, EndsBefore Token.continuesSingle rest →
      operand (used ++ rest) = .ok (value, rest)
  | .argument value => used = [] ∧ value = .omitted ∨
      BeginsWith Token.beginsExpression used ∧
        ∀ rest, EndsBefore (Token.continuesJoined .comparison) rest →
          expression signs operand (used ++ rest) = .ok (value, rest)
  | .arguments values => ∀ steps rest, used.length < steps.length →
      arguments (expression signs operand) steps (used ++ .closeParenthesis :: rest) =
        .ok (values, rest)
  | .rows rows => ∀ steps rest, used.length < steps.length →
      arrayRows (signed signs operand) steps (used ++ .closeBrace :: rest) = .ok (rows, rest)

variable {signs : Nat} {operand : Reader} {used rest : List Token} {value : Expr}

theorem Reads.signed_eq_ok (reads : Reads signs operand used (.signed value))
    (short : used.length ≤ signs) (ends : EndsBefore Token.continuesMarked rest) :
    signed signs operand (used ++ rest) = .ok (value, rest) := by
  obtain ⟨minuses, size, fromOperand, signsRead, operandRead, rfl⟩ := reads signs rest short ends
  rw [signed_eq, signsRead]
  dsimp only
  rw [operandRead]
  rfl

theorem Reads.chain_eq_ok {level : Binding} (reads : Reads signs operand used (.joined level value))
    (ends : EndsBefore (Token.continuesJoined level) rest) :
    chain level (levelOperand signs operand level) (used ++ rest) = .ok (value, rest) := by
  obtain ⟨steps, _, read⟩ := reads rest ends.operand
  rw [read, chainFrom_ends ends]

theorem Reads.levelOperand_eq_ok {level : Binding}
    (reads : Reads signs operand used (operandPhrase level value)) (short : used.length ≤ signs)
    (ends : EndsBefore (Token.continuesOperand level) rest) :
    levelOperand signs operand level (used ++ rest) = .ok (value, rest) := by
  cases level with
  | comparison => exact chain_eq_ok reads ends
  | concatenation => exact chain_eq_ok reads ends
  | sum => exact chain_eq_ok reads ends
  | product => exact chain_eq_ok reads ends
  | power => exact signed_eq_ok reads short ends.marked

theorem Reads.expression_eq_ok (reads : Reads signs operand used (.joined .comparison value))
    (ends : EndsBefore (Token.continuesJoined .comparison) rest) :
    expression signs operand (used ++ rest) = .ok (value, rest) :=
  reads.chain_eq_ok ends

/-! ## Joined and signed operands -/

theorem Reads.alone {level : Binding} (short : used.length ≤ signs)
    (reads : Reads signs operand used (operandPhrase level value)) :
    Reads signs operand used (.joined level value) := by
  intro rest ends
  refine ⟨rest, Nat.le_refl _, ?_⟩
  unfold chain
  rw [reads.levelOperand_eq_ok short ends]
  rfl

theorem Reads.binary {level : Binding} {before after : List Token} {left right : Expr}
    {operator : BinaryOperator} (leftReads : Reads signs operand before (.joined level left))
    (binds : operator.binding = level) (short : after.length ≤ signs)
    (rightReads : Reads signs operand after (operandPhrase level right)) :
    Reads signs operand (before ++ .operator operator :: after)
      (.joined level (.binary operator left right)) := by
  intro rest ends
  have endsLeft : EndsBefore (Token.continuesOperand level)
      (.operator operator :: (after ++ rest)) := by
    intro token first
    cases first
    simp [Token.continuesOperand, binds]
  obtain ⟨steps, enough, read⟩ := leftReads _ endsLeft
  cases steps with
  | nil => simp at enough
  | cons step steps =>
      refine ⟨steps, ?_, ?_⟩
      · simp only [List.length_cons, List.length_append] at enough
        omega
      · rw [List.append_assoc, List.cons_append, read, chainFrom, if_pos binds,
          rightReads.levelOperand_eq_ok short ends]
        rfl

theorem withPercents_ends (ends : EndsBefore Token.continuesMarked rest) :
    withPercents value rest = (value, rest) := by
  cases rest with
  | nil => rfl
  | cons token rest =>
      have stops := ends token rfl
      cases token with
      | percent => cases stops
      | _ => rfl

/-- No sign is read where an operand begins. -/
theorem readSigns_operand {limit : Nat} {tokens : List Token}
    (begins : BeginsWith Token.beginsOperand tokens) : readSigns limit tokens = some (0, tokens) := by
  obtain ⟨first, rest, rfl, passes⟩ := begins
  cases first with
  | operator => cases passes
  | _ => simp [readSigns]

theorem Reads.unsigned (begins : BeginsWith Token.beginsOperand used)
    (reads : Reads signs operand used (.marked value)) : Reads signs operand used (.signed value) := by
  intro limit rest _ ends
  have read := reads rest ends.single
  rw [withPercents_ends ends] at read
  exact ⟨0, value, used ++ rest, readSigns_operand (begins.append rest), read, rfl⟩

theorem Reads.plus (reads : Reads signs operand used (.signed value)) :
    Reads signs operand (.operator .add :: used) (.signed value) := by
  intro limit rest short ends
  cases limit with
  | zero => simp at short
  | succ limit =>
      exact reads limit rest (Nat.le_of_succ_le_succ short) ends

theorem Reads.minus (reads : Reads signs operand used (.signed value)) :
    Reads signs operand (.operator .subtract :: used) (.signed (.negate value)) := by
  intro limit rest short ends
  cases limit with
  | zero => simp at short
  | succ limit =>
      obtain ⟨minuses, size, fromOperand, signsRead, operandRead, rfl⟩ :=
        reads limit rest (Nat.le_of_succ_le_succ short) ends
      refine ⟨minuses + 1, size, fromOperand, ?_, operandRead, rfl⟩
      rw [List.cons_append, readSigns, signsRead]
      rfl

theorem Reads.unmarked (reads : Reads signs operand used (.single value)) :
    Reads signs operand used (.marked value) := by
  intro rest ends
  unfold marked
  rw [reads rest ends]
  rfl

theorem Reads.percent (reads : Reads signs operand used (.marked value)) :
    Reads signs operand (used ++ [.percent]) (.marked (.percent value)) := by
  intro rest _
  rw [List.append_assoc]
  exact reads (.percent :: rest) fun token first => by cases first; rfl

/-! ## Arguments and rows -/

/-- A reader with a step for every token still has one for every token after a separator. -/
private theorem steps_after_separator {before after steps : List Token} {separator : Token}
    (long : (before ++ separator :: after).length < steps.length) :
    ∃ step others, steps = step :: others ∧ after.length < others.length := by
  cases steps with
  | nil => cases long
  | cons step others =>
      simp only [List.length_append, List.length_cons] at long
      exact ⟨step, others, rfl, by omega⟩

/-- Where an expression begins, an argument is read. -/
theorem arguments_of_begins {argument : Reader} {step : Token} {steps tokens : List Token}
    (begins : BeginsWith Token.beginsExpression tokens) :
    arguments argument (step :: steps) tokens = (do
      let (first, afterFirst) ← argument tokens
      match afterFirst with
      | [] => throw .missingCloseParenthesis
      | .closeParenthesis :: rest => return ([first], rest)
      | .comma :: rest | .semicolon :: rest => do
          let (others, after) ← arguments argument steps rest
          return (first :: others, after)
      | remaining => throw (.unexpected remaining)) := by
  obtain ⟨first, rest, rfl, passes⟩ := begins
  cases first with
  | closeParenthesis | comma | semicolon => cases passes
  | _ => rfl

theorem Reads.lastArgument (reads : Reads signs operand used (.argument value)) :
    Reads signs operand used (.arguments [value]) := by
  intro steps rest long
  cases steps with
  | nil => cases long
  | cons step steps =>
      cases reads with
      | inl omitted =>
          obtain ⟨rfl, rfl⟩ := omitted
          rfl
      | inr given =>
          rw [arguments_of_begins (given.1.append _),
            given.2 (.closeParenthesis :: rest) fun token first => by cases first; rfl]
          rfl

theorem Reads.nextArgument {before after : List Token} {values : List Expr} {separator : Token}
    (firstReads : Reads signs operand before (.argument value))
    (separates : separator.isSeparator = true)
    (othersRead : Reads signs operand after (.arguments values)) :
    Reads signs operand (before ++ separator :: after) (.arguments (value :: values)) := by
  intro steps rest long
  obtain ⟨step, steps, rfl, longAfter⟩ := steps_after_separator long
  have others := othersRead steps rest longAfter
  rw [List.append_assoc, List.cons_append]
  cases firstReads with
  | inl omitted =>
      obtain ⟨rfl, rfl⟩ := omitted
      cases separator with
      | comma | semicolon =>
          rw [List.nil_append, arguments, others]
          rfl
      | _ => cases separates
  | inr given =>
      cases separator with
      | comma | semicolon =>
          rw [arguments_of_begins (given.1.append _),
            given.2 _ fun token first => by cases first; rfl]
          show (arguments _ _ _ >>= _) = _
          rw [others]
          rfl
      | _ => cases separates

theorem Reads.lastItem (short : used.length ≤ signs)
    (reads : Reads signs operand used (.signed value)) :
    Reads signs operand used (.rows [[value]]) := by
  intro steps rest long
  cases steps with
  | nil => cases long
  | cons step steps =>
      rw [arrayRows, reads.signed_eq_ok short fun token first => by cases first; rfl]
      rfl

theorem Reads.nextItem {before after : List Token} {row : List Expr} {rows : List (List Expr)}
    (short : before.length ≤ signs) (firstReads : Reads signs operand before (.signed value))
    (othersRead : Reads signs operand after (.rows (row :: rows))) :
    Reads signs operand (before ++ .comma :: after) (.rows ((value :: row) :: rows)) := by
  intro steps rest long
  obtain ⟨step, steps, rfl, longAfter⟩ := steps_after_separator long
  rw [List.append_assoc, List.cons_append, arrayRows,
    firstReads.signed_eq_ok short fun token first => by cases first; rfl]
  show (arrayRows _ _ _ >>= _) = _
  rw [othersRead steps rest longAfter]
  rfl

theorem Reads.nextRow {before after : List Token} {rows : List (List Expr)}
    (short : before.length ≤ signs) (firstReads : Reads signs operand before (.signed value))
    (othersRead : Reads signs operand after (.rows rows)) :
    Reads signs operand (before ++ .semicolon :: after) (.rows ([value] :: rows)) := by
  intro steps rest long
  obtain ⟨step, steps, rfl, longAfter⟩ := steps_after_separator long
  rw [List.append_assoc, List.cons_append, arrayRows,
    firstReads.signed_eq_ok short fun token first => by cases first; rfl]
  show (arrayRows _ _ _ >>= _) = _
  rw [othersRead steps rest longAfter]
  rfl

/-! ## Single operands -/

variable {inner : Option Reader} {brackets : Nat}

theorem operandWith_name {name : Text} (notTrue : name ≠ "TRUE".toList)
    (notFalse : name ≠ "FALSE".toList) (unmarked : name.contains '$' = false)
    (ends : EndsBefore Token.continuesSingle rest) :
    operandWith signs inner (.identifier name :: rest) = .ok (.name name, rest) := by
  rw [operandWith_identifier ends, bareIdentifier, if_neg notTrue, if_neg notFalse,
    reference_identifier ends]
  show (if name.contains '$' then _ else _) = _
  rw [unmarked]
  rfl

theorem operandWith_number {number : Binary64} (ends : EndsBefore Token.continuesSingle rest) :
    operandWith signs inner (.number number :: rest) = .ok (.number number, rest) := by
  rw [operandWith, reference_number ends]
  rfl

theorem operandWith_qualified {sheet : Text} (refers : Refers (some sheet) used value)
    (ends : EndsBefore Token.continuesSingle rest) :
    operandWith signs inner (.qualifier sheet :: (used ++ rest)) = .ok (value, rest) := by
  rw [operandWith, qualifiedReference, reference_complete refers ends]
  rfl

theorem operand_group (reads : Reads signs (Descent.operand signs brackets) used
    (.joined .comparison value)) :
    Descent.operand signs (brackets + 1) (.openParenthesis :: (used ++ .closeParenthesis :: rest)) =
      .ok (value, rest) := by
  show group (expression signs (Descent.operand signs brackets)) _ = _
  rw [group, reads.expression_eq_ok fun token first => by cases first; rfl]
  rfl

theorem operand_call {function : Text} {values : List Expr} (nonempty : used ≠ [])
    (begins : ∀ first ∈ used.head?, first ≠ .closeParenthesis)
    (reads : Reads signs (Descent.operand signs brackets) used (.arguments values)) :
    Descent.operand signs (brackets + 1)
        (.identifier function :: .openParenthesis :: (used ++ .closeParenthesis :: rest)) =
      .ok (.call function values, rest) := by
  show call function (expression signs (Descent.operand signs brackets)) _ = _
  have long : used.length < (used ++ .closeParenthesis :: rest).length := by
    rw [List.length_append, List.length_cons]
    omega
  rw [call]
  · rw [reads _ rest long]
    rfl
  · obtain ⟨first, others, rfl⟩ := List.exists_cons_of_ne_nil nonempty
    intro after closed
    exact begins first rfl (List.cons.inj closed).1

theorem operand_array {rows : List (List Expr)}
    (reads : Reads signs (Descent.operand signs brackets) used (.rows rows)) :
    Descent.operand signs (brackets + 1) (.openBrace :: (used ++ .closeBrace :: rest)) =
      .ok (.array rows, rest) := by
  show array (signed signs (Descent.operand signs brackets)) _ = _
  have long : used.length < (.openBrace :: (used ++ .closeBrace :: rest)).length := by
    rw [List.length_cons, List.length_append, List.length_cons]
    omega
  rw [array, List.tail_cons, reads _ rest long]
  rfl

/-- Operands without brackets are read whatever the budget. -/
theorem reads_single (reads : ∀ inner rest, EndsBefore Token.continuesSingle rest →
    operandWith signs inner (used ++ rest) = .ok (value, rest)) (brackets : Nat) :
    Reads signs (Descent.operand signs brackets) used (.single value) := by
  intro rest ends
  cases brackets with
  | zero => exact reads none rest ends
  | succ brackets => exact reads _ rest ends

/-! ## All phrases -/

/-- A phrase is read by every reader whose budget is at least the number of its tokens. -/
theorem reads_of_derives {phrase : Phrase} (derives : Derives used phrase)
    (signsEnough : used.length ≤ signs) (bracketsEnough : used.length ≤ brackets) :
    Reads signs (Descent.operand signs brackets) used phrase := by
  induction derives generalizing brackets with
  | alone _ inductionHypothesis =>
      exact .alone signsEnough (inductionHypothesis signsEnough bracketsEnough)
  | binary _ binds _ leftHypothesis rightHypothesis =>
      simp only [List.length_append, List.length_cons] at signsEnough bracketsEnough
      exact .binary (leftHypothesis (by omega) (by omega)) binds (by omega)
        (rightHypothesis (by omega) (by omega))
  | unsigned operand inductionHypothesis =>
      exact .unsigned operand.begins (inductionHypothesis signsEnough bracketsEnough)
  | plus _ inductionHypothesis =>
      exact .plus (inductionHypothesis (Nat.le_of_succ_le signsEnough)
        (Nat.le_of_succ_le bracketsEnough))
  | minus _ inductionHypothesis =>
      exact .minus (inductionHypothesis (Nat.le_of_succ_le signsEnough)
        (Nat.le_of_succ_le bracketsEnough))
  | unmarked _ inductionHypothesis =>
      exact .unmarked (inductionHypothesis signsEnough bracketsEnough)
  | percent _ inductionHypothesis =>
      simp only [List.length_append] at signsEnough bracketsEnough
      exact .percent (inductionHypothesis (by omega) (by omega))
  | number => exact reads_single (fun _ _ ends => operandWith_number ends) brackets
  | text | error => exact reads_single (fun _ _ _ => rfl) brackets
  | trueName | falseName =>
      exact reads_single (fun _ _ ends => operandWith_identifier ends) brackets
  | name notTrue notFalse unmarked =>
      exact reads_single (fun _ _ ends => operandWith_name notTrue notFalse unmarked ends) brackets
  | reference refers =>
      exact reads_single (fun _ _ ends => operandWith_reference refers ends) brackets
  | qualified refers =>
      exact reads_single (fun _ _ ends => operandWith_qualified refers ends) brackets
  -- Each bracket takes one from the budget and adds two tokens to the phrase.
  | @group tokens _ _ inductionHypothesis =>
      simp only [List.length_cons, List.length_append] at signsEnough bracketsEnough
      obtain ⟨brackets, rfl⟩ := Nat.exists_eq_succ_of_ne_zero (show brackets ≠ 0 by omega)
      intro rest _
      rw [List.cons_append, List.append_assoc]
      exact operand_group (inductionHypothesis (by omega) (by omega))
  | callEmpty =>
      obtain ⟨brackets, rfl⟩ := Nat.exists_eq_succ_of_ne_zero
        (show brackets ≠ 0 by rintro rfl; cases bracketsEnough)
      intro rest _
      rfl
  | @call _ tokens _ nonempty inner inductionHypothesis =>
      simp only [List.length_cons, List.length_append] at signsEnough bracketsEnough
      obtain ⟨brackets, rfl⟩ := Nat.exists_eq_succ_of_ne_zero (show brackets ≠ 0 by omega)
      intro rest _
      rw [List.cons_append, List.cons_append, List.append_assoc]
      exact operand_call nonempty inner.begins (inductionHypothesis (by omega) (by omega))
  | @array tokens _ _ inductionHypothesis =>
      simp only [List.length_cons, List.length_append] at signsEnough bracketsEnough
      obtain ⟨brackets, rfl⟩ := Nat.exists_eq_succ_of_ne_zero (show brackets ≠ 0 by omega)
      intro rest _
      rw [List.cons_append, List.append_assoc]
      exact operand_array (inductionHypothesis (by omega) (by omega))
  | omitted => exact .inl ⟨rfl, rfl⟩
  | given inner inductionHypothesis =>
      have reads := inductionHypothesis signsEnough bracketsEnough
      exact .inr ⟨inner.begins, fun rest ends => reads.expression_eq_ok ends⟩
  | lastArgument _ inductionHypothesis =>
      exact .lastArgument (inductionHypothesis signsEnough bracketsEnough)
  | nextArgument _ separates _ firstHypothesis othersHypothesis =>
      simp only [List.length_append, List.length_cons] at signsEnough bracketsEnough
      exact .nextArgument (firstHypothesis (by omega) (by omega)) separates
        (othersHypothesis (by omega) (by omega))
  | lastItem _ inductionHypothesis =>
      exact .lastItem signsEnough (inductionHypothesis signsEnough bracketsEnough)
  | nextItem _ _ firstHypothesis othersHypothesis =>
      simp only [List.length_append, List.length_cons] at signsEnough bracketsEnough
      exact .nextItem (by omega) (firstHypothesis (by omega) (by omega))
        (othersHypothesis (by omega) (by omega))
  | nextRow _ _ firstHypothesis othersHypothesis =>
      simp only [List.length_append, List.length_cons] at signsEnough bracketsEnough
      exact .nextRow (by omega) (firstHypothesis (by omega) (by omega))
        (othersHypothesis (by omega) (by omega))

/-- The descent reads every expression that the grammar derives. -/
theorem descend_complete {budget : Budget} (derives : Derives used (.joined .comparison value))
    (signsEnough : used.length ≤ budget.signs) (bracketsEnough : used.length ≤ budget.brackets)
    (ends : EndsBefore (Token.continuesJoined .comparison) rest) :
    descend budget (used ++ rest) = .ok (value, rest) :=
  (reads_of_derives derives signsEnough bracketsEnough).expression_eq_ok ends

end Descent

/-- Tokens that derive an expression are read to their end. -/
theorem Derives.descend_eq_ok {tokens : List Token} {value : Expr}
    (derives : Derives tokens (.joined .comparison value)) :
    descend (.unlimited tokens.length) tokens = .ok (value, []) := by
  have read : descend (.unlimited tokens.length) (tokens ++ []) = .ok (value, []) :=
    Descent.descend_complete derives (Nat.le_refl _) (Nat.le_refl _)
      fun token first => by cases first
  rwa [List.append_nil] at read

/-- The grammar is unambiguous. -/
theorem Derives.value_eq {tokens : List Token} {left right : Expr}
    (leftDerives : Derives tokens (.joined .comparison left))
    (rightDerives : Derives tokens (.joined .comparison right)) : left = right := by
  have same := leftDerives.descend_eq_ok.symm.trans rightDerives.descend_eq_ok
  cases same
  rfl

/-- The descent accepts exactly what the grammar derives. It returns an expression for all of the
tokens if and only if the tokens derive that expression, whether or not their nesting is within the
limit; and this is what parsing the tokens returns. -/
theorem descend_eq_ok_iff_derives (tokens : List Token) (value : Expr) :
    (descend (.unlimited tokens.length) tokens = .ok (value, []) ↔
      Derives tokens (.joined .comparison value)) ∧
    (parseTokens tokens = .ok value ↔ Derives tokens (.joined .comparison value)) := by
  have accepts : descend (.unlimited tokens.length) tokens = .ok (value, []) ↔
      Derives tokens (.joined .comparison value) := by
    constructor
    · intro read
      obtain ⟨used, tokensEq, derives⟩ := Descent.descend_sound _ read
      rw [List.append_nil] at tokensEq
      exact tokensEq ▸ derives
    · intro derives
      have read : descend (.unlimited tokens.length) (tokens ++ []) = .ok (value, []) :=
        Descent.descend_complete derives (Nat.le_refl _) (Nat.le_refl _)
          fun token first => by cases first
      rwa [List.append_nil] at read
  refine ⟨accepts, Iff.trans ?_ accepts⟩
  unfold parseTokens
  split
  · next accepted => simp [accepted]
  · next remaining accepted => simp_all
  · next failure rejected => simp [rejected]

end Formula

end SheetEditor
