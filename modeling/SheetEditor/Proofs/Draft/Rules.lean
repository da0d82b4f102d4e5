import SheetEditor.Proofs.Draft.Area
import SheetEditor.Proofs.Formula.ErrorLiteral
import SheetEditor.Proofs.Numeric.Numeral

/-!
Contract: what each rule of the tolerant scan looks at.

Owns: the characters at which a rule can recognise something, which rule applies
where, that no rule recognises more than there is, and that a rule finds the same
when a text follows that cannot be read with what is in front of it.

Does not own: the tokens of a whole text (`SheetEditor.Proofs.Draft.Scan`).
-/

namespace SheetEditor

open Text (Stops)

variable {text rest following : Text} {first : Char}

namespace Draft.Token

/-! ## Where a rule can begin -/

theorem blankRule_eq_none (solid : SheetEditor.isBlank first = false) :
    blankRule (first :: following) = none := by
  simp [blankRule, solid]

theorem errorLiteralRule_eq_none (notHash : first ≠ '#') :
    errorLiteralRule (first :: following) = none := by
  rw [errorLiteralRule, ErrorLiteral.startOf?_eq_none notHash, Option.map_none]

theorem stringRule_eq_none (notQuote : first ≠ '"') : stringRule (first :: following) = none := by
  simp [stringRule, notQuote]

/-- Whether a reference or a qualifier can begin with a character. -/
def beginsArea (character : Char) : Bool :=
  character.isAlphanum || ['_', '$', SheetName.quote].contains character

theorem solid_of_beginsArea (begins : beginsArea first = true) :
    SheetEditor.isBlank first = false ∧ first ≠ '#' ∧ first ≠ '"' := by
  simp only [beginsArea, Bool.or_eq_true] at begins
  rcases begins with isAlphanum | special
  · refine ⟨isBlank_of_isAlphanum isAlphanum, ?_, ?_⟩ <;> rintro rfl <;> cases isAlphanum
  · simp only [List.contains_iff_mem, List.mem_cons, List.not_mem_nil, or_false] at special
    rcases special with rfl | rfl | rfl <;> decide

theorem beginsArea_of_begins (begins : first.isAlpha = true ∨ first = '_') :
    beginsArea first = true := by
  rcases begins with isAlpha | rfl
  · simp [beginsArea, Char.isAlphanum, isAlpha]
  · rfl

theorem not_isAlpha_of_not_beginsArea (outside : beginsArea first = false) :
    first.isAlpha = false ∧ first.isDigit = false := by
  simp only [beginsArea, Char.isAlphanum, Bool.or_eq_false_iff] at outside
  exact outside.1

theorem ne_of_not_beginsArea (outside : beginsArea first = false) :
    first ≠ '_' ∧ first ≠ '$' ∧ first ≠ SheetName.quote := by
  simp only [beginsArea, Bool.or_eq_false_iff] at outside
  simpa using outside.2

theorem identifierLength?_eq_none_of_ne (notLetter : first.isAlpha = false)
    (notUnderscore : first ≠ '_') : identifierLength? (first :: following) = none := by
  simp [identifierLength?, notLetter, notUnderscore]

theorem qualifierLength?_eq_none (outside : beginsArea first = false) :
    qualifierLength? (first :: following) = none := by
  obtain ⟨notUnderscore, notMarker, notQuote⟩ := ne_of_not_beginsArea outside
  have unnamed : qualifierNameLength? (first :: following) = none := by
    rw [qualifierNameLength?, if_neg notQuote]
    exact identifierLength?_eq_none_of_ne (not_isAlpha_of_not_beginsArea outside).1 notUnderscore
  rw [qualifierLength?, unnamed]
  rfl

theorem rowLength?_of_ne (notMarker : first ≠ '$') :
    rowLength? (first :: following) =
      if (first :: following).takeWhile Char.isDigit = [] then none
      else some ((first :: following).takeWhile Char.isDigit).length := by
  simp [rowLength?, WrittenCell.splitMarker, notMarker]

theorem rowLength?_eq_none (outside : beginsArea first = false) :
    rowLength? (first :: following) = none := by
  rw [rowLength?_of_ne (ne_of_not_beginsArea outside).2.1]
  simp [(not_isAlpha_of_not_beginsArea outside).2]

/-- Only two rows begin with something else than a letter or a mark. -/
theorem areaLength?_of_not_isAlpha (notLetter : first.isAlpha = false) (notMarker : first ≠ '$') :
    areaLength? (first :: following) = pairLength? rowLength? (first :: following) := by
  have unmarked : WrittenCell.splitMarker (first :: following) = (false, first :: following) := by
    simp [WrittenCell.splitMarker, notMarker]
  have noCell : cellsLength? (first :: following) = none := by
    simp [cellsLength?, WrittenCell.read?, unmarked, notLetter]
  have noColumn : columnLength? (first :: following) = none := by
    simp [columnLength?, unmarked, notLetter]
  have noColumns : pairLength? columnLength? (first :: following) = none := by
    rw [pairLength?, noColumn]
    rfl
  rw [areaLength?, noCell, noColumns]
  simp

theorem areaLength?_eq_none (outside : beginsArea first = false) :
    areaLength? (first :: following) = none := by
  rw [areaLength?_of_not_isAlpha (not_isAlpha_of_not_beginsArea outside).1
    (ne_of_not_beginsArea outside).2.1, pairLength?, rowLength?_eq_none outside]
  rfl

theorem referenceLength?_eq_none (outside : beginsArea first = false) :
    referenceLength? (first :: following) = none := by
  simp [referenceLength?, qualifierLength?_eq_none outside, areaLength?_eq_none outside]

theorem numberRule_eq_none (notDigit : first.isDigit = false) (notPoint : first ≠ '.') :
    numberRule (first :: following) = none := by
  simp [numberRule, notDigit, Decimal.splitFraction, notPoint]

theorem longOperatorRule_eq_none (notLess : first ≠ '<') (notGreater : first ≠ '>') :
    longOperatorRule (first :: following) = none := by
  simp [longOperatorRule, notLess, notGreater]

theorem identifierRule_eq_none (outside : beginsArea first = false) :
    identifierRule (first :: following) = none := by
  have unnamed : identifierLength? (first :: following) = none :=
    identifierLength?_eq_none_of_ne (not_isAlpha_of_not_beginsArea outside).1
      (ne_of_not_beginsArea outside).1
  simp [identifierRule, unnamed]

/-! ## The rule that applies -/

theorem findSome?_rules (text : Text) :
    (rules.findSome? fun rule => rule text) =
      (blankRule text).or ((errorLiteralRule text).or ((stringRule text).or
        ((referenceRule text).or ((qualifierRule text).or ((identifierRule text).or
          ((numberRule text).or (longOperatorRule text))))))) := by
  have step (rule : Rule) (others : List Rule) :
      ((rule :: others).findSome? fun rule => rule text) =
        (rule text).or (others.findSome? fun rule => rule text) := by
    rw [List.findSome?_cons]
    cases rule text <;> rfl
  simp only [rules, step, List.findSome?_nil, Option.or_none]

/-- Where neither blanks, an error value, a string nor a qualifier begins, the other rules are left. -/
theorem findSome?_of_unqualified
    (solid : SheetEditor.isBlank first = false ∧ first ≠ '#' ∧ first ≠ '"')
    (unqualified : qualifierLength? (first :: following) = none) :
    (rules.findSome? fun rule => rule (first :: following)) =
      (referenceRule (first :: following)).or ((identifierRule (first :: following)).or
        ((numberRule (first :: following)).or (longOperatorRule (first :: following)))) := by
  obtain ⟨notBlank, notHash, notString⟩ := solid
  rw [findSome?_rules, blankRule_eq_none notBlank, errorLiteralRule_eq_none notHash,
    stringRule_eq_none notString, qualifierRule, unqualified]
  simp only [Option.map_none, Option.none_or]

/-- A token is what one of the rules recognises, or a single character. -/
theorem classify_cases (first : Char) (following : Text) :
    (∃ rule ∈ rules, ∃ length, rule (first :: following) =
        some ((classify first following).1, length) ∧
        (classify first following).2 = length - 1) ∨
      classify first following = (punctuationKind first, 0) := by
  unfold classify
  cases found : rules.findSome? fun rule => rule (first :: following) with
  | none => exact .inr rfl
  | some result =>
      obtain ⟨kind, length⟩ := result
      obtain ⟨rule, member, recognised⟩ := List.exists_of_findSome?_eq_some found
      exact .inl ⟨rule, member, length, recognised, rfl⟩

/-- Whether a character begins no token of more than one character, other than an operator. -/
def standsAlone (character : Char) : Bool :=
  !(SheetEditor.isBlank character || ['#', '"', '.'].contains character || beginsArea character)

/-- No rule but the one for long operators looks at such a character. -/
theorem findSome?_of_standsAlone (alone : standsAlone first = true) (following : Text) :
    (rules.findSome? fun rule => rule (first :: following)) =
      longOperatorRule (first :: following) := by
  simp only [standsAlone, Bool.not_eq_true', Bool.or_eq_false_iff] at alone
  obtain ⟨⟨solid, notSpecial⟩, outside⟩ := alone
  obtain ⟨notHash, notString, notPoint⟩ : first ≠ '#' ∧ first ≠ '"' ∧ first ≠ '.' := by
    simpa using notSpecial
  rw [findSome?_rules, blankRule_eq_none solid, errorLiteralRule_eq_none notHash,
    stringRule_eq_none notString, referenceRule, referenceLength?_eq_none outside, qualifierRule,
    qualifierLength?_eq_none outside, identifierRule_eq_none outside,
    numberRule_eq_none (not_isAlpha_of_not_beginsArea outside).2 notPoint]
  simp only [Option.map_none, Option.none_or]

/-- A character that no rule looks at is a token by itself. -/
theorem classify_of_standsAlone (alone : standsAlone first = true)
    (short : longOperatorRule (first :: following) = none) :
    classify first following = (punctuationKind first, 0) := by
  unfold classify
  rw [findSome?_of_standsAlone alone, short]

theorem classify_longOperator (alone : standsAlone first = true) {kind : TokenKind} {length : Nat}
    (long : longOperatorRule (first :: following) = some (kind, length)) :
    classify first following = (kind, length - 1) := by
  unfold classify
  rw [findSome?_of_standsAlone alone, long]

theorem classify_blank (blank : SheetEditor.isBlank first = true) (following : Text) :
    classify first following = (.blank, (following.takeWhile SheetEditor.isBlank).length) := by
  unfold classify
  rw [findSome?_rules]
  simp [blankRule, blank]

theorem classify_errorLiteral {literal : ErrorLiteral}
    (found : ErrorLiteral.startOf? ('#' :: following) = some literal) :
    classify '#' following = (.literal, literal.spelling.length - 1) := by
  unfold classify
  rw [findSome?_rules, blankRule_eq_none rfl, errorLiteralRule, found]
  rfl

/-- A qualifier is a token, with the area after it if there is one. -/
theorem classify_qualifier {qualifier : Nat}
    (found : qualifierLength? (first :: following) = some qualifier) :
    classify first following =
      (.reference, (referenceLength? (first :: following)).getD qualifier - 1) := by
  have begins : beginsArea first = true := by
    by_contra outside
    rw [qualifierLength?_eq_none (by simpa using outside)] at found
    cases found
  obtain ⟨solid, notHash, notString⟩ := solid_of_beginsArea begins
  unfold classify
  rw [findSome?_rules, blankRule_eq_none solid, errorLiteralRule_eq_none notHash,
    stringRule_eq_none notString, referenceRule, qualifierRule, found]
  cases referenceLength? (first :: following) with
  | none => rfl
  | some length => rfl

/-- A reference is a token. -/
theorem classify_reference {length : Nat}
    (found : referenceLength? (first :: following) = some length) :
    classify first following = (.reference, length - 1) := by
  have begins : beginsArea first = true := by
    by_contra outside
    rw [referenceLength?_eq_none (by simpa using outside)] at found
    cases found
  obtain ⟨solid, notHash, notString⟩ := solid_of_beginsArea begins
  unfold classify
  rw [findSome?_rules, blankRule_eq_none solid, errorLiteralRule_eq_none notHash,
    stringRule_eq_none notString, referenceRule, found]
  rfl

/-- A string runs to the quote that closes it or to the end of the text. -/
theorem classify_quote (following : Text) :
    classify '"' following =
      (.string, ((Text.readQuoted? '"' following).map Prod.snd).getD following.length) := by
  unfold classify
  rw [findSome?_rules, blankRule_eq_none rfl, errorLiteralRule_eq_none (by decide)]
  cases read : Text.readQuoted? '"' following with
  | none => simp [stringRule, read]
  | some found => simp [stringRule, read]

/-! ## Lengths -/

/-- A rule fits if it never recognises more characters than there are. -/
def Rule.Fits (rule : Rule) : Prop :=
  ∀ ⦃text kind length⦄, rule text = some (kind, length) → length ≤ text.length

theorem blankRule_fits : Rule.Fits blankRule := by
  intro text kind length found
  unfold blankRule at found
  dsimp only at found
  split at found
  · cases found
  · cases found
    exact Text.length_takeWhile_le ..

theorem errorLiteralRule_fits : Rule.Fits errorLiteralRule := by
  intro text kind length found
  obtain ⟨literal, startOf, pair⟩ := Option.map_eq_some_iff.mp found
  cases pair
  exact ErrorLiteral.startOf?_le startOf

theorem stringRule_fits : Rule.Fits stringRule := by
  intro text kind length found
  unfold stringRule at found
  split at found
  · split at found
    · next read =>
        cases found
        simpa using Text.readQuoted?_length_le read
    · cases found
      simp
  · cases found

theorem referenceRule_fits : Rule.Fits referenceRule := by
  intro text kind length found
  obtain ⟨_, foundLength, pair⟩ := Option.map_eq_some_iff.mp found
  cases pair
  exact referenceLength?_le foundLength

theorem qualifierRule_fits : Rule.Fits qualifierRule := by
  intro text kind length found
  obtain ⟨_, foundLength, pair⟩ := Option.map_eq_some_iff.mp found
  cases pair
  exact qualifierLength?_le foundLength

theorem identifierRule_fits : Rule.Fits identifierRule := by
  intro text kind length found
  obtain ⟨_, foundLength, pair⟩ := Option.bind_eq_some_iff.mp found
  cases pair
  exact identifierLength?_le foundLength

theorem numberRule_fits : Rule.Fits numberRule := by
  intro text kind length found
  unfold numberRule at found
  dsimp only at found
  split at found
  · cases found
  · cases found
    set whole := text.takeWhile Char.isDigit
    have wholeFits : whole.length ≤ text.length := Text.length_takeWhile_le ..
    have parts := Decimal.length_splitFraction (text.drop whole.length)
    have exponentFits := Decimal.exponentLength_le (Decimal.splitFraction (text.drop whole.length)).2
    rw [List.length_drop] at parts
    omega

theorem longOperatorRule_fits : Rule.Fits longOperatorRule := by
  intro text kind length found
  unfold longOperatorRule at found
  split at found
  · cases found; simp
  · cases found; simp
  · cases found; simp
  · cases found

/-- A token does not go beyond the text. -/
theorem classify_le (first : Char) (following : Text) :
    (classify first following).2 ≤ following.length := by
  have fits : ∀ rule ∈ rules, Rule.Fits rule := by
    simp only [rules, List.forall_mem_cons]
    exact ⟨blankRule_fits, errorLiteralRule_fits, stringRule_fits, referenceRule_fits,
      qualifierRule_fits, identifierRule_fits, numberRule_fits, longOperatorRule_fits,
      List.forall_mem_nil _⟩
  rcases classify_cases first following with ⟨rule, member, length, recognised, countEq⟩ | single
  · have inText := fits rule member recognised
    rw [List.length_cons] at inText
    omega
  · rw [single]
    exact Nat.zero_le _

/-! ## More text after a token -/

/-- Whether a character could be read with the text before it. -/
def joinsText (character : Char) : Bool :=
  continuesArea character || SheetEditor.isBlank character ||
    ['(', '>', '=', '+', '-', '/', '?'].contains character

theorem stops_area (stops : Stops joinsText rest) : Stops continuesArea rest :=
  stops.mono fun next inside => by simp [joinsText, inside]

theorem stops_blank (stops : Stops joinsText rest) : Stops SheetEditor.isBlank rest :=
  stops.mono fun next inside => by simp [joinsText, inside]

theorem stops_numeral (stops : Stops joinsText rest) : Stops Decimal.inNumeral rest := by
  refine stops.mono fun next inside => ?_
  simp only [Decimal.inNumeral, Bool.or_eq_true] at inside
  rcases inside with isDigit | special
  · simp [joinsText, continuesArea_of_isDigit isDigit]
  · simp only [List.contains_iff_mem, List.mem_cons, List.not_mem_nil, or_false] at special
    rcases special with rfl | rfl | rfl | rfl | rfl <;> rfl

theorem ne_of_stops {next character : Char} (stops : Stops joinsText (next :: rest))
    (joins : joinsText character = true) : next ≠ character := by
  rintro rfl
  have outside : joinsText next = false := by simpa using stops
  rw [joins] at outside
  cases outside

theorem isBoundary_of_stops (stops : Stops joinsText rest) : isBoundary rest = true := by
  cases rest with
  | nil => rfl
  | cons next others =>
      have outside : joinsText next = false := by simpa using stops
      unfold isBoundary
      by_contra inside
      rw [Bool.not_eq_true, Bool.not_eq_false', Bool.or_eq_true] at inside
      have joins : joinsText next = true := by
        rcases inside with isAlphanum | special
        · simp [joinsText, continuesArea, isAlphanum]
        · simp only [List.contains_iff_mem, List.mem_cons, List.not_mem_nil, or_false] at special
          rcases special with rfl | rfl | rfl | rfl | rfl <;> rfl
      rw [joins] at outside
      cases outside

theorem blankRule_append (stops : Stops joinsText rest) :
    blankRule (text ++ rest) = blankRule text := by
  simp only [blankRule, Text.takeWhile_append (stops_blank stops)]

theorem joinsText_of_toUpper {character : Char} (joins : joinsText character.toUpper = true) :
    joinsText character = true := by
  by_cases same : character.toUpper = character
  · rwa [same] at joins
  · have isAlpha := (isAlpha_of_toUpper_ne same).1
    simp [joinsText, continuesArea_of_isAlpha isAlpha]

/-- The characters of the spelling of an error value, except the first, join the text before. -/
theorem joinsText_of_mem_spelling (literal : ErrorLiteral) :
    ∀ character ∈ literal.spelling.tail, joinsText character = true := by
  rw [← List.all_eq_true]
  cases literal <;> decide

theorem startOf?_append (nonempty : text ≠ []) (stops : Stops joinsText rest) :
    ErrorLiteral.startOf? (text ++ rest) = ErrorLiteral.startOf? text := by
  unfold ErrorLiteral.startOf?
  congr 1
  funext literal
  congr 1
  by_cases fits : literal.spelling.length ≤ text.length
  · rw [List.take_append_of_le_length fits]
  · have tooShort : Text.upper (text.take literal.spelling.length) ≠ literal.spelling := by
      intro spelled
      have lengths := congrArg List.length spelled
      rw [Text.length_upper, List.length_take] at lengths
      omega
    have noSpelling : Text.upper ((text ++ rest).take literal.spelling.length) ≠
        literal.spelling := by
      cases rest with
      | nil => rwa [List.append_nil]
      | cons next others =>
          obtain ⟨first, following, rfl⟩ := List.exists_cons_of_ne_nil nonempty
          obtain ⟨count, lengthEq⟩ : ∃ count,
              literal.spelling.length = (first :: following).length + (count + 1) :=
            ⟨literal.spelling.length - (first :: following).length - 1, by omega⟩
          intro spelled
          rw [lengthEq, List.take_append, List.take_of_length_le (by omega),
            Nat.add_sub_cancel_left, List.take_succ_cons] at spelled
          have member : next.toUpper ∈ literal.spelling.tail := by
            rw [← spelled]
            simp [Text.upper]
          have joins := joinsText_of_toUpper (joinsText_of_mem_spelling literal _ member)
          exact ne_of_stops stops joins rfl
    rw [eq_false tooShort, eq_false noSpelling]

theorem errorLiteralRule_append (nonempty : text ≠ []) (stops : Stops joinsText rest) :
    errorLiteralRule (text ++ rest) = errorLiteralRule text := by
  rw [errorLiteralRule, startOf?_append nonempty stops, errorLiteralRule]

theorem numberRule_append_of_exponent (stops : Stops Decimal.continuesDigits rest)
    (sameExponent : ∀ text, Decimal.exponentLength (text ++ rest) = Decimal.exponentLength text) :
    numberRule (text ++ rest) = numberRule text := by
  unfold numberRule
  simp only [Text.takeWhile_append (Decimal.stops_digit stops),
    List.drop_append_of_le_length (Text.length_takeWhile_le ..),
    Decimal.splitFraction_append stops, Decimal.point_append stops, sameExponent]

theorem numberRule_append (stops : Stops Decimal.inNumeral rest) :
    numberRule (text ++ rest) = numberRule text :=
  numberRule_append_of_exponent (stops.mono fun _ => Decimal.inNumeral_of_continuesDigits)
    fun _ => Decimal.exponentLength_append stops

/-- The rule for numbers finds a numeral with a digit in it. -/
theorem numberRule_eq (text : Text) :
    numberRule text =
      if text.takeWhile Char.isDigit ++
          (Decimal.splitFraction (text.drop (text.takeWhile Char.isDigit).length)).1 = [] then none
      else some (.literal, Decimal.numeralLength text) := by
  simp only [numberRule, Decimal.numeralLength, Bool.and_eq_true, decide_eq_true_eq,
    List.append_eq_nil_iff]

/-- A numeral that can be read is a token, if what follows does not go on with it. -/
theorem numberRule_append_of_read? {decimal : Decimal} (read : Decimal.read? text = some decimal)
    (stops : Stops Decimal.continuesDigits rest) :
    numberRule (text ++ rest) = some (.literal, text.length) := by
  obtain ⟨nonempty, _⟩ := Decimal.parts_of_read? read
  rw [numberRule_eq, Text.takeWhile_append (Decimal.stops_digit stops),
    List.drop_append_of_le_length (Text.length_takeWhile_le ..), Decimal.splitFraction_append stops,
    if_neg nonempty, Decimal.numeralLength_append_of_read? read stops]

theorem identifierRule_append (stops : Stops joinsText rest) :
    identifierRule (text ++ rest) = identifierRule text := by
  unfold identifierRule
  rw [identifierLength?_append (stops_name (stops_area stops))]
  cases found : identifierLength? text with
  | none => rfl
  | some length =>
      have fits := identifierLength?_le found
      have sameCall (text : Text) : ((text ++ rest).dropWhile SheetEditor.isBlank).head? = some '(' ↔
          (text.dropWhile SheetEditor.isBlank).head? = some '(' := by
        rw [Text.dropWhile_append (stops_blank stops)]
        cases text.dropWhile SheetEditor.isBlank with
        | nil =>
            cases rest with
            | nil => rfl
            | cons next others =>
                have notOpening : next ≠ '(' := ne_of_stops stops rfl
                simp [notOpening]
        | cons first following => rfl
      simp only [Option.bind_eq_bind, Option.bind_some, List.drop_append_of_le_length fits,
        List.take_append_of_le_length fits, sameCall]

theorem longOperatorRule_cons (second : Char) (others : Text) :
    longOperatorRule (first :: second :: others) =
      if first = '<' ∧ (second = '>' ∨ second = '=') ∨ first = '>' ∧ second = '=' then
        some (.operator, 2)
      else none := by
  unfold longOperatorRule
  split <;> simp_all

theorem longOperatorRule_append (nonempty : text ≠ []) (stops : Stops joinsText rest) :
    longOperatorRule (text ++ rest) = longOperatorRule text := by
  cases text with
  | nil => exact absurd rfl nonempty
  | cons first following =>
      cases following with
      | cons second others =>
          rw [List.cons_append, List.cons_append, longOperatorRule_cons, longOperatorRule_cons]
      | nil =>
          cases rest with
          | nil => rfl
          | cons next others =>
              have notGreater : next ≠ '>' := ne_of_stops stops rfl
              have notEqual : next ≠ '=' := ne_of_stops stops rfl
              simp [longOperatorRule, notGreater, notEqual]

/-- A string at the start of a text is closed. -/
def ClosesString (text : Text) : Prop :=
  ∀ following, text = '"' :: following → Text.readQuoted? '"' following ≠ none

theorem stringRule_append (nonempty : text ≠ []) (closes : ClosesString text)
    (stops : Stops joinsText rest) : stringRule (text ++ rest) = stringRule text := by
  cases text with
  | nil => exact absurd rfl nonempty
  | cons first following =>
      by_cases isQuote : first = '"'
      · subst isQuote
        have notQuoted : Stops (· = '"') rest := stops.mono fun next same => by
          rw [of_decide_eq_true same]
          rfl
        obtain ⟨found, read⟩ := Option.ne_none_iff_exists'.mp (closes following rfl)
        simp only [List.cons_append, stringRule, Text.readQuoted?_append read notQuoted, read]
      · simp [stringRule, isQuote]

/-- Whatever cannot be read with the text before it does not change the first token of that text,
unless that is an open string or an open name. -/
theorem classify_append (closes : ClosesString (first :: following))
    (seals : SealsName (first :: following) rest) (stops : Stops joinsText rest) :
    classify first (following ++ rest) = classify first following := by
  have nonempty : first :: following ≠ [] := List.cons_ne_nil _ _
  unfold classify
  rw [← List.cons_append, findSome?_rules, findSome?_rules, blankRule_append stops,
    errorLiteralRule_append nonempty stops, stringRule_append nonempty closes stops,
    referenceRule, referenceRule,
    referenceLength?_append (stops_area stops) seals (isBoundary_of_stops stops),
    qualifierRule, qualifierRule, qualifierLength?_append (stops_area stops) seals,
    identifierRule_append stops, numberRule_append (stops_numeral stops),
    longOperatorRule_append nonempty stops]

end Draft.Token

end SheetEditor
