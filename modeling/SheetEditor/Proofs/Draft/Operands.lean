import SheetEditor.Proofs.Draft.Targets

/-!
Contract: the operands of a formula as a draft reads them.

Owns: the targets of texts that begin with an operand and go on with something
that cannot be read with it: constants, names, whole columns and rows, and cells.

Does not own: which operands a formula has (`SheetEditor.Proofs.Formula.References`).
-/

namespace SheetEditor.Draft

open Text (Stops)

variable {text rest following : Text} {first : Char}

/-! ## Marks, strings and error values -/

theorem punctuationKind_ne_reference (character : Char) :
    Token.punctuationKind character ≠ .reference := by
  unfold Token.punctuationKind
  split <;> decide

theorem targets_mark (alone : Token.standsAlone first = true)
    (short : Token.longOperatorRule (first :: following) = none) :
    targets (first :: following) = targets following :=
  targets_of_other (Token.classify_of_standsAlone alone short) (punctuationKind_ne_reference first)

theorem targets_colon (following : Text) : targets (':' :: following) = targets following :=
  targets_mark rfl (Token.longOperatorRule_eq_none (by decide) (by decide))

theorem targets_errorLiteral {literal : ErrorLiteral}
    (found : ErrorLiteral.startOf? ('#' :: following) = some literal) :
    targets ('#' :: following) = targets (following.drop (literal.spelling.length - 1)) :=
  targets_of_other (Token.classify_errorLiteral found) (by decide)

theorem targets_string {content : Text} {count : Nat}
    (read : Text.readQuoted? '"' following = some (content, count)) :
    targets ('"' :: following) = targets (following.drop count) := by
  have classified := Token.classify_quote following
  rw [read] at classified
  exact targets_of_other classified (by decide)

/-! ## Numbers and rows -/

theorem stops_blanks {continues : Char → Bool}
    (solid : ∀ character, continues character = true → isBlank character = false)
    (blanks : ∀ blank ∈ text, isBlank blank = true) (stops : Stops continues rest) :
    Stops continues (text ++ rest) := by
  refine Text.stops_append (fun next isFirst => ?_) fun _ => stops
  by_contra inside
  have blank := blanks next (List.mem_of_mem_head? isFirst)
  rw [solid next (by simpa using inside)] at blank
  cases blank

theorem solid_of_continuesArea {character : Char} (continues : continuesArea character = true) :
    isBlank character = false := by
  simp only [continuesArea, Bool.or_eq_true, List.contains_iff_mem, List.mem_cons,
    List.not_mem_nil, or_false] at continues
  rcases continues with isAlphanum | special
  · exact isBlank_of_isAlphanum isAlphanum
  · rcases special with rfl | rfl | rfl | rfl | rfl | rfl | rfl <;> rfl

theorem solid_of_continuesDigits {character : Char}
    (continues : Decimal.continuesDigits character = true) : isBlank character = false := by
  simp only [Decimal.continuesDigits, Bool.or_eq_true, List.contains_iff_mem, List.mem_cons,
    List.not_mem_nil, or_false] at continues
  rcases continues with isDigit | rfl | rfl | rfl
  · exact isBlank_of_isAlphanum (by simp [Char.isAlphanum, isDigit])
  · rfl
  · rfl
  · rfl

theorem isBoundary_of_continuesDigits (continues : Decimal.continuesDigits first = true) :
    Token.isBoundary (first :: following) = false := by
  simp only [Decimal.continuesDigits, Bool.or_eq_true, List.contains_iff_mem, List.mem_cons,
    List.not_mem_nil, or_false] at continues
  rcases continues with isDigit | rfl | rfl | rfl
  · simp [Token.isBoundary, Char.isAlphanum, isDigit]
  · rfl
  · rfl
  · rfl

section Numerals

variable {decimal : Decimal}

theorem beginsNumeral_cases (begins : first.isDigit = true ∨ first = '.') :
    first.isAlpha = false ∧ first ≠ '_' ∧ first ≠ '$' ∧ first ≠ SheetName.quote := by
  rcases begins with isDigit | rfl
  · refine ⟨not_isAlpha_of_isDigit isDigit, ?_, ?_, ?_⟩ <;> rintro rfl <;> cases isDigit
  · decide

/-- No qualifier begins like a numeral. -/
theorem qualifierLength?_numeral (read : Decimal.read? text = some decimal) (rest : Text) :
    Token.qualifierLength? (text ++ rest) = none := by
  obtain ⟨first, following, rfl, begins⟩ := Decimal.begins_of_read? read
  obtain ⟨notLetter, notUnderscore, _, notQuote⟩ := beginsNumeral_cases begins
  rw [List.cons_append, Token.qualifierLength?, Token.qualifierNameLength?, if_neg notQuote,
    Token.identifierLength?_eq_none_of_ne notLetter notUnderscore]
  rfl

/-- No cells begin like a numeral. -/
theorem rangeOf?_numeral (read : Decimal.read? text = some decimal) (length : Nat) :
    Target.rangeOf? ((text ++ rest).take length) = none := by
  obtain ⟨first, following, rfl, begins⟩ := Decimal.begins_of_read? read
  obtain ⟨notLetter, _, notMarker, _⟩ := beginsNumeral_cases begins
  cases length with
  | zero => rfl
  | succ length => exact Target.rangeOf?_eq_none notLetter notMarker

theorem BeginsWithoutCells.of_numeral (read : Decimal.read? text = some decimal) {after : Text}
    (skipped : targets (text ++ rest) = targets after) : BeginsWithoutCells (text ++ rest) after :=
  ⟨qualifierLength?_numeral read rest, fun length _ => rangeOf?_numeral read length, skipped⟩

/-- Only a colon and a row after it make a numeral part of a reference. -/
theorem referenceLength?_numeral (read : Decimal.read? text = some decimal)
    (stops : Stops Char.isDigit rest) {length : Nat}
    (found : Token.referenceLength? (text ++ rest) = some length) :
    ∃ after second, rest = ':' :: after ∧ Token.rowLength? after = some second ∧
      length = text.length + 1 + second ∧ Token.isBoundary (after.drop second) = true := by
  have inside := Decimal.inNumeral_of_read? read
  obtain ⟨area, rfl, areaFound, boundary⟩ := Token.referenceLength?_cases found
  rw [qualifierLength?_numeral read, Option.getD_none] at areaFound boundary ⊢
  obtain ⟨first, following, rfl, begins⟩ := Decimal.begins_of_read? read
  obtain ⟨notLetter, _, notMarker, _⟩ := beginsNumeral_cases begins
  rw [List.drop_zero, List.cons_append, Token.areaLength?_of_not_isAlpha notLetter notMarker]
    at areaFound
  replace ⟨whole, wholeFound, areaFound⟩ := Option.bind_eq_some_iff.mp areaFound
  rw [Token.rowLength?_of_ne notMarker, ← List.cons_append, Text.takeWhile_append stops]
    at wholeFound
  split at wholeFound
  · cases wholeFound
  · cases wholeFound
    have wholeFits := Text.length_takeWhile_le Char.isDigit (first :: following)
    rw [← List.cons_append, List.drop_append_of_le_length wholeFits] at areaFound
    cases dropped : (first :: following).drop
        ((first :: following).takeWhile Char.isDigit).length with
    | cons next others =>
        -- A character of the numeral that is no digit is no colon either.
        have inNumeral := inside next (List.mem_of_mem_drop (dropped ▸ List.mem_cons_self))
        have notColon : next ≠ ':' := by
          rintro rfl
          cases inNumeral
        simp [dropped, notColon] at areaFound
    | nil =>
        rw [dropped, List.nil_append] at areaFound
        have wholeLength := List.drop_eq_nil_iff.mp dropped
        split at areaFound
        · next after =>
            obtain ⟨second, secondFound, rfl⟩ := Option.map_eq_some_iff.mp areaFound
            have length : 0 + (((first :: following).takeWhile Char.isDigit).length + 1 + second) =
                (first :: following).length + 1 + second := by omega
            refine ⟨after, second, rfl, secondFound, length, ?_⟩
            rwa [length, Nat.add_assoc, List.drop_length_add_append,
              Nat.add_comm 1] at boundary
        · cases areaFound

/-- Otherwise the numeral is a token. -/
theorem classify_numeral (read : Decimal.read? (first :: following) = some decimal)
    (stops : Stops Decimal.continuesDigits rest)
    (unread : Token.referenceLength? (first :: following ++ rest) = none) :
    Token.classify first (following ++ rest) = (.literal, following.length) := by
  have number := Token.numberRule_append_of_read? read stops
  have unqualified := qualifierLength?_numeral read rest
  obtain ⟨_, _, sameText, begins⟩ := Decimal.begins_of_read? read
  obtain ⟨rfl, rfl⟩ := List.cons.inj sameText
  obtain ⟨notLetter, notUnderscore, _, notQuote⟩ := beginsNumeral_cases begins
  have solid : isBlank first = false ∧ first ≠ '#' ∧ first ≠ '"' := by
    rcases begins with isDigit | rfl
    · exact Token.solid_of_beginsArea (by simp [Token.beginsArea, Char.isAlphanum, isDigit])
    · decide
  have unnamed : Token.identifierLength? (first :: (following ++ rest)) = none :=
    Token.identifierLength?_eq_none_of_ne notLetter notUnderscore
  rw [List.cons_append] at number unread unqualified
  unfold Token.classify
  rw [Token.findSome?_of_unqualified solid unqualified, Token.referenceRule, unread,
    Token.identifierRule, unnamed, number]
  rfl

theorem targets_numeral (read : Decimal.read? text = some decimal)
    (stops : Stops Decimal.continuesDigits rest)
    (unread : Token.referenceLength? (text ++ rest) = none) :
    targets (text ++ rest) = targets rest := by
  obtain ⟨first, following, rfl, _⟩ := Decimal.begins_of_read? read
  rw [List.cons_append, targets_of_other (classify_numeral read stops unread) (by decide),
    List.drop_left]

theorem BeginsWithoutCells.number (read : Decimal.read? text = some decimal)
    (stops : Stops Decimal.continuesDigits rest) (noColon : Stops (· = ':') rest) :
    BeginsWithoutCells (text ++ rest) rest := by
  refine .of_numeral read ?_
  cases found : Token.referenceLength? (text ++ rest) with
  | some length =>
      obtain ⟨after, _, rfl, _⟩ := referenceLength?_numeral read (Decimal.stops_digit stops) found
      cases Text.stops_cons.mp noColon
  | none => exact targets_numeral read stops found

/-- A row that ends at a boundary is the whole numeral. -/
theorem rowLength?_numeral (read : Decimal.read? text = some decimal)
    (stops : Stops Decimal.continuesDigits rest) {length : Nat}
    (found : Token.rowLength? (text ++ rest) = some length)
    (boundary : Token.isBoundary ((text ++ rest).drop length) = true) : length = text.length := by
  have afterDigits := Decimal.continuesDigits_of_read? read
  have digitsFit := Text.length_takeWhile_le Char.isDigit text
  have lengthEq : length = (text.takeWhile Char.isDigit).length := by
    have digits : (text ++ rest).takeWhile Char.isDigit = text.takeWhile Char.isDigit :=
      Text.takeWhile_append (Decimal.stops_digit stops)
    obtain ⟨first, following, rfl, begins⟩ := Decimal.begins_of_read? read
    rw [List.cons_append, Token.rowLength?_of_ne (beginsNumeral_cases begins).2.2.1,
      ← List.cons_append, digits] at found
    split at found <;> cases found
    rfl
  rw [lengthEq, List.drop_append_of_le_length digitsFit] at boundary
  cases dropped : text.drop (text.takeWhile Char.isDigit).length with
  | nil =>
      have reached := List.drop_eq_nil_iff.mp dropped
      omega
  | cons next others =>
      have continues := afterDigits next (by rw [dropped]; rfl)
      rw [dropped, List.cons_append, isBoundary_of_continuesDigits continues] at boundary
      cases boundary

/-- Two rows around a colon, or two numerals that a draft reads one by one. -/
theorem BeginsWithoutCells.rows {start stop before behind : Text} {first last : Decimal}
    (startRead : Decimal.read? start = some first) (stopRead : Decimal.read? stop = some last)
    (blankBefore : ∀ blank ∈ before, isBlank blank = true)
    (blankBehind : ∀ blank ∈ behind, isBlank blank = true)
    (stops : Stops Decimal.continuesDigits rest) (noColon : Stops (· = ':') rest) :
    BeginsWithoutCells (start ++ (before ++ ':' :: (behind ++ (stop ++ rest)))) rest := by
  have startStops : Stops Decimal.continuesDigits (before ++ ':' :: (behind ++ (stop ++ rest))) :=
    stops_blanks (fun _ => solid_of_continuesDigits) blankBefore (Text.stops_cons.mpr rfl)
  have later : targets (before ++ ':' :: (behind ++ (stop ++ rest))) = targets rest := by
    rw [targets_blanks blankBefore, targets_colon, targets_blanks blankBehind]
    exact (BeginsWithoutCells.number stopRead stops noColon).skipped
  refine .of_numeral startRead ?_
  cases found : Token.referenceLength? (start ++ (before ++ ':' :: (behind ++ (stop ++ rest)))) with
  | none => rw [targets_numeral startRead startStops found, later]
  | some length =>
      obtain ⟨after, second, afterEq, secondFound, rfl, boundary⟩ :=
        referenceLength?_numeral startRead (Decimal.stops_digit startStops) found
      -- The draft reads a whole reference only without blanks, and as far as the second numeral.
      obtain rfl : before = [] := by
        cases before with
        | nil => rfl
        | cons blank others =>
            have isBlank := blankBefore blank List.mem_cons_self
            cases afterEq
            cases isBlank
      cases afterEq
      obtain rfl : behind = [] := by
        cases behind with
        | nil => rfl
        | cons blank others =>
            have outside := not_beginsArea_of_isBlank (blankBehind blank List.mem_cons_self)
            rw [List.cons_append, Token.rowLength?_eq_none outside] at secondFound
            cases secondFound
      rw [List.nil_append] at secondFound boundary
      have whole := rowLength?_numeral stopRead stops secondFound boundary
      rw [targets_of_referenceLength? (qualifierLength?_numeral startRead _) found,
        rangeOf?_numeral startRead, whole, Nat.add_assoc, List.drop_length_add_append]
      simp [Nat.add_comm 1]

end Numerals

/-! ## Names -/

/-- Whether a run of name characters, `$` marks included, can have a character in it. -/
def inRun (character : Char) : Bool := Token.inName character || character = '$'

theorem isBoundary_of_inRun (inside : inRun first = true) :
    Token.isBoundary (first :: following) = false := by
  simp only [inRun, Token.inName, Bool.or_eq_true, decide_eq_true_eq] at inside
  rcases inside with ((isAlphanum | rfl) | rfl) | rfl
  · simp [Token.isBoundary, isAlphanum]
  · rfl
  · rfl
  · rfl

theorem solid_of_inRun (inside : inRun first = true) :
    (isBlank first = false ∧ first ≠ '#' ∧ first ≠ '"') ∧ first ≠ '<' ∧ first ≠ '>' := by
  simp only [inRun, Token.inName, Bool.or_eq_true, decide_eq_true_eq] at inside
  rcases inside with ((isAlphanum | rfl) | rfl) | rfl
  · refine ⟨⟨isBlank_of_isAlphanum isAlphanum, ?_, ?_⟩, ?_, ?_⟩ <;> rintro rfl <;> cases isAlphanum
  · decide
  · decide
  · decide

theorem qualifierLength?_append_eq_none
    (plain : ∀ character ∈ text, character ≠ '!' ∧ character ≠ SheetName.quote)
    (stops : Stops continuesArea rest) : Token.qualifierLength? (text ++ rest) = none := by
  have seals : Token.SealsName text rest := by
    rintro following rfl
    exact absurd rfl (plain _ List.mem_cons_self).2
  rw [Token.qualifierLength?_append stops seals]
  by_contra qualified
  obtain ⟨length, found⟩ := Option.ne_none_iff_exists'.mp qualified
  obtain ⟨name, _, found⟩ := Option.bind_eq_some_iff.mp found
  split at found
  · next others marked =>
      exact (plain '!' (List.mem_of_mem_drop (marked ▸ List.mem_cons_self))).1 rfl
  · cases found

/-- A reference that begins in a run of name characters does not end in it. -/
theorem referenceLength?_run (inside : ∀ character ∈ text, inRun character = true)
    (unqualified : Token.qualifierLength? (text ++ rest) = none) (stops : Stops inArea rest)
    {length : Nat} (found : Token.referenceLength? (text ++ rest) = some length) :
    length = text.length ∧ Token.isBoundary rest = true := by
  obtain ⟨area, rfl, areaFound, boundary⟩ := Token.referenceLength?_cases found
  rw [unqualified, Option.getD_none, List.drop_zero, Token.areaLength?_append stops] at areaFound
  have fits := Token.areaLength?_le areaFound
  rw [unqualified, Option.getD_none, Nat.zero_add] at boundary ⊢
  rw [List.drop_append_of_le_length fits] at boundary
  cases dropped : text.drop area with
  | nil =>
      rw [dropped, List.nil_append] at boundary
      have reached := List.drop_eq_nil_iff.mp dropped
      exact ⟨by omega, boundary⟩
  | cons next others =>
      have nextInside := inside next (List.mem_of_mem_drop (dropped ▸ List.mem_cons_self))
      rw [dropped, List.cons_append, isBoundary_of_inRun nextInside] at boundary
      cases boundary

/-- A token without digits refers to no cells. -/
theorem resolve?_of_letters {kind : TokenKind}
    (plain : ∀ character ∈ text, character ≠ '!' ∧ character ≠ SheetName.quote)
    (letters : kind = .reference → ∀ character ∈ text, character.isAlpha = true) :
    resolve? kind text = none := by
  by_cases isReference : kind = .reference
  · apply resolve?_eq_none_of_rangeOf? kind plain
    by_contra isCells
    obtain ⟨range, isRange⟩ := Option.ne_none_iff_exists'.mp isCells
    obtain ⟨digit, member, isDigit⟩ := Target.exists_digit_of_rangeOf? isRange
    have isAlpha := letters isReference digit member
    rw [not_isAlpha_of_isDigit isDigit] at isAlpha
    cases isAlpha
  · exact resolve?_eq_none isReference text

/-- An identifier is taken for a reference only if it is all letters. -/
theorem isAlpha_of_identifierRule {kind : TokenKind} {length : Nat}
    (found : Token.identifierRule text = some (kind, length)) (isReference : kind = .reference) :
    ∀ character ∈ text.take length, character.isAlpha = true := by
  obtain ⟨nameLength, nameFound, pair⟩ := Option.bind_eq_some_iff.mp found
  obtain ⟨kindEq, rfl⟩ : _ = kind ∧ nameLength = length := by simpa using pair
  subst isReference
  split at kindEq
  · next looksLikeColumn => exact looksLikeColumn.2.2
  · cases kindEq

section Unread

variable (unqualified : Token.qualifierLength? (first :: following) = none)
  (unread : Token.referenceLength? (first :: following) = none)

include unqualified unread

theorem classify_identifier {length : Nat}
    (found : Token.identifierLength? (first :: following) = some length) :
    ∃ kind, Token.classify first following = (kind, length - 1) ∧
      (kind = .reference → ∀ character ∈ (first :: following).take length,
        character.isAlpha = true) := by
  have solid : isBlank first = false ∧ first ≠ '#' ∧ first ≠ '"' := by
    apply Token.solid_of_beginsArea
    by_contra outside
    obtain ⟨notLetter, _⟩ := Token.not_isAlpha_of_not_beginsArea (by simpa using outside)
    obtain ⟨notUnderscore, _⟩ := Token.ne_of_not_beginsArea (by simpa using outside)
    rw [Token.identifierLength?_eq_none_of_ne notLetter notUnderscore] at found
    cases found
  obtain ⟨kind, named⟩ :
      ∃ kind, Token.identifierRule (first :: following) = some (kind, length) := by
    rw [Token.identifierRule, found]
    exact ⟨_, rfl⟩
  refine ⟨kind, ?_, isAlpha_of_identifierRule named⟩
  unfold Token.classify
  rw [Token.findSome?_of_unqualified solid unqualified, Token.referenceRule, unread, named]
  rfl

theorem targets_identifier {length : Nat}
    (found : Token.identifierLength? (first :: following) = some length) :
    targets (first :: following) = targets ((first :: following).drop length) := by
  obtain ⟨kind, classified, letters⟩ := classify_identifier unqualified unread found
  have count : length - 1 + 1 = length := Nat.sub_add_cancel (Token.identifierLength?_pos found)
  have plain := plain_of_class (by decide) (Token.inName_of_identifierLength? found)
  rw [targets_of_unresolved classified (by rw [count]; exact resolve?_of_letters plain letters)]
  conv_rhs => rw [← count, List.drop_succ_cons]

/-- A token that begins with neither cells nor a name is a number or a single character. -/
theorem classify_unnamed (solid : isBlank first = false ∧ first ≠ '#' ∧ first ≠ '"')
    (unnamed : Token.identifierLength? (first :: following) = none)
    (notOperator : first ≠ '<' ∧ first ≠ '>') :
    ∃ kind, kind ≠ .reference ∧ Token.classify first following =
      (kind, ((Token.numberRule (first :: following)).map Prod.snd).getD 1 - 1) := by
  have noIdentifier : Token.identifierRule (first :: following) = none := by
    rw [Token.identifierRule, unnamed]
    rfl
  have rulesLeft := Token.findSome?_of_unqualified solid unqualified
  rw [Token.referenceRule, unread, noIdentifier,
    Token.longOperatorRule_eq_none notOperator.1 notOperator.2] at rulesLeft
  simp only [Option.map_none, Option.none_or, Option.or_none] at rulesLeft
  unfold Token.classify
  rw [rulesLeft]
  cases number : Token.numberRule (first :: following) with
  | none => exact ⟨Token.punctuationKind first, punctuationKind_ne_reference first, rfl⟩
  | some found =>
      obtain ⟨kind, length⟩ := found
      have isLiteral : kind = .literal := by
        rw [Token.numberRule_eq] at number
        split at number <;> cases number
        rfl
      exact ⟨kind, by rw [isLiteral]; decide, rfl⟩

end Unread

/-- Where no reference is read, the first token is not a reference, or only a column. It ends in the
text, unless it can go on in what follows. -/
theorem classify_unread (solid : isBlank first = false ∧ first ≠ '#' ∧ first ≠ '"')
    (unqualified : Token.qualifierLength? (first :: (following ++ rest)) = none)
    (unread : Token.referenceLength? (first :: (following ++ rest)) = none)
    (nameStops : Stops Token.inName rest)
    (numberStops : first.isDigit = true ∨ first = '.' → Stops Decimal.inNumeral rest)
    (notOperator : first ≠ '<' ∧ first ≠ '>') :
    ∃ kind count, Token.classify first (following ++ rest) = (kind, count) ∧
      count ≤ following.length ∧
      (kind = .reference → ∀ character ∈ first :: following.take count,
        character.isAlpha = true) := by
  have sameName : Token.identifierLength? (first :: following ++ rest) =
      Token.identifierLength? (first :: following) := Token.identifierLength?_append nameStops
  rw [List.cons_append] at sameName
  cases named : Token.identifierLength? (first :: following) with
  | some length =>
      have positive := Token.identifierLength?_pos named
      have fits := Token.identifierLength?_le named
      rw [List.length_cons] at fits
      obtain ⟨kind, classified, letters⟩ :=
        classify_identifier unqualified unread (sameName.trans named)
      have count : length - 1 + 1 = length := Nat.sub_add_cancel positive
      rw [← count, List.take_succ_cons, List.take_append_of_le_length (by omega)] at letters
      exact ⟨kind, length - 1, classified, by omega, letters⟩
  | none =>
      obtain ⟨kind, other, classified⟩ :=
        classify_unnamed unqualified unread solid (sameName.trans named) notOperator
      refine ⟨kind, _, classified, ?_, fun isReference => absurd isReference other⟩
      cases number : Token.numberRule (first :: (following ++ rest)) with
      | none => exact Nat.zero_le _
      | some found =>
          obtain ⟨_, length⟩ := found
          have begins : first.isDigit = true ∨ first = '.' := by
            by_contra neither
            rw [not_or, Bool.not_eq_true] at neither
            rw [Token.numberRule_eq_none neither.1 neither.2] at number
            cases number
          rw [← List.cons_append, Token.numberRule_append (numberStops begins)] at number
          have fits := Token.numberRule_fits number
          rw [List.length_cons] at fits
          simp only [Option.map_some, Option.getD_some]
          omega

/-- So the first token has no target. -/
theorem targets_step (solid : isBlank first = false ∧ first ≠ '#' ∧ first ≠ '"')
    (unqualified : Token.qualifierLength? (first :: (following ++ rest)) = none)
    (unread : Token.referenceLength? (first :: (following ++ rest)) = none)
    (nameStops : Stops Token.inName rest)
    (numberStops : first.isDigit = true ∨ first = '.' → Stops Decimal.inNumeral rest)
    (notOperator : first ≠ '<' ∧ first ≠ '>') :
    ∃ count ≤ following.length,
      targets (first :: (following ++ rest)) = targets (following.drop count ++ rest) := by
  obtain ⟨kind, count, classified, fits, letters⟩ :=
    classify_unread solid unqualified unread nameStops numberStops notOperator
  refine ⟨count, fits, ?_⟩
  rw [← List.drop_append_of_le_length fits]
  refine targets_of_unresolved classified ?_
  rw [List.take_succ_cons, List.take_append_of_le_length fits]
  by_cases isReference : kind = .reference
  · exact resolve?_of_letters (plain_of_class (by decide) (letters isReference)) letters
  · exact resolve?_eq_none isReference _

/-- A name that is no cells has no target, and neither has the function that it may be. -/
theorem BeginsWithoutCells.name (begins : first.isAlpha = true ∨ first = '_')
    (inside : ∀ character ∈ following, Token.inName character = true)
    (noCells : Target.rangeOf? (first :: following) = none) (stops : Stops continuesArea rest) :
    BeginsWithoutCells (first :: following ++ rest) rest := by
  have allInside : ∀ character ∈ first :: following, Token.inName character = true :=
    List.forall_mem_cons.mpr ⟨Token.inName_of_begins begins, inside⟩
  have runInside : ∀ character ∈ first :: following, inRun character = true := by
    intro character member
    rw [inRun, allInside character member, Bool.true_or]
  have plain := plain_of_class (by decide) allInside
  have unqualified := qualifierLength?_append_eq_none plain stops
  have whole {length : Nat}
      (found : Token.referenceLength? (first :: following ++ rest) = some length) :
      length = (first :: following).length :=
    (referenceLength?_run runInside unqualified (stops.mono fun _ => continuesArea_of_inArea)
      found).1
  refine ⟨unqualified, fun length found => ?_, ?_⟩
  · rw [whole found, List.take_left, noCells]
  · cases found : Token.referenceLength? (first :: following ++ rest) with
    | some length =>
        rw [targets_of_referenceLength? unqualified found, whole found, List.take_left,
          List.drop_left, noCells]
        rfl
    | none =>
        have named : Token.identifierLength? (first :: following ++ rest) = some _ :=
          Token.identifierLength?_run begins inside (Token.stops_name stops)
        rw [List.cons_append] at found unqualified named ⊢
        rw [targets_identifier unqualified found named, ← List.cons_append, ← List.length_cons,
          List.drop_left]

/-! ## Columns -/

/-- Whether two written columns around a colon can have a character in them. -/
def inColumns (character : Char) : Bool :=
  character.isAlpha || character = '$' || character = ':' || isBlank character

theorem not_isDigit_of_inColumns {character : Char} (inside : inColumns character = true) :
    character.isDigit = false := by
  by_contra isDigit
  rw [Bool.not_eq_false] at isDigit
  simp only [inColumns, Bool.or_eq_true, decide_eq_true_eq] at inside
  rcases inside with ((isAlpha | rfl) | rfl) | blank
  · rw [not_isAlpha_of_isDigit isDigit] at isAlpha
    cases isAlpha
  · cases isDigit
  · cases isDigit
  · rw [isBlank_of_isAlphanum (by simp [Char.isAlphanum, isDigit])] at blank
    cases blank

theorem rangeOf?_eq_none_of_inColumns (inside : ∀ character ∈ text, inColumns character = true) :
    Target.rangeOf? text = none := by
  by_contra isCells
  obtain ⟨range, isRange⟩ := Option.ne_none_iff_exists'.mp isCells
  obtain ⟨digit, member, isDigit⟩ := Target.exists_digit_of_rangeOf? isRange
  rw [not_isDigit_of_inColumns (inside digit member)] at isDigit
  cases isDigit

/-- A reference that begins in columns ends there, and is no cells. -/
theorem referenceLength?_columns (inside : ∀ character ∈ text, inColumns character = true)
    (stops : Stops continuesArea rest) {length : Nat}
    (found : Token.referenceLength? (text ++ rest) = some length) :
    length ≤ text.length ∧ Target.rangeOf? ((text ++ rest).take length) = none := by
  have unqualified := qualifierLength?_append_eq_none (plain_of_class (by decide) inside) stops
  obtain ⟨area, rfl, areaFound, _⟩ := Token.referenceLength?_cases found
  rw [unqualified, Option.getD_none, List.drop_zero,
    Token.areaLength?_append (stops.mono fun _ => continuesArea_of_inArea)] at areaFound
  have fits := Token.areaLength?_le areaFound
  rw [unqualified, Option.getD_none, Nat.zero_add, List.take_append_of_le_length fits]
  exact ⟨fits, rangeOf?_eq_none_of_inColumns fun character member =>
    inside character (List.mem_of_mem_take member)⟩

/-- A letter or a mark begins a token that ends in the columns. -/
theorem targets_column (inside : ∀ character ∈ first :: following, inColumns character = true)
    (stops : Stops continuesArea rest) (lettered : first.isAlpha = true ∨ first = '$') :
    ∃ count ≤ following.length,
      targets (first :: following ++ rest) = targets (following.drop count ++ rest) := by
  have unqualified := qualifierLength?_append_eq_none (plain_of_class (by decide) inside) stops
  cases found : Token.referenceLength? (first :: following ++ rest) with
  | some length =>
      obtain ⟨fits, noCells⟩ := referenceLength?_columns inside stops found
      have positive := (plain_of_referenceLength? unqualified found).1
      have count : length - 1 + 1 = length := Nat.sub_add_cancel positive
      rw [List.length_cons] at fits
      refine ⟨length - 1, by omega, ?_⟩
      rw [targets_of_referenceLength? unqualified found, noCells, ← count, List.cons_append,
        List.drop_succ_cons, count, List.drop_append_of_le_length (by omega)]
      rfl
  | none =>
      have outside : first.isDigit = false ∧ first ≠ '.' ∧ first ≠ '<' ∧ first ≠ '>' ∧
          Token.beginsArea first = true := by
        rcases lettered with isAlpha | rfl
        · refine ⟨not_isDigit_of_inColumns (inside first List.mem_cons_self), ?_, ?_, ?_,
            Token.beginsArea_of_begins (.inl isAlpha)⟩ <;> rintro rfl <;> cases isAlpha
        · decide
      obtain ⟨notDigit, notPoint, notLess, notGreater, begins⟩ := outside
      refine targets_step (Token.solid_of_beginsArea begins) unqualified found
        (Token.stops_name stops) (fun number => ?_) ⟨notLess, notGreater⟩
      rcases number with isDigit | isPoint
      · rw [notDigit] at isDigit
        cases isDigit
      · exact absurd isPoint notPoint

theorem targets_columns (inside : ∀ character ∈ text, inColumns character = true)
    (stops : Stops continuesArea rest) : targets (text ++ rest) = targets rest := by
  induction lengthEq : text.length using Nat.strong_induction_on generalizing text with
  | _ length inductionHypothesis =>
      cases text with
      | nil => rfl
      | cons first following =>
          have consumed : ∃ count ≤ following.length,
              targets (first :: following ++ rest) = targets (following.drop count ++ rest) := by
            have firstInside := inside first List.mem_cons_self
            simp only [inColumns, Bool.or_eq_true, decide_eq_true_eq] at firstInside
            rcases firstInside with (lettered | rfl) | blank
            · exact targets_column inside stops lettered
            · exact ⟨0, Nat.zero_le _, targets_colon _⟩
            · exact ⟨0, Nat.zero_le _, targets_blank blank _⟩
          obtain ⟨count, fits, same⟩ := consumed
          rw [same]
          refine inductionHypothesis (following.drop count).length ?_ ?_ rfl
          · rw [← lengthEq, List.length_drop, List.length_cons]
            omega
          · exact fun character member =>
              inside character (List.mem_cons_of_mem _ (List.mem_of_mem_drop member))

theorem BeginsWithoutCells.columns (inside : ∀ character ∈ text, inColumns character = true)
    (stops : Stops continuesArea rest) : BeginsWithoutCells (text ++ rest) rest :=
  ⟨qualifierLength?_append_eq_none (plain_of_class (by decide) inside) stops,
    fun _ found => (referenceLength?_columns inside stops found).2, targets_columns inside stops⟩

/-! ## Cells -/

/-- Cells up to a boundary are a reference to them. -/
theorem BeginsWithCells.of_rangeOf? {range : CellRange}
    (inside : ∀ character ∈ text, inArea character = true)
    (whole : Token.cellsLength? text = some text.length)
    (isRange : Target.rangeOf? text = some range) (stops : Stops continuesArea rest)
    (boundary : Token.isBoundary rest = true) : BeginsWithCells (text ++ rest) range rest := by
  have unqualified := qualifierLength?_append_eq_none (plain_of_class (by decide) inside) stops
  have area : Token.areaLength? (text ++ rest) = some text.length := by
    rw [Token.areaLength?_append (stops.mono fun _ => continuesArea_of_inArea),
      Token.areaLength?, whole]
    rfl
  refine ⟨unqualified, text.length, ?_, ?_, List.drop_left⟩
  · rw [Token.referenceLength?, unqualified]
    simp only [Option.getD_none, List.drop_zero, Nat.zero_add]
    rw [area]
    simp [boundary]
  · rwa [List.take_left]

/-! ## Names in front of an exclamation mark -/

/-- A run of name characters is a qualifier only as a whole. -/
theorem qualifierLength?_run (inside : ∀ character ∈ first :: following, inRun character = true)
    (notName : ¬((first.isAlpha = true ∨ first = '_') ∧
      ∀ character ∈ following, Token.inName character = true)) (rest : Text) :
    Token.qualifierLength? (first :: (following ++ '!' :: rest)) = none := by
  have notQuote : first ≠ SheetName.quote := by
    rintro rfl
    cases inside _ List.mem_cons_self
  rw [Token.qualifierLength?, Token.qualifierNameLength?, if_neg notQuote]
  by_cases begins : first.isAlpha = true ∨ first = '_'
  · -- A dollar sign ends the identifier before the exclamation mark.
    obtain ⟨run, next, others, rfl, runInside, nextOutside⟩ := Text.exists_first_outside fun all =>
      notName ⟨begins, all⟩
    have named := Token.identifierLength?_run begins runInside
      (Text.stops_cons.mpr nextOutside : Stops Token.inName (next :: (others ++ '!' :: rest)))
    have notMark : next ≠ '!' := by
      rintro rfl
      have mark := inside '!' (by simp)
      cases mark
    rw [List.append_assoc, List.cons_append, named]
    simp [notMark]
  · rw [not_or, Bool.not_eq_true] at begins
    rw [Token.identifierLength?_eq_none_of_ne begins.1 begins.2]
    rfl

/-- No reference begins in such a run. -/
theorem referenceLength?_run_eq_none (inside : ∀ character ∈ first :: following, inRun character = true)
    (notName : ¬((first.isAlpha = true ∨ first = '_') ∧
      ∀ character ∈ following, Token.inName character = true)) (rest : Text) :
    Token.referenceLength? (first :: (following ++ '!' :: rest)) = none := by
  by_contra read
  obtain ⟨length, found⟩ := Option.ne_none_iff_exists'.mp read
  have boundary := (referenceLength?_run inside (qualifierLength?_run inside notName rest)
    (Text.stops_cons.mpr rfl) found).2
  cases boundary

/-- A name and an exclamation mark add nothing to what is no cells. -/
theorem targets_name_of_noCells {after : Text} (inside : ∀ character ∈ text, inRun character = true)
    (begins : BeginsWithoutCells rest after) : targets (text ++ '!' :: rest) = targets after := by
  induction lengthEq : text.length using Nat.strong_induction_on generalizing text with
  | _ length inductionHypothesis =>
      cases text with
      | nil =>
          rw [List.nil_append, targets_mark rfl
            (Token.longOperatorRule_eq_none (by decide) (by decide)), begins.skipped]
      | cons first following =>
          by_cases isName : (first.isAlpha = true ∨ first = '_') ∧
              ∀ character ∈ following, Token.inName character = true
          · have same := (Qualifies.plain isName.1 isName.2).targets_of_noCells begins
            simpa using same
          · have unqualified := qualifierLength?_run inside isName rest
            have unread := referenceLength?_run_eq_none inside isName rest
            obtain ⟨solid, notOperator⟩ := solid_of_inRun (inside first List.mem_cons_self)
            obtain ⟨count, fits, same⟩ := targets_step solid unqualified unread
              (Text.stops_cons.mpr rfl) (fun _ => Text.stops_cons.mpr rfl) notOperator
            rw [List.cons_append, same]
            refine inductionHypothesis (following.drop count).length ?_ ?_ rfl
            · rw [← lengthEq, List.length_drop, List.length_cons]
              omega
            · exact fun character member =>
                inside character (List.mem_cons_of_mem _ (List.mem_of_mem_drop member))

end SheetEditor.Draft
