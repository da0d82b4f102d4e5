import SheetEditor.Proofs.Formula.Separation

/-!
Contract: the gaps between the tokens of a formula mean nothing.

Owns: the steps of the strict scan in front of a separator, the tokens of texts with separators
between them, and that a formula does not depend on which separators these are and how many.

Does not own: what else can come after a token without being read with it
(`SheetEditor.Proofs.Formula.Separation`).

A step looks ahead for what goes on with its token. No separator goes on with any token, so a step
that does not get to the end of a text finds the same in front of one, and the step that does cannot
tell a separator from the end.
-/

namespace SheetEditor.Formula

open Text (Stops)

variable {text rest : Text} {first : Char} {following : Text} {position count : Nat}
  {token : Option Token} {tokens : List Token}

namespace Token

/-! ## Steps in front of a gap -/

/-- Whether a character is no separator. -/
def fillsNoGap (character : Char) : Bool := !separators.contains character

/-- What begins with a separator, or is empty, goes on with nothing that has no separators in it. -/
theorem stops_of_gap {continues : Char → Bool} (gap : Stops fillsNoGap rest)
    (outside : separators.any continues = false) : Stops continues rest := by
  refine gap.mono fun next inside => ?_
  rw [fillsNoGap, Bool.not_eq_true', ← Bool.not_eq_true, List.contains_iff_mem]
  exact fun listed => List.any_eq_false.mp outside next listed inside

theorem scanLess_append (gap : Stops fillsNoGap rest) :
    scanLess (following ++ rest) = scanLess following := by
  cases following with
  | cons next others =>
      by_cases isEqual : next = '='
      · subst isEqual
        rfl
      · by_cases isGreater : next = '>'
        · subst isGreater
          rfl
        · simp [scanLess, isEqual, isGreater]
  | nil =>
      have noEqual : Stops (fun next => next = '=' || next = '>') rest := stops_of_gap gap (by decide)
      rw [List.nil_append]
      unfold scanLess
      split
      · cases Text.stops_cons.mp noEqual
      · cases Text.stops_cons.mp noEqual
      · rfl

theorem scanGreater_append (gap : Stops fillsNoGap rest) :
    scanGreater (following ++ rest) = scanGreater following := by
  cases following with
  | cons next others =>
      by_cases isEqual : next = '='
      · subst isEqual
        rfl
      · simp [scanGreater, isEqual]
  | nil =>
      have noEqual : Stops (· = '=') rest := stops_of_gap gap (by decide)
      rw [List.nil_append]
      unfold scanGreater
      split
      · cases Text.stops_cons.mp noEqual
      · rfl

theorem scanError_append (found : scanError position first following = .ok (token, count))
    (other : Nat) (rest : Text) :
    scanError other first (following ++ rest) = .ok (token, count) := by
  unfold scanError at found ⊢
  split at found
  · next literal startOf =>
      cases found
      have spelled : ErrorLiteral.startOf? (first :: (following ++ rest)) = some literal := by
        rw [ErrorLiteral.startOf?_eq_some_iff, ← List.cons_append,
          List.take_append_of_le_length (ErrorLiteral.startOf?_le startOf)]
        exact ErrorLiteral.startOf?_spelling startOf
      rw [spelled]
  · cases found

theorem scanString_append (found : scanString position following = .ok (token, count))
    (other : Nat) (gap : Stops fillsNoGap rest) :
    scanString other (following ++ rest) = .ok (token, count) := by
  unfold scanString at found ⊢
  split at found
  · next content length read =>
      cases found
      rw [Text.readQuoted?_append read (stops_of_gap gap (by decide))]
  · cases found

theorem scanQuotedName_append (found : scanQuotedName position following = .ok (token, count))
    (other : Nat) (gap : Stops fillsNoGap rest) :
    scanQuotedName other (following ++ rest) = .ok (token, count) := by
  unfold scanQuotedName at found ⊢
  split at found
  · next name length read =>
      rw [Text.readQuoted?_append read (stops_of_gap gap (by decide))]
      dsimp only
      rw [List.drop_append_of_le_length (Text.readQuoted?_length_le read)]
      split at found
      · next after marked =>
          cases found
          rw [marked]
          rfl
      · cases found
      · cases found
  · cases found

theorem scanNumber_append (gap : Stops fillsNoGap rest) :
    scanNumber first (following ++ rest) = scanNumber first following := by
  have noDigit : Stops (fun character => character.isDigit || character = '.') rest :=
    stops_of_gap gap (by decide)
  have noNumeral : Stops Decimal.inNumeral rest := stops_of_gap gap (by decide)
  unfold scanNumber
  dsimp only
  rw [Text.takeWhile_append noDigit]
  generalize digitsEq : following.takeWhile (fun character => character.isDigit ||
    decide (character = '.')) = digits
  have digitsFit : digits.length ≤ following.length := digitsEq ▸ Text.length_takeWhile_le _ following
  have exponentFits := Decimal.exponentLength_le (following.drop digits.length)
  rw [List.length_drop] at exponentFits
  rw [List.drop_append_of_le_length digitsFit, Decimal.exponentLength_append noNumeral,
    List.take_append_of_le_length (by omega)]

theorem identifierLength_append (beforePoint : Bool) (text : Text) (stops : Stops inIdentifier rest) :
    identifierLength beforePoint (text ++ rest) = identifierLength beforePoint text := by
  fun_induction identifierLength beforePoint text with
  | case1 => exact identifierLength_word _ (by simp) stops
  | case2 beforePoint character others continues inductionHypothesis =>
      rw [List.cons_append, identifierLength, if_pos continues, inductionHypothesis]
  | case3 beforePoint character others plain continues inductionHypothesis =>
      have sameNext : (others ++ rest).head?.any Char.isAlpha = others.head?.any Char.isAlpha := by
        cases others with
        | nil => simp at continues
        | cons next others => rfl
      rw [List.cons_append, identifierLength, if_neg plain, sameNext, if_pos continues,
        inductionHypothesis]
  | case4 beforePoint character others plain ends =>
      -- Behind a point at the end of the text comes no letter of the rest.
      have sameNext : (others ++ rest).head?.any Char.isAlpha = others.head?.any Char.isAlpha := by
        cases others with
        | cons next others => rfl
        | nil =>
            cases rest with
            | nil => rfl
            | cons next rest =>
                have outside : inIdentifier next = false := Text.stops_cons.mp stops
                rw [inIdentifier, Char.isAlphanum, Bool.or_eq_false_iff,
                  Bool.or_eq_false_iff] at outside
                simpa using outside.1.1
      rw [List.cons_append, identifierLength, if_neg plain, sameNext, if_neg ends]

theorem scanIdentifier_append (gap : Stops fillsNoGap rest) :
    scanIdentifier first (following ++ rest) = scanIdentifier first following := by
  have noName : Stops inIdentifier rest := stops_of_gap gap (by decide)
  have fits := identifierLength_le true following
  unfold scanIdentifier
  dsimp only
  rw [identifierLength_append true following noName, List.take_append_of_le_length fits,
    List.drop_append_of_le_length fits]
  cases following.drop (identifierLength true following) with
  | cons next others =>
      by_cases isMark : next = '!'
      · subst isMark
        rfl
      · simp [isMark]
  | nil =>
      have unmarked : Stops (· = '!') rest := stops_of_gap gap (by decide)
      cases rest with
      | nil => rfl
      | cons next others =>
          have isMark : next ≠ '!' := by simpa using unmarked
          simp [isMark]

/-- A step finds the same token if a gap is added at the end of the text, wherever in a body that
is. -/
theorem scan_append (found : scan position first following = .ok (token, count)) (other : Nat)
    (gap : Stops fillsNoGap rest) :
    scan other first (following ++ rest) = .ok (token, count) := by
  unfold scan at found ⊢
  split at found
  case h_20 => rwa [scanLess_append gap]
  case h_21 => rwa [scanGreater_append gap]
  case h_22 => exact scanError_append found other rest
  case h_23 => exact scanString_append found other gap
  case h_24 => exact scanQuotedName_append found other gap
  case h_25 =>
    rw [scanNumber_append gap, scanIdentifier_append gap]
    split at found
    · next begins => rwa [if_pos begins]
    · next notNumber =>
        rw [if_neg notNumber]
        split at found
        · next begins => rwa [if_pos begins]
        · cases found
  all_goals
    cases found
    rfl

/-! ## Texts with a gap between them -/

/-- Separators, at least one. -/
def IsGap (gap : Text) : Prop := gap ≠ [] ∧ ∀ character ∈ gap, character ∈ separators

instance (gap : Text) : Decidable (IsGap gap) :=
  decidable_of_iff (gap ≠ [] ∧ gap.all separators.contains = true) <| by
    simp only [IsGap, List.all_eq_true, List.contains_iff_mem]

/-- The tokens of a text stay what they are in front of a gap, wherever in a body the text is. -/
theorem scanFrom_append (scanned : scanFrom position text = .ok tokens) (other : Nat)
    (gap : Stops fillsNoGap rest) :
    scanFrom other (text ++ rest) = (scanFrom (other + text.length) rest).map (tokens ++ ·) := by
  induction position, text using scanFrom.induct generalizing tokens other with
  | case1 position =>
      rw [scanFrom] at scanned
      cases scanned
      show scanFrom other rest = (scanFrom other rest).map fun found => found
      cases scanFrom other rest <;> rfl
  | case2 position first following inductionHypothesis =>
      obtain ⟨token, count, others, step, later, rfl⟩ := exists_of_scanFrom_cons scanned
      have fits := le_of_scan step
      have place : other + 1 + count + (following.drop count).length =
          other + (first :: following).length := by
        rw [List.length_drop, List.length_cons]
        omega
      rw [List.cons_append, scanFrom, scan_append step other gap]
      simp only [bind, Except.bind]
      rw [List.drop_append_of_le_length fits, inductionHypothesis count later, place]
      cases scanFrom (other + (first :: following).length) rest with
      | error failure => rfl
      | ok found =>
          show Except.ok (token.toList ++ (others ++ found)) = _
          rw [← List.append_assoc]
          rfl

/-- The tokens of a text do not depend on where in a body it stands. -/
theorem scanFrom_eq_ok (scanned : scanFrom position text = .ok tokens) (other : Nat) :
    scanFrom other text = .ok tokens := by
  have alone := scanFrom_append scanned other (Text.stops_nil : Stops fillsNoGap [])
  rw [List.append_nil, scanFrom] at alone
  rw [alone]
  show Except.ok (tokens ++ []) = _
  rw [List.append_nil]

/-- Separators in front of a text yield no tokens. -/
theorem scanFrom_gap {gap : Text} (separated : ∀ character ∈ gap, character ∈ separators)
    (position : Nat) (text : Text) :
    scanFrom position (gap ++ text) = scanFrom (position + gap.length) text := by
  induction gap generalizing position with
  | nil => rfl
  | cons separator gap inductionHypothesis =>
      rw [List.forall_mem_cons] at separated
      have step : scan position separator (gap ++ text) = .ok (none, 0) := by
        have listed := separated.1
        simp only [separators, List.mem_cons, List.not_mem_nil, or_false] at listed
        rcases listed with rfl | rfl | rfl | rfl <;> rfl
      rw [List.cons_append, scanFrom, step]
      simp only [bind, Except.bind, List.drop_zero]
      rw [inductionHypothesis separated.2, List.length_cons, Nat.add_zero, Nat.add_right_comm,
        Nat.add_assoc]
      cases scanFrom (position + (gap.length + 1)) text <;> rfl

/-- The tokens of two texts with a gap between them. -/
theorem scanAll_around_gap {front back gap : Text} {before after : List Token}
    (scannedFront : scanAll front = .ok before) (scannedBack : scanAll back = .ok after)
    (isGap : IsGap gap) : scanAll (front ++ gap ++ back) = .ok (before ++ after) := by
  obtain ⟨nonempty, separated⟩ := isGap
  have beginsGap : Stops fillsNoGap (gap ++ back) := by
    obtain ⟨separator, others, rfl⟩ := List.exists_cons_of_ne_nil nonempty
    have listed := separated separator List.mem_cons_self
    rw [List.cons_append, Text.stops_cons, fillsNoGap, List.contains_iff_mem.mpr listed]
    rfl
  rw [List.append_assoc, scanAll, scanFrom_append scannedFront 0 beginsGap, scanFrom_gap separated,
    scanFrom_eq_ok scannedBack]
  rfl

end Token

/-! ## Formulas with gaps -/

/-- What a formula is parsed to depends on its tokens only, as long as it is not too long. -/
theorem parse_eq_of_scanAll {body other : Text} (scanned : Token.scanAll body = .ok tokens)
    (scannedOther : Token.scanAll other = .ok tokens) (short : body.length ≤ lengthLimit)
    (shortOther : other.length ≤ lengthLimit) : parse body = parse other := by
  unfold parse
  rw [if_neg (Nat.not_lt.mpr short), if_neg (Nat.not_lt.mpr shortOther), scanned, scannedOther]

/-- Gaps between tokens mean nothing. The tokens of two texts with a gap between them are the tokens
of the one and then those of the other. So a formula within the limit on its length parses to the
same expression, or fails to in the same way, whatever other gap is there, and without one if the
tokens are the same without it. -/
theorem gaps_mean_nothing
    {front back gap : Text}
    {before after : List Token}
    (scannedFront : Token.scanAll front = .ok before)
    (scannedBack : Token.scanAll back = .ok after)
    (isGap : Token.IsGap gap) :
    Token.scanAll (front ++ gap ++ back) = .ok (before ++ after) ∧
      ((front ++ gap ++ back).length ≤ lengthLimit →
        (∀ other, Token.IsGap other → (front ++ other ++ back).length ≤ lengthLimit →
          parse (front ++ gap ++ back) = parse (front ++ other ++ back)) ∧
        (Token.scanAll (front ++ back) = .ok (before ++ after) →
          parse (front ++ gap ++ back) = parse (front ++ back))) := by
  have scanned := Token.scanAll_around_gap scannedFront scannedBack isGap
  refine ⟨scanned, fun short => ⟨fun other isOther shortOther => ?_, fun joined => ?_⟩⟩
  · have scannedOther := Token.scanAll_around_gap scannedFront scannedBack isOther
    exact parse_eq_of_scanAll scanned scannedOther short shortOther
  · refine parse_eq_of_scanAll scanned joined short ?_
    simp only [List.length_append] at short ⊢
    omega

/-- Between the characters of a longer mark a gap makes two tokens of them; behind an operator any gap
will do, or none. -/
theorem gaps_around_operators :
    Token.scanAll "A1<\r>B1".toList =
        .ok [.cell ⟨0, 0⟩ false false, .operator .less, .operator .greater,
          .cell ⟨0, 1⟩ false false] ∧
      parse "\"a\"& \t'b c'!C3".toList = parse "\"a\"&\n'b c'!C3".toList ∧
      parse "\"a\"& \t'b c'!C3".toList = parse "\"a\"&'b c'!C3".toList := by
  have scannedLess : Token.scanAll "A1<".toList =
      .ok [.cell ⟨0, 0⟩ false false, .operator .less] := by decide +kernel
  have scannedGreater : Token.scanAll ">B1".toList =
      .ok [.operator .greater, .cell ⟨0, 1⟩ false false] := by decide +kernel
  have scannedFront : Token.scanAll "\"a\"&".toList =
      .ok [.text "a".toList, .operator .concatenate] := by decide +kernel
  have scannedBack : Token.scanAll "'b c'!C3".toList =
      .ok [.qualifier "b c".toList, .cell ⟨2, 2⟩ false false] := by decide +kernel
  have gap : Token.IsGap " \t".toList := by decide
  have other : Token.IsGap "\n".toList := by decide
  have apart : Token.IsGap "\r".toList := by decide
  have split := (gaps_mean_nothing scannedLess scannedGreater apart).1
  obtain ⟨same, without⟩ := (gaps_mean_nothing scannedFront scannedBack gap).2 (by decide)
  exact ⟨split, same _ other (by decide), without (by decide +kernel)⟩

end SheetEditor.Formula
