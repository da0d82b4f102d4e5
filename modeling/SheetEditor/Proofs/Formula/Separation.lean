import SheetEditor.Proofs.Formula.Picking
import SheetEditor.Proofs.Formula.Spacing

/-!
Contract: a token is read the same wherever it stands, if nothing goes on with it.

Owns: the characters that would be read with a token before them, the steps of the
strict scan in front of any other text, the lexemes that stand apart from each
other, and that the lexemes of every accepted formula do.

Does not own: what a step can find at all (`SheetEditor.Proofs.Formula.Lexeme`).

A step looks further than the token it finds: to the end of an exponent, to an
exclamation mark, to a second quote. In an accepted formula only blanks and marks
come after a token that could go on, so the step finds the same token in front of
anything else that cannot go on with it.
-/

namespace SheetEditor.Formula

open Text (Stops)

variable {text rest : Text} {first : Char} {following : Text} {position count : Nat}
  {token : Option Token}

namespace Token

/-- Whether a character right after a token would be read with it. -/
def continuedBy : Option Token → Char → Bool
  | some (.number _), next | some (.cell ..), next | some (.identifier _), next =>
      continuesIdentifier next
  | some (.text _), next => next = '"'
  | some (.operator .less), next => next = '=' || next = '>'
  | some (.operator .greater), next => next = '='
  | _, _ => false

/-- Whether a token is spelled with the characters of identifiers and numerals. -/
def isWord : Token → Bool
  | .number _ | .cell .. | .identifier _ => true
  | _ => false

theorem isWord_of_isNamed {found : Token} (named : found.isNamed = true) : found.isWord = true := by
  cases found <;> first | rfl | cases named

theorem isWord_of_isCell {found : Token} (isCell : found.isCell = true) : found.isWord = true := by
  cases found <;> first | rfl | cases isCell

theorem continuedBy_of_isWord {found : Token} (isWord : found.isWord = true) (next : Char) :
    continuedBy (some found) next = continuesIdentifier next := by
  cases found <;> first | rfl | cases isWord

theorem stops_inIdentifier (stops : Stops continuesIdentifier rest) : Stops inIdentifier rest :=
  stops.mono fun next inside => by rw [continuesIdentifier, inside, Bool.true_or]

theorem stops_continuesDigits (stops : Stops continuesIdentifier rest) :
    Stops Decimal.continuesDigits rest := by
  refine stops.mono fun next continues => ?_
  simp only [Decimal.continuesDigits, Bool.or_eq_true, List.contains_iff_mem, List.mem_cons,
    List.not_mem_nil, or_false] at continues
  rcases continues with isDigit | rfl | rfl | rfl
  · simp [continuesIdentifier, inIdentifier, Char.isAlphanum, isDigit]
  all_goals rfl

theorem stops_digitOrPoint (stops : Stops Decimal.continuesDigits rest) :
    Stops (fun character => character.isDigit || character = '.') rest :=
  stops.mono fun next digitOrPoint => by
    rw [Bool.or_eq_true, decide_eq_true_eq] at digitOrPoint
    rcases digitOrPoint with isDigit | rfl
    · rw [Decimal.continuesDigits, isDigit, Bool.true_or]
    · rfl

/-! ## Steps in front of another text -/

theorem identifierLength_take (beforePoint : Bool) (text : Text) (stops : Stops inIdentifier rest) :
    identifierLength beforePoint (text.take (identifierLength beforePoint text) ++ rest) =
      identifierLength beforePoint text := by
  fun_induction identifierLength beforePoint text with
  | case1 => exact identifierLength_word _ (by simp) stops
  | case2 beforePoint character others continues inductionHypothesis =>
      rw [List.take_succ_cons, List.cons_append, identifierLength, if_pos continues,
        inductionHypothesis]
  | case3 beforePoint character others plain continues inductionHypothesis =>
      -- A point is read with the letter after it, so the letter is taken as well.
      have letterNext : (others.take (identifierLength false others) ++ rest).head?.any Char.isAlpha =
          true := by
        cases others with
        | nil => simp at continues
        | cons next others =>
            have isAlpha : next.isAlpha = true := by
              simp only [List.head?_cons, Option.any_some, Bool.and_eq_true] at continues
              exact continues.2
            simp [identifierLength, Char.isAlphanum, isAlpha]
      have isPoint : character = '.' := by simp_all
      rw [List.take_succ_cons, List.cons_append, identifierLength, if_neg plain,
        if_pos (by rw [letterNext, isPoint]; rfl), inductionHypothesis]
  | case4 => exact identifierLength_word _ (by simp) stops

theorem identifierLength_le (beforePoint : Bool) (text : Text) :
    identifierLength beforePoint text ≤ text.length := by
  fun_induction identifierLength beforePoint text with
  | case1 | case4 => exact Nat.zero_le _
  | case2 _ _ _ _ inductionHypothesis | case3 _ _ _ _ _ inductionHypothesis =>
      exact Nat.succ_le_succ inductionHypothesis

theorem scan_of_beginsIdentifier (position : Nat) (begins : beginsIdentifier first = true)
    (following : Text) : scan position first following = scanIdentifier first following := by
  simp only [beginsIdentifier, Bool.or_eq_true, decide_eq_true_eq] at begins
  rcases begins with named | rfl
  · exact scan_of_begins position named
  · rfl

theorem scanIdentifier_marked (length : identifierLength true (text ++ '!' :: rest) = text.length) :
    scanIdentifier first (text ++ '!' :: rest) =
      .ok (some (.qualifier (first :: text)), text.length + 1) := by
  unfold scanIdentifier
  simp only [length, List.take_left, List.drop_left]

theorem scanIdentifier_unmarked
    (length : identifierLength true (text ++ rest) = text.length)
    (unmarked : Stops continuesIdentifier rest) :
    scanIdentifier first (text ++ rest) =
      (ofIdentifier (first :: text)).map fun token => (some token, text.length) := by
  unfold scanIdentifier
  simp only [length, List.take_left, List.drop_left]
  split
  · cases Text.stops_cons.mp unmarked
  · rfl

theorem scanIdentifier_take (found : scanIdentifier first following = .ok (token, count))
    (stops : Stops (continuedBy token) rest) :
    scanIdentifier first (following.take count ++ rest) = .ok (token, count) := by
  have taken : (following.take (identifierLength true following)).length =
      identifierLength true following :=
    List.length_take_of_le (identifierLength_le true following)
  have again {after : Text} (outside : Stops inIdentifier after) :
      identifierLength true (following.take (identifierLength true following) ++ after) =
        (following.take (identifierLength true following)).length :=
    (identifierLength_take true following outside).trans taken.symm
  unfold scanIdentifier at found
  dsimp only at found
  split at found
  · next after marked =>
      cases found
      have whole : following.take (identifierLength true following + 1) ++ rest =
          following.take (identifierLength true following) ++ '!' :: rest := by
        rw [List.take_add, marked]
        simp
      rw [whole, scanIdentifier_marked (again (Text.stops_cons.mpr (by decide))), taken]
  · cases named : ofIdentifier (first :: following.take (identifierLength true following)) with
    | error failure =>
        rw [named] at found
        cases found
    | ok name =>
        rw [named] at found
        cases found
        have isWord := isWord_of_isNamed (isNamed_of_ofIdentifier named)
        have stops : Stops continuesIdentifier rest :=
          stops.mono fun next => (continuedBy_of_isWord isWord next).trans
        rw [scanIdentifier_unmarked (again (stops_inIdentifier stops)) stops, named, taken]
        rfl

/-- The exponent part of a numeral, in front of what continues neither it nor the digits before
it. -/
theorem exponentLength_take (text : Text) (stops : Stops Decimal.continuesDigits rest) :
    Decimal.exponentLength (text.take (Decimal.exponentLength text) ++ rest) =
        Decimal.exponentLength text ∧
      Stops (fun character => character.isDigit || character = '.')
        (text.take (Decimal.exponentLength text) ++ rest) := by
  rcases Decimal.exponent_cases text with zero | ⟨exponent, after, rfl, isExponent, outside⟩
  · rw [zero, List.take_zero, List.nil_append]
    exact ⟨Decimal.exponentLength_eq_zero stops, stops_digitOrPoint stops⟩
  · rw [Decimal.exponentLength_append_of_isExponent isExponent outside, List.take_left,
      Decimal.exponentLength_append_of_isExponent isExponent (Decimal.stops_digit stops)]
    refine ⟨rfl, ?_⟩
    cases isExponent with
    | intro marked _ _ _ =>
        rw [List.cons_append, Text.stops_cons]
        rcases marked with rfl | rfl <;> rfl

theorem scanNumber_take (found : scanNumber first following = .ok (token, count))
    (stops : Stops (continuedBy token) rest) :
    scanNumber first (following.take count ++ rest) = .ok (token, count) := by
  unfold scanNumber at found ⊢
  dsimp only at found ⊢
  split at found
  · next value read =>
      cases found
      generalize digitsEq : following.takeWhile (fun character => character.isDigit ||
        decide (character = '.')) = digits at read
      have whole : following = digits ++ following.drop digits.length :=
        List.prefix_append_drop (digitsEq ▸ List.takeWhile_prefix _)
      have inside : ∀ character ∈ digits, (character.isDigit || decide (character = '.')) = true :=
        fun character member => List.mem_takeWhile_imp (p := fun character => character.isDigit ||
          decide (character = '.')) (digitsEq.symm ▸ member)
      generalize following.drop digits.length = after at whole read
      subst whole
      obtain ⟨sameLength, outside⟩ := exponentLength_take after (stops_continuesDigits stops)
      simp only [List.take_length_add_append, List.append_assoc] at read ⊢
      rw [Text.takeWhile_run inside outside, List.drop_left, sameLength,
        List.take_length_add_append,
        List.take_left' (List.length_take_of_le (Decimal.exponentLength_le after)), read]
  · cases found

theorem scanError_take (found : scanError position first following = .ok (token, count))
    (other : Nat) (rest : Text) :
    scanError other first (following.take count ++ rest) = .ok (token, count) := by
  unfold scanError at found ⊢
  split at found
  · next literal startOf =>
      cases found
      have again := ErrorLiteral.startOf?_take startOf rest
      have positive : literal.spelling.length = literal.spelling.length - 1 + 1 := by
        cases literal <;> rfl
      rw [positive, List.take_succ_cons, List.cons_append] at again
      rw [again]
  · cases found

theorem scanString_take (found : scanString position following = .ok (token, count))
    (other : Nat) (stops : Stops (continuedBy token) rest) :
    scanString other (following.take count ++ rest) = .ok (token, count) := by
  unfold scanString at found ⊢
  split at found
  · next content count read =>
      cases found
      rw [Text.readQuoted?_take read stops]
  · cases found

theorem scanQuotedName_take (found : scanQuotedName position following = .ok (token, count))
    (other : Nat) (rest : Text) :
    scanQuotedName other (following.take count ++ rest) = .ok (token, count) := by
  unfold scanQuotedName at found ⊢
  split at found
  · next name length read =>
      split at found
      · next after marked =>
          cases found
          have whole : following.take (length + 1) ++ rest = following.take length ++ '!' :: rest := by
            rw [List.take_add, marked]
            simp
          have taken : (following.take length).length = length :=
            List.length_take_of_le (Text.readQuoted?_length_le read)
          rw [whole, Text.readQuoted?_take read (Text.stops_cons.mpr (by decide))]
          simp only [List.drop_left' taken]
      · cases found
      · cases found
  · cases found

theorem scanLess_take (found : scanLess following = .ok (token, count))
    (stops : Stops (continuedBy token) rest) :
    scanLess (following.take count ++ rest) = .ok (token, count) := by
  unfold scanLess at found
  split at found
  · cases found
    rfl
  · cases found
    rfl
  · cases found
    rw [List.take_zero, List.nil_append]
    unfold scanLess
    split
    · cases Text.stops_cons.mp stops
    · cases Text.stops_cons.mp stops
    · rfl

theorem scanGreater_take (found : scanGreater following = .ok (token, count))
    (stops : Stops (continuedBy token) rest) :
    scanGreater (following.take count ++ rest) = .ok (token, count) := by
  unfold scanGreater at found
  split at found
  · cases found
    rfl
  · cases found
    rw [List.take_zero, List.nil_append]
    unfold scanGreater
    split
    · cases Text.stops_cons.mp stops
    · rfl

/-- A step that finds a token finds it again in front of what does not go on with it, wherever in a
body that is. -/
theorem scan_take (found : scan position first following = .ok (token, count)) (other : Nat)
    (stops : Stops (continuedBy token) rest) :
    scan other first (following.take count ++ rest) = .ok (token, count) := by
  unfold scan at found ⊢
  split at found
  case h_20 => exact scanLess_take found stops
  case h_21 => exact scanGreater_take found stops
  case h_22 => exact scanError_take found other rest
  case h_23 => exact scanString_take found other stops
  case h_24 => exact scanQuotedName_take found other rest
  case h_25 =>
    split at found
    · next begins =>
        rw [if_pos begins]
        exact scanNumber_take found stops
    · next notNumber =>
        rw [if_neg notNumber]
        split at found
        · next begins =>
            rw [if_pos begins]
            exact scanIdentifier_take found stops
        · cases found
  all_goals
    cases found
    rfl

/-! ## Lengths of steps -/

theorem le_of_scanLess (found : scanLess following = .ok (token, count)) :
    count ≤ following.length := by
  unfold scanLess at found
  split at found <;> cases found <;> simp

theorem le_of_scanGreater (found : scanGreater following = .ok (token, count)) :
    count ≤ following.length := by
  unfold scanGreater at found
  split at found <;> cases found <;> simp

theorem le_of_scanError (found : scanError position first following = .ok (token, count)) :
    count ≤ following.length := by
  unfold scanError at found
  split at found
  · next literal startOf =>
      cases found
      have bound := ErrorLiteral.startOf?_le startOf
      rw [List.length_cons] at bound
      omega
  · cases found

theorem le_of_scanString (found : scanString position following = .ok (token, count)) :
    count ≤ following.length := by
  unfold scanString at found
  split at found
  · next content length read =>
      cases found
      exact Text.readQuoted?_length_le read
  · cases found

theorem lt_of_drop {after : Text} {next : Char} (dropped : following.drop count = next :: after) :
    count < following.length := by
  have length := congrArg List.length dropped
  rw [List.length_drop, List.length_cons] at length
  omega

theorem le_of_scanQuotedName (found : scanQuotedName position following = .ok (token, count)) :
    count ≤ following.length := by
  unfold scanQuotedName at found
  split at found
  · split at found
    · next marked =>
        cases found
        exact lt_of_drop marked
    · cases found
    · cases found
  · cases found

theorem le_of_scanNumber (found : scanNumber first following = .ok (token, count)) :
    count ≤ following.length := by
  unfold scanNumber at found
  dsimp only at found
  split at found
  · cases found
    have digits := Text.length_takeWhile_le
      (fun character => character.isDigit || decide (character = '.')) following
    have exponent := Decimal.exponentLength_le (following.drop
      (following.takeWhile fun character => character.isDigit || decide (character = '.')).length)
    rw [List.length_drop] at exponent
    omega
  · cases found

theorem le_of_scanIdentifier (found : scanIdentifier first following = .ok (token, count)) :
    count ≤ following.length := by
  unfold scanIdentifier at found
  dsimp only at found
  split at found
  · next marked =>
      cases found
      exact lt_of_drop marked
  · cases named : ofIdentifier (first :: following.take (identifierLength true following)) with
    | error failure =>
        rw [named] at found
        cases found
    | ok name =>
        rw [named] at found
        cases found
        exact identifierLength_le true following

/-- A step stays within the text. -/
theorem le_of_scan (found : scan position first following = .ok (token, count)) :
    count ≤ following.length := by
  unfold scan at found
  split at found
  case h_20 => exact le_of_scanLess found
  case h_21 => exact le_of_scanGreater found
  case h_22 => exact le_of_scanError found
  case h_23 => exact le_of_scanString found
  case h_24 => exact le_of_scanQuotedName found
  case h_25 =>
    split at found
    · exact le_of_scanNumber found
    · split at found
      · exact le_of_scanIdentifier found
      · cases found
  all_goals
    cases found
    exact Nat.zero_le _

/-! ## Tokens next to each other -/

/-- Whether a token may come right after another one: a mark has to come after a word. -/
def MayFollow (token next : Token) : Prop := token.isWord = true → next.isListed = true

theorem mayFollow_of_noWord {found : Token} (noWord : found.isWord = false) (next : Token) :
    found.MayFollow next := fun isWord => absurd (noWord.symm.trans isWord) Bool.false_ne_true

theorem noWord_of_isListed {found : Token} (listed : found.isListed = true) :
    found.isWord = false := by
  cases found <;> first | rfl | cases listed

theorem noWord_of_isMark {found : Token} (isMark : found.isMark = true) : found.isWord = false :=
  noWord_of_isListed (isListed_of_isMark isMark)

theorem isListed_of_delimits {found : Token} (delimits : found.delimits = true) :
    found.isListed = true := by
  cases found <;> first | rfl | cases delimits

/-- Of the marks only two go on, with the second character of a longer mark. -/
theorem continues_longMark {found : Token} {next : Char} (listed : (first, found) ∈ marks)
    (continued : continuedBy (some found) next = true) :
    ∃ long, (first, next, long) ∈ longMarks := by
  have firstLess : ∀ mark ∈ marks, mark.2 = .operator .less → mark.1 = '<' := by decide
  have firstGreater : ∀ mark ∈ marks, mark.2 = .operator .greater → mark.1 = '>' := by decide
  cases found with
  | operator operator =>
      cases operator with
      | less =>
          obtain rfl : first = '<' := firstLess _ listed rfl
          have second : next = '=' ∨ next = '>' := by simpa [continuedBy] using continued
          rcases second with rfl | rfl
          · exact ⟨.operator .lessEqual, by decide⟩
          · exact ⟨.operator .notEqual, by decide⟩
      | greater =>
          obtain rfl : first = '>' := firstGreater _ listed rfl
          obtain rfl : next = '=' := by simpa [continuedBy] using continued
          exact ⟨.operator .greaterEqual, by decide⟩
      | _ => cases continued
  | number | text | cell | identifier => cases isListed_of_mem_marks listed
  | _ => cases continued

theorem Scans.of_none (scans : Scans first following none count) : first ∈ separators := by
  cases scans with
  | blank listed => exact listed

/-- A token other than a word takes all that could go on with it. -/
theorem Scans.stops (scans : Scans first following token count)
    (noWord : ∀ found ∈ token, found.isWord = false) :
    Stops (continuedBy token) (following.drop count) := by
  cases scans with
  | blank | error | quotedName | plainName => exact fun _ _ => rfl
  | mark listed short =>
      intro next isNext
      by_contra continues
      obtain ⟨long, isLong⟩ := continues_longMark listed (by simpa using continues)
      exact short next long isLong isNext
  | @longMark _ _ _ found listed =>
      have all : ∀ mark ∈ longMarks, mark.2.2 = .operator .lessEqual ∨
          mark.2.2 = .operator .notEqual ∨ mark.2.2 = .operator .greaterEqual := by decide
      obtain rfl | rfl | rfl : found = .operator .lessEqual ∨ found = .operator .notEqual ∨
        found = .operator .greaterEqual := all _ listed
      all_goals exact fun _ _ => rfl
  | text read =>
      obtain ⟨rfl, after, rfl, stops⟩ := Text.readQuoted?_eq_some_iff.mp read
      rw [List.drop_length_add_append]
      exact stops
  | number => cases noWord _ rfl
  | identifier _ _ named =>
      have isWord := isWord_of_isNamed (isNamed_of_ofIdentifier named)
      rw [noWord _ rfl] at isWord
      cases isWord

end Token

theorem isChain_delimited {token : Token} {rest : List Token} (delimited : Delimited rest)
    (chain : rest.IsChain Token.MayFollow) : (token :: rest).IsChain Token.MayFollow :=
  List.isChain_cons.mpr
    ⟨fun next isNext _ => Token.isListed_of_delimits (delimited next isNext), chain⟩

theorem isChain_noWord {token : Token} {rest : List Token} (noWord : token.isWord = false)
    (chain : rest.IsChain Token.MayFollow) : (token :: rest).IsChain Token.MayFollow :=
  List.isChain_cons.mpr ⟨fun next _ => Token.mayFollow_of_noWord noWord next, chain⟩

theorem Refers.isChain {sheet : Option Text} {tokens rest : List Token} {value : Expr}
    (refers : Refers sheet tokens value) (delimited : Delimited rest)
    (chain : rest.IsChain Token.MayFollow) : (tokens ++ rest).IsChain Token.MayFollow := by
  have last {token : Token} : (token :: rest).IsChain Token.MayFollow :=
    isChain_delimited delimited chain
  cases refers with
  | cell => exact last
  | range | columns | rows => exact .cons_cons (fun _ => rfl) (isChain_noWord rfl last)

/-- Only marks come after the words of an expression. -/
theorem Layout.isChain {tokens : List Token} {found : List Draft.Target}
    (layout : Layout tokens found) : tokens.IsChain Token.MayFollow := by
  induction layout with
  | nil => exact .nil
  | mark isMark _ inductionHypothesis =>
      exact isChain_noWord (Token.noWord_of_isMark isMark) inductionHypothesis
  | call _ inductionHypothesis =>
      exact .cons_cons (fun _ => rfl) (isChain_noWord rfl inductionHypothesis)
  | constant _ delimited _ inductionHypothesis =>
      exact isChain_delimited delimited inductionHypothesis
  | reference refers delimited _ inductionHypothesis =>
      exact refers.isChain delimited inductionHypothesis
  | qualified refers delimited _ inductionHypothesis =>
      exact isChain_noWord rfl (refers.isChain delimited inductionHypothesis)

/-! ## Lexemes that stand apart -/

namespace Lexeme

/-- The text that lexemes make up. -/
def written (lexemes : List Lexeme) : Text := lexemes.flatMap Lexeme.text

@[simp] theorem written_nil : written [] = [] := rfl

@[simp] theorem written_cons (lexeme : Lexeme) (lexemes : List Lexeme) :
    written (lexeme :: lexemes) = lexeme.text ++ written lexemes := rfl

@[simp] theorem written_append (before after : List Lexeme) :
    written (before ++ after) = written before ++ written after := List.flatMap_append

@[simp] theorem tokens_nil : tokens [] = [] := rfl

@[simp] theorem tokens_append (before after : List Lexeme) :
    tokens (before ++ after) = tokens before ++ tokens after := List.filterMap_append

/-- A lexeme is one step of the scan in front of whatever does not go on with it. -/
def IsStep (lexeme : Lexeme) : Prop :=
  ∃ first following, lexeme.text = first :: following ∧
    ∀ position rest, Stops (Token.continuedBy lexeme.token) rest →
      Token.scan position first (following ++ rest) = .ok (lexeme.token, following.length)

/-- A word that is an identifier as a whole is one step. -/
theorem isStep_word {named : Token} (begins : Token.beginsIdentifier first = true)
    (whole : Token.identifierLength true following = following.length)
    (isNamed : Token.ofIdentifier (first :: following) = .ok named) :
    IsStep ⟨first :: following, some named⟩ := by
  refine ⟨first, following, rfl, fun position rest stops => ?_⟩
  have isWord := Token.isWord_of_isNamed (Token.isNamed_of_ofIdentifier isNamed)
  have stops : Stops continuesIdentifier rest :=
    stops.mono fun next => (Token.continuedBy_of_isWord isWord next).trans
  have length := Token.identifierLength_take true following (Token.stops_inIdentifier stops)
  rw [whole, List.take_length] at length
  rw [Token.scan_of_beginsIdentifier position begins, Token.scanIdentifier_unmarked length stops,
    isNamed]
  rfl

/-- Lexemes of which none goes on with the one before it. -/
inductive Apart : List Lexeme → Prop where
  | nil : Apart []
  | cons {lexeme : Lexeme} {later : List Lexeme} (isStep : lexeme.IsStep)
      (stops : Stops (Token.continuedBy lexeme.token) (written later)) (rest : Apart later) :
      Apart (lexeme :: later)

theorem Apart.head {lexeme : Lexeme} {later : List Lexeme} (apart : Apart (lexeme :: later)) :
    lexeme.IsStep := by
  cases apart with
  | cons isStep => exact isStep

theorem Apart.tail {lexeme : Lexeme} {later : List Lexeme} (apart : Apart (lexeme :: later)) :
    Apart later := by
  cases apart with
  | cons _ _ rest => exact rest

/-- Nothing goes on with a word. -/
theorem Apart.stops_of_isWord {text : Text} {named : Token} {later : List Lexeme}
    (apart : Apart (⟨text, some named⟩ :: later)) (isWord : named.isWord = true) :
    Stops continuesIdentifier (written later) := by
  cases apart with
  | cons _ stops => exact stops.mono fun next => (Token.continuedBy_of_isWord isWord next).trans

/-- Lexemes that stand apart are what the scan finds in the text that they make up. -/
theorem Apart.scanned {lexemes : List Lexeme} (apart : Apart lexemes) :
    Scanned (written lexemes) (tokens lexemes) := by
  induction apart with
  | nil => exact scanned_nil
  | @cons lexeme later isStep stops _ inductionHypothesis =>
      obtain ⟨first, following, text, step⟩ := isStep
      intro position
      rw [written_cons, text, List.cons_append, Token.scanFrom, step position _ stops]
      simp only [bind, Except.bind, List.drop_left, inductionHypothesis _, tokens_cons]
      rfl

theorem Apart.eq_nil {lexemes : List Lexeme} (apart : Apart lexemes) (empty : written lexemes = []) :
    lexemes = [] := by
  cases apart with
  | nil => rfl
  | cons isStep =>
      obtain ⟨first, following, text, _⟩ := isStep
      rw [written_cons, text] at empty
      cases empty

/-- Lexemes may come after others that they do not go on with. -/
theorem Apart.append {before after : List Lexeme} (apartBefore : Apart before)
    (apartAfter : Apart after)
    (seam : ∀ lexeme ∈ before.getLast?, Stops (Token.continuedBy lexeme.token) (written after)) :
    Apart (before ++ after) := by
  induction apartBefore with
  | nil => exact apartAfter
  | @cons lexeme later isStep stops apartLater inductionHypothesis =>
      rw [List.cons_append]
      refine .cons isStep ?_ (inductionHypothesis ?_)
      · rw [written_append]
        refine Text.stops_append stops fun empty => ?_
        rw [apartLater.eq_nil empty] at seam
        exact seam lexeme rfl
      · intro last isLast
        exact seam last (List.mem_getLast?_cons isLast)

/-- What comes after a word in an expression does not go on with it. -/
theorem Apart.stops_of_isListed {lexemes : List Lexeme} (apart : Apart lexemes)
    (listed : ∀ next ∈ (tokens lexemes).head?, next.isListed = true) :
    Stops continuesIdentifier (written lexemes) := by
  have separators : Token.separators.all (fun character => !continuesIdentifier character) = true := by
    decide
  have marks : ∀ mark ∈ Token.marks, continuesIdentifier mark.1 = false := by decide
  have longMarks : ∀ mark ∈ Token.longMarks, continuesIdentifier mark.1 = false := by decide
  cases apart with
  | nil => exact Text.stops_nil
  | @cons lexeme later isStep stops _ =>
      obtain ⟨first, following, text, step⟩ := isStep
      have scans := Token.scans_of_scan (step 0 (written later) stops)
      rw [tokens_cons] at listed
      rw [written_cons, text, List.cons_append, Text.stops_cons]
      cases found : lexeme.token with
      | none =>
          rw [found] at scans
          simpa using List.all_eq_true.mp separators _ scans.of_none
      | some token =>
          rw [found] at scans listed
          rcases scans.of_isListed (listed token rfl) with ⟨isMark, _⟩ | ⟨_, _, isMark, _⟩
          · exact marks _ isMark
          · exact longMarks _ isMark

/-- A body is made up of lexemes that stand apart, if marks come after its words. -/
theorem exists_apart {tokens : List Token} (scanned : Token.scanFrom position text = .ok tokens)
    (chain : tokens.IsChain Token.MayFollow) :
    ∃ lexemes, Apart lexemes ∧ written lexemes = text ∧ Lexeme.tokens lexemes = tokens := by
  induction position, text using Token.scanFrom.induct generalizing tokens with
  | case1 position =>
      rw [Token.scanFrom] at scanned
      cases scanned
      exact ⟨[], .nil, rfl, rfl⟩
  | case2 position first following inductionHypothesis =>
      obtain ⟨token, count, others, step, later, rfl⟩ := Token.exists_of_scanFrom_cons scanned
      obtain ⟨lexemes, apart, writtenEq, rfl⟩ :=
        inductionHypothesis count later chain.right_of_append
      refine ⟨⟨first :: following.take count, token⟩ :: lexemes, .cons ?_ ?_ apart, ?_, ?_⟩
      · have bound := Token.le_of_scan step
        refine ⟨first, following.take count, rfl, fun other rest stops => ?_⟩
        rw [List.length_take_of_le bound]
        exact Token.scan_take step other stops
      · rw [writtenEq]
        cases token with
        | none => exact fun _ _ => rfl
        | some found =>
            cases isWord : found.isWord with
            | false =>
                refine (Token.scans_of_scan step).stops fun same isSame => ?_
                cases isSame
                exact isWord
            | true =>
                rw [Option.toList_some, List.singleton_append, List.isChain_cons] at chain
                have listed := apart.stops_of_isListed fun next isNext =>
                  chain.1 next isNext isWord
                rw [writtenEq] at listed
                exact listed.mono fun next =>
                  (Token.continuedBy_of_isWord isWord next).symm.trans
      · rw [written_cons, writtenEq, List.cons_append, List.take_append_drop]
      · cases token <;> rfl

/-! ## Accepted formulas -/

/-- An accepted body is made up of lexemes that stand apart, and their tokens derive its value. -/
theorem exists_apart_of_parse {body : Text} {value : Expr} (parsed : parse body = .ok value) :
    ∃ lexemes, Apart lexemes ∧ written lexemes = body ∧
      Derives (tokens lexemes) (.joined .comparison value) := by
  obtain ⟨scannedTokens, scanned, derives⟩ := derives_of_parse parsed
  have laid := derives.layout delimited_nil .nil
  rw [List.append_nil] at laid
  obtain ⟨lexemes, apart, writtenEq, rfl⟩ := exists_apart scanned laid.isChain
  exact ⟨lexemes, apart, writtenEq, derives⟩

end Lexeme

end SheetEditor.Formula
