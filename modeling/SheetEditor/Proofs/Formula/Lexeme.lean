import SheetEditor.Formula.Token
import SheetEditor.Proofs.Numeric.Numeral

/-!
Contract: how the tokens of a formula are spelled.

Owns: everything that a step of the strict scan can do, the lexemes into which a
body is cut, and the place of a token among them.

A lexeme is the text of one step, with the token that it yields. Blanks are
lexemes without a token, so the lexemes put together are the body.
-/

namespace SheetEditor.Formula

namespace Token

/-! ## One step -/

/-- The characters that only separate tokens. -/
def separators : List Char := [' ', '\t', '\n', '\r']

/-- The tokens of a single character other than those of names and numbers. -/
def marks : List (Char × Token) :=
  [('+', .operator .add), ('-', .operator .subtract), ('*', .operator .multiply),
    ('/', .operator .divide), ('^', .operator .power), ('%', .percent),
    ('&', .operator .concatenate), ('(', .openParenthesis), (')', .closeParenthesis),
    ('{', .openBrace), ('}', .closeBrace), (':', .colon), (',', .comma), (';', .semicolon),
    ('=', .operator .equal), ('<', .operator .less), ('>', .operator .greater)]

/-- The operators of two characters. -/
def longMarks : List (Char × Char × Token) :=
  [('<', '=', .operator .lessEqual), ('<', '>', .operator .notEqual),
    ('>', '=', .operator .greaterEqual)]

/-- Whether an identifier can begin with a character. -/
def beginsIdentifier (character : Char) : Bool :=
  character.isAlpha || character = '_' || character = '$'

/-- Whether an identifier can have a character in it. -/
def inIdentifier (character : Char) : Bool :=
  character.isAlphanum || ['_', '$', '.'].contains character

/-- What a step at the first character of a text can find: a token, if there is one, and the number
of further characters that belong to it. -/
inductive Scans : Char → Text → Option Token → Nat → Prop where
  | blank {separator : Char} {following : Text} (listed : separator ∈ separators) :
      Scans separator following none 0
  | mark {first : Char} {following : Text} {token : Token} (listed : (first, token) ∈ marks)
      (short : ∀ second long, (first, second, long) ∈ longMarks → following.head? ≠ some second) :
      Scans first following (some token) 0
  | longMark {first second : Char} {rest : Text} {token : Token}
      (listed : (first, second, token) ∈ longMarks) :
      Scans first (second :: rest) (some token) 1
  | error {following : Text} {literal : ErrorLiteral}
      (found : ErrorLiteral.startOf? ('#' :: following) = some literal) :
      Scans '#' following (some (.error literal)) (literal.spelling.length - 1)
  | text {following content : Text} {count : Nat}
      (read : Text.readQuoted? '"' following = some (content, count)) :
      Scans '"' following (some (.text content)) count
  | quotedName {following name rest : Text} {count : Nat}
      (read : Text.readQuoted? SheetName.quote following = some (name, count))
      (marked : following.drop count = '!' :: rest) :
      Scans SheetName.quote following (some (.qualifier name)) (count + 1)
  | number {first : Char} {following : Text} {value : Binary64} {count : Nat}
      (begins : first.isDigit = true ∨ first = '.')
      (inside : ∀ character ∈ following.take count, Decimal.inNumeral character = true)
      (read : Binary64.read? (first :: following.take count) = some value) :
      Scans first following (some (.number value)) count
  | plainName {first : Char} {following rest : Text} {count : Nat}
      (begins : beginsIdentifier first = true)
      (inside : ∀ character ∈ following.take count, inIdentifier character = true)
      (marked : following.drop count = '!' :: rest) :
      Scans first following (some (.qualifier (first :: following.take count))) (count + 1)
  | identifier {first : Char} {following : Text} {token : Token} {count : Nat}
      (begins : beginsIdentifier first = true)
      (inside : ∀ character ∈ following.take count, inIdentifier character = true)
      (found : ofIdentifier (first :: following.take count) = .ok token) :
      Scans first following (some token) count

variable {first : Char} {following : Text} {position count : Nat} {token : Option Token}

theorem inIdentifier_of_mem (beforePoint : Bool) (text : Text) :
    ∀ character ∈ text.take (identifierLength beforePoint text), inIdentifier character = true := by
  fun_induction identifierLength beforePoint text with
  | case1 => simp
  | case2 beforePoint character rest continues inductionHypothesis =>
      simp only [List.take_succ_cons, List.forall_mem_cons]
      refine ⟨?_, inductionHypothesis⟩
      simp only [Bool.or_eq_true, Bool.and_eq_true, decide_eq_true_eq] at continues
      rcases continues with (isAlphanum | rfl) | ⟨_, rfl⟩
      · simp [inIdentifier, isAlphanum]
      · rfl
      · rfl
  | case3 beforePoint character rest _ continues inductionHypothesis =>
      simp only [List.take_succ_cons, List.forall_mem_cons]
      refine ⟨?_, inductionHypothesis⟩
      simp only [Bool.and_eq_true, decide_eq_true_eq] at continues
      rw [continues.1]
      rfl
  | case4 => simp

theorem scans_of_scanNumber (begins : first.isDigit = true ∨ first = '.')
    (found : scanNumber first following = .ok (token, count)) : Scans first following token count := by
  unfold scanNumber at found
  dsimp only at found
  split at found
  · next value read =>
      cases found
      refine .number begins ?_ read
      rw [List.take_add]
      intro character member
      rcases List.mem_append.mp member with inDigits | inExponent
      · rw [← List.prefix_iff_eq_take.mp (List.takeWhile_prefix _)] at inDigits
        have isDigit := List.mem_takeWhile_imp inDigits
        simp only [Bool.or_eq_true, decide_eq_true_eq] at isDigit
        rcases isDigit with isDigit | rfl
        · exact Decimal.inNumeral_of_isDigit isDigit
        · rfl
      · exact Decimal.inNumeral_of_mem_exponent _ character inExponent
  · cases found

theorem scans_of_scanIdentifier (begins : beginsIdentifier first = true)
    (found : scanIdentifier first following = .ok (token, count)) :
    Scans first following token count := by
  unfold scanIdentifier at found
  dsimp only at found
  split at found
  · next rest marked =>
      cases found
      exact .plainName begins (inIdentifier_of_mem true following) marked
  · cases named : ofIdentifier (first :: following.take (identifierLength true following)) with
    | error failure =>
        rw [named] at found
        cases found
    | ok token =>
        rw [named] at found
        cases found
        exact .identifier begins (inIdentifier_of_mem true following) named

theorem scans_of_scanLess (found : scanLess following = .ok (token, count)) :
    Scans '<' following token count := by
  unfold scanLess at found
  split at found
  · cases found
    exact .longMark (by decide)
  · cases found
    exact .longMark (by decide)
  · next notEqual notGreater =>
      cases found
      refine .mark (by decide) fun second long listed isNext => ?_
      obtain ⟨rest, rfl⟩ := List.head?_eq_some_iff.mp isNext
      simp [longMarks] at listed
      rcases listed with ⟨rfl, _⟩ | ⟨rfl, _⟩
      · exact notEqual rest rfl
      · exact notGreater rest rfl

theorem scans_of_scanGreater (found : scanGreater following = .ok (token, count)) :
    Scans '>' following token count := by
  unfold scanGreater at found
  split at found
  · cases found
    exact .longMark (by decide)
  · next notEqual =>
      cases found
      refine .mark (by decide) fun second long listed isNext => ?_
      obtain ⟨rest, rfl⟩ := List.head?_eq_some_iff.mp isNext
      simp [longMarks] at listed
      exact notEqual rest (by rw [listed.1])

theorem scans_of_scanError (found : scanError position '#' following = .ok (token, count)) :
    Scans '#' following token count := by
  unfold scanError at found
  split at found
  · next literal startOf =>
      cases found
      exact .error startOf
  · cases found

theorem scans_of_scanString (found : scanString position following = .ok (token, count)) :
    Scans '"' following token count := by
  unfold scanString at found
  split at found
  · next content count read =>
      cases found
      exact .text read
  · cases found

theorem scans_of_scanQuotedName (found : scanQuotedName position following = .ok (token, count)) :
    Scans SheetName.quote following token count := by
  unfold scanQuotedName at found
  split at found
  · next name count read =>
      split at found
      · next rest marked =>
          cases found
          exact .quotedName read marked
      · cases found
      · cases found
  · cases found

/-- A step finds nothing else. -/
theorem scans_of_scan (found : scan position first following = .ok (token, count)) :
    Scans first following token count := by
  unfold scan at found
  -- One case for each character that a step looks for, and one for all other characters.
  split at found
  case h_1 | h_2 | h_3 | h_4 =>
    cases found
    exact .blank (by decide)
  case h_20 => exact scans_of_scanLess found
  case h_21 => exact scans_of_scanGreater found
  case h_22 => exact scans_of_scanError found
  case h_23 => exact scans_of_scanString found
  case h_24 => exact scans_of_scanQuotedName found
  case h_25 =>
    split at found
    · next begins => exact scans_of_scanNumber (by simpa using begins) found
    · split at found
      · next begins => exact scans_of_scanIdentifier begins found
      · cases found
  all_goals
    cases found
    exact .mark (by decide) (by simp [longMarks])

/-- An identifier is a cell of the sheet, or a name. A dollar sign in a name stands before a
column. -/
theorem ofIdentifier_cases {identifier : Text} {token : Token}
    (found : ofIdentifier identifier = .ok token) :
    (∃ cell address, WrittenCell.read? identifier = some (cell, []) ∧
        cell.address? = some address ∧ token = .cell address cell.columnAbsolute cell.rowAbsolute) ∨
      (∀ cell, WrittenCell.read? identifier = some (cell, []) → cell.address? = none) ∧
        ('$' ∈ identifier → (Column.number? (identifier.dropWhile (· = '$'))).isSome = true) ∧
        token = .identifier identifier.upper := by
  unfold ofIdentifier at found
  dsimp only at found
  split at found
  · next isCell =>
      left
      obtain ⟨⟨cell, rest⟩, read, isCell⟩ := Option.bind_eq_some_iff.mp isCell
      obtain ⟨address, inSheet, isCell⟩ := Option.bind_eq_some_iff.mp isCell
      dsimp only at isCell
      split at isCell
      · next isWhole =>
          cases isCell
          cases found
          exact ⟨cell, address, isWhole ▸ read, inSheet, rfl⟩
      · cases isCell
  · next noCell =>
      right
      split at found
      · cases found
      · next marks =>
          cases found
          refine ⟨fun cell read => ?_, fun member => ?_, rfl⟩
          · by_contra inSheet
            obtain ⟨address, inSheet⟩ := Option.ne_none_iff_exists'.mp inSheet
            simp [read, inSheet] at noCell
          · by_contra noColumn
            apply marks
            rw [Bool.and_eq_true, List.contains_iff_mem]
            exact ⟨member, by simpa using noColumn⟩

/-- The tokens of a text are what its first step yields and those of what follows that. -/
theorem exists_of_scanFrom_cons {tokens : List Token}
    (scanned : scanFrom position (first :: following) = .ok tokens) :
    ∃ token count others, scan position first following = .ok (token, count) ∧
      scanFrom (position + 1 + count) (following.drop count) = .ok others ∧
      tokens = token.toList ++ others := by
  rw [scanFrom] at scanned
  cases step : scan position first following with
  | error failure =>
      rw [step] at scanned
      cases scanned
  | ok found =>
      obtain ⟨token, count⟩ := found
      rw [step] at scanned
      cases later : scanFrom (position + 1 + count) (following.drop count) with
      | error failure => simp [later, bind, Except.bind] at scanned
      | ok others =>
          simp only [later, bind, Except.bind, pure, Except.pure, Except.ok.injEq] at scanned
          exact ⟨token, count, others, rfl, later, scanned.symm⟩

end Token

/-! ## All steps -/

/-- The text of one step, with the token that it yields, if it yields one. -/
structure Lexeme where
  text : Text
  token : Option Token
deriving DecidableEq, Repr

namespace Lexeme

/-- The lexemes of a text that begins at a position of the body. -/
def scanFrom (position : Nat) : Text → Except ParseError (List Lexeme)
  | [] => .ok []
  | first :: following => do
      let (token, count) ← Token.scan position first following
      let rest ← scanFrom (position + 1 + count) (following.drop count)
      return ⟨first :: following.take count, token⟩ :: rest
termination_by text => text.length
decreasing_by
  simp only [List.length_drop, List.length_cons]
  omega

def scanAll (body : Text) : Except ParseError (List Lexeme) := scanFrom 0 body

def tokens (lexemes : List Lexeme) : List Token := lexemes.filterMap Lexeme.token

theorem tokens_cons (lexeme : Lexeme) (lexemes : List Lexeme) :
    tokens (lexeme :: lexemes) = lexeme.token.toList ++ tokens lexemes := by
  obtain ⟨text, token⟩ := lexeme
  cases token <;> rfl

end Lexeme

/-- The lexemes into which steps of the scan cut a text. -/
inductive Cuts : Text → List Lexeme → Prop where
  | nil : Cuts [] []
  | cons {first : Char} {following : Text} {token : Option Token} {count : Nat}
      {lexemes : List Lexeme} (scans : Token.Scans first following token count)
      (rest : Cuts (following.drop count) lexemes) :
      Cuts (first :: following) (⟨first :: following.take count, token⟩ :: lexemes)

/-- A text with tokens is cut into lexemes with these tokens. -/
theorem exists_lexemes {position : Nat} {text : Text} {tokens : List Token}
    (scanned : Token.scanFrom position text = .ok tokens) :
    ∃ lexemes, Lexeme.scanFrom position text = .ok lexemes ∧ Cuts text lexemes ∧
      Lexeme.tokens lexemes = tokens := by
  induction position, text using Token.scanFrom.induct generalizing tokens with
  | case1 position =>
      rw [Token.scanFrom] at scanned
      cases scanned
      exact ⟨[], by rw [Lexeme.scanFrom], .nil, rfl⟩
  | case2 position first following inductionHypothesis =>
      obtain ⟨token, count, others, step, later, rfl⟩ := Token.exists_of_scanFrom_cons scanned
      obtain ⟨lexemes, lexed, cuts, rfl⟩ := inductionHypothesis count later
      refine ⟨⟨first :: following.take count, token⟩ :: lexemes, ?_,
        .cons (Token.scans_of_scan step) cuts, ?_⟩
      · rw [Lexeme.scanFrom, step]
        simp only [lexed, bind, Except.bind, pure, Except.pure]
      · cases token <;> rfl

end SheetEditor.Formula
