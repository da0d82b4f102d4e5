import SheetEditor.Proofs.Formula.ErrorLiteral
import SheetEditor.Proofs.Formula.Lexeme
import SheetEditor.Proofs.Formula.References

/-!
Contract: the blanks and the sheet names around the references of a formula.

Owns: the formulas that are written so that a reference is in one piece, what each
class of tokens is spelled like, the first token of a text with the blanks before
it, and how a text goes on after an operand.

Does not own: which references a formula has (`SheetEditor.Proofs.Formula.References`).
-/

namespace SheetEditor.Formula

open Text (Stops)

variable {text following : Text} {first : Char} {count : Nat} {lexemes : List Lexeme}

/-! ## References in one piece -/

/-- Whether a token is a cell. -/
def Token.isCell : Token → Bool
  | .cell .. => true
  | _ => false

namespace Lexeme

/-- Whether blanks come next. -/
def hasGap (later : List Lexeme) : Bool := later.head?.any fun next => next.token.isNone

/-- Whether the next token, blanks aside, is a cell. -/
def comesToCell (later : List Lexeme) : Bool := (tokens later).head?.any Token.isCell

/-- Whether the next token, blanks aside, is a colon. -/
def comesToColon (later : List Lexeme) : Bool := (tokens later).head? = some .colon

/-- Whether a lexeme leaves the reference that it may be part of in one piece. A sheet name is not
empty. Before a cell it stands right in front, and in quotes if it has a dollar sign in it. No
blanks stand between a cell and a colon. -/
def keepsTogether (lexeme : Lexeme) (later : List Lexeme) : Bool :=
  match lexeme.token with
  | some (.qualifier sheet) =>
      sheet ≠ [] && (!comesToCell later || (!hasGap later &&
        (lexeme.text.head? = some SheetName.quote || !sheet.contains '$')))
  | some (.cell ..) => !(hasGap later && comesToColon later)
  | some .colon => !(hasGap later && comesToCell later)
  | _ => true

/-- Whether all references are in one piece. -/
def isTidy : List Lexeme → Bool
  | [] => true
  | lexeme :: later => lexeme.keepsTogether later && isTidy later

end Lexeme

theorem isBlank_of_mem_separators (listed : first ∈ Token.separators) :
    isBlank first = true := by
  have all : Token.separators.all isBlank = true := by decide
  exact List.all_eq_true.mp all first listed

/-! ## The spelling of a token -/

namespace Token

/-- Whether a token is spelled by one of the listed marks. -/
def isListed (token : Token) : Bool := token.isMark || token = .colon

theorem isListed_of_isMark {token : Token} (isMark : token.isMark = true) :
    token.isListed = true := by
  rw [isListed, isMark, Bool.true_or]

theorem isListed_of_mem_marks {token : Token} (listed : (first, token) ∈ marks) :
    token.isListed = true := by
  have all : ∀ mark ∈ marks, mark.2.isListed = true := by decide
  exact all _ listed

theorem isListed_of_mem_longMarks {second : Char} {token : Token}
    (listed : (first, second, token) ∈ longMarks) : token.isListed = true := by
  have all : ∀ mark ∈ longMarks, mark.2.2.isListed = true := by decide
  exact all _ listed

/-- Whether a token is spelled like an identifier. -/
def isNamed : Token → Bool
  | .cell .. | .identifier _ => true
  | _ => false

theorem isNamed_of_ofIdentifier {identifier : Text} {token : Token}
    (found : ofIdentifier identifier = .ok token) : token.isNamed = true := by
  rcases ofIdentifier_cases found with ⟨_, _, _, _, rfl⟩ | ⟨_, _, rfl⟩ <;> rfl

theorem isListed_eq_false_of_isNamed {token : Token} (named : token.isNamed = true) :
    token.isListed = false := by
  cases token <;> first | rfl | cases named

theorem delimits_eq_false_of_isNamed {token : Token} (named : token.isNamed = true) :
    token.delimits = false := by
  cases token <;> first | rfl | cases named

/-- A listed token is one mark or two of them. -/
theorem Scans.of_isListed {token : Token} (scans : Scans first following (some token) count)
    (listed : token.isListed = true) :
    ((first, token) ∈ marks ∧ count = 0 ∧
        ∀ second long, (first, second, long) ∈ longMarks → following.head? ≠ some second) ∨
      ∃ second rest,
        (first, second, token) ∈ longMarks ∧ following = second :: rest ∧ count = 1 := by
  cases scans with
  | mark isMark short => exact .inl ⟨isMark, rfl, short⟩
  | longMark isMark => exact .inr ⟨_, _, isMark, rfl, rfl⟩
  | error | text | quotedName | number | plainName => cases listed
  | identifier _ _ found =>
      rw [isListed_eq_false_of_isNamed (isNamed_of_ofIdentifier found)] at listed
      cases listed

/-- The mark of a listed token that is always a single character. -/
theorem Scans.of_single {token : Token} (scans : Scans first following (some token) count)
    (character : Char) (listed : token.isListed = true)
    (only : ∀ mark ∈ marks, mark.2 = token → mark.1 = character)
    (short : ∀ mark ∈ longMarks, mark.2.2 ≠ token) : first = character ∧ count = 0 := by
  rcases scans.of_isListed listed with ⟨isMark, single, _⟩ | ⟨second, rest, isMark, _⟩
  · exact ⟨only _ isMark rfl, single⟩
  · exact absurd rfl (short _ isMark)

/-- A number that begins with no letter and no sign is a decimal. -/
theorem exists_decimal {value : Binary64} (begins : first.isDigit = true ∨ first = '.')
    (read : Binary64.read? (first :: text) = some value) :
    ∃ decimal, Decimal.read? (first :: text) = some decimal := by
  obtain ⟨same, notMinus, notPlus, notLetter⟩ : first.toUpper = first ∧ first ≠ '-' ∧ first ≠ '+' ∧
      first.isAlpha = false := by
    rcases begins with isDigit | rfl
    · have notLetter := not_isAlpha_of_isDigit isDigit
      refine ⟨?_, ?_, ?_, notLetter⟩
      · by_contra changed
        rw [(isAlpha_of_toUpper_ne changed).1] at notLetter
        cases notLetter
      · rintro rfl
        cases isDigit
      · rintro rfl
        cases isDigit
    · decide
  have unsigned : Decimal.splitSign (first :: text) = (false, first :: text) := by
    simp [Decimal.splitSign, notMinus, notPlus]
  have noWord : Binary64.wordPattern? (first :: text) = none := by
    have notLetterI : first ≠ 'I' := by
      rintro rfl
      cases notLetter
    have notLetterN : first ≠ 'N' := by
      rintro rfl
      cases notLetter
    simp [Binary64.wordPattern?, Text.upper, same, notLetterI, notLetterN]
  rw [Binary64.read?, unsigned] at read
  dsimp only at read
  rw [noWord] at read
  obtain ⟨decimal, found, _⟩ := Option.map_eq_some_iff.mp read
  exact ⟨decimal, found⟩

theorem Scans.of_number {value : Binary64}
    (scans : Scans first following (some (.number value)) count) :
    ∃ decimal, Decimal.read? (first :: following.take count) = some decimal := by
  cases scans with
  | mark listed => cases isListed_of_mem_marks listed
  | longMark listed => cases isListed_of_mem_longMarks listed
  | number begins _ read => exact exists_decimal begins read
  | identifier _ _ found => cases isNamed_of_ofIdentifier found

theorem Scans.of_cell {address : CellAddress} {columnAbsolute rowAbsolute : Bool}
    (scans : Scans first following (some (.cell address columnAbsolute rowAbsolute)) count) :
    ∃ cell, WrittenCell.read? (first :: following.take count) = some (cell, []) ∧
      cell.address? = some address := by
  cases scans with
  | mark listed => cases isListed_of_mem_marks listed
  | longMark listed => cases isListed_of_mem_longMarks listed
  | identifier _ _ found =>
      rcases ofIdentifier_cases found with ⟨cell, other, read, inSheet, isCell⟩ | ⟨_, _, isName⟩
      · cases isCell
        exact ⟨cell, read, inSheet⟩
      · cases isName

theorem Scans.of_identifier {name : Text}
    (scans : Scans first following (some (.identifier name)) count) :
    beginsIdentifier first = true ∧
      (∀ character ∈ following.take count, inIdentifier character = true) ∧
      name = Text.upper (first :: following.take count) ∧
      (∀ cell, WrittenCell.read? (first :: following.take count) = some (cell, []) →
        cell.address? = none) ∧
      ('$' ∈ first :: following.take count →
        (Column.number? ((first :: following.take count).dropWhile (· = '$'))).isSome = true) := by
  cases scans with
  | mark listed => cases isListed_of_mem_marks listed
  | longMark listed => cases isListed_of_mem_longMarks listed
  | identifier begins inside found =>
      rcases ofIdentifier_cases found with
        ⟨cell, other, read, inSheet, isCell⟩ | ⟨noCell, marked, isName⟩
      · cases isCell
      · cases isName
        exact ⟨begins, inside, rfl, noCell, marked⟩

theorem Scans.of_text {content : Text}
    (scans : Scans first following (some (.text content)) count) :
    first = '"' ∧ Text.readQuoted? '"' following = some (content, count) := by
  cases scans with
  | mark listed => cases isListed_of_mem_marks listed
  | longMark listed => cases isListed_of_mem_longMarks listed
  | text read => exact ⟨rfl, read⟩
  | identifier _ _ found => cases isNamed_of_ofIdentifier found

theorem Scans.of_error {literal : ErrorLiteral}
    (scans : Scans first following (some (.error literal)) count) :
    first = '#' ∧ ErrorLiteral.startOf? ('#' :: following) = some literal ∧
      count = literal.spelling.length - 1 := by
  cases scans with
  | mark listed => cases isListed_of_mem_marks listed
  | longMark listed => cases isListed_of_mem_longMarks listed
  | error found => exact ⟨rfl, found, rfl⟩
  | identifier _ _ found => cases isNamed_of_ofIdentifier found

/-- A sheet name stands in quotes or is written like an identifier. -/
theorem Scans.of_qualifier {sheet : Text}
    (scans : Scans first following (some (.qualifier sheet)) count) :
    (∃ rest, first :: following = SheetName.quote ::
        (Text.doubleQuotes SheetName.quote sheet ++ [SheetName.quote, '!']) ++ rest ∧
      following.drop count = rest) ∨
    (∃ rest, first :: following = sheet ++ '!' :: rest ∧ following.drop count = rest ∧
      ∃ others, sheet = first :: others ∧ beginsIdentifier first = true ∧
        ∀ character ∈ others, inIdentifier character = true) := by
  cases scans with
  | mark listed => cases isListed_of_mem_marks listed
  | longMark listed => cases isListed_of_mem_longMarks listed
  | @quotedName _ _ rest _ read marked =>
      left
      obtain ⟨rfl, after, rfl, _⟩ := Text.readQuoted?_eq_some_iff.mp read
      rw [List.drop_length_add_append, List.drop_succ_cons, List.drop_zero] at marked
      subst marked
      refine ⟨rest, by simp, ?_⟩
      rw [Nat.add_assoc, List.drop_length_add_append]
      rfl
  | @plainName _ _ rest count begins inside marked =>
      right
      refine ⟨rest, ?_, ?_, _, rfl, begins, inside⟩
      · rw [← marked, List.cons_append, List.take_append_drop]
      · rw [← List.drop_drop, marked]
        rfl
  | identifier _ _ found => cases isNamed_of_ofIdentifier found

end Token

/-! ## Columns -/

theorem lettered_of_number? {column : Nat}
    (found : Column.number? (text.dropWhile (· = '$')) = some column) :
    ∀ character ∈ text, character.isAlpha = true ∨ character = '$' := by
  have letters : (text.dropWhile (· = '$')).all Char.isAlpha = true := by
    unfold Column.number? at found
    split at found
    · cases found
    · next written =>
        rw [Bool.not_eq_true, Bool.or_eq_false_iff, Bool.not_eq_false'] at written
        exact written.2
  intro character member
  rw [← List.takeWhile_append_dropWhile (p := (· = '$')) (l := text), List.mem_append] at member
  rcases member with isMarker | isLetter
  · have marked := List.mem_takeWhile_imp isMarker
    exact .inr (of_decide_eq_true marked)
  · exact .inl (List.all_eq_true.mp letters character isLetter)

theorem lettered_of_upper
    (lettered : ∀ character ∈ text.upper, character.isAlpha = true ∨ character = '$') :
    ∀ character ∈ text, character.isAlpha = true ∨ character = '$' := by
  intro character member
  have upper := lettered character.toUpper (List.mem_map_of_mem member)
  by_cases same : character.toUpper = character
  · rwa [same] at upper
  · exact .inl (isAlpha_of_toUpper_ne same).1

/-! ## The first token of a text -/

/-- What stands at the start of a text with tokens: blanks, and the first token. -/
theorem Cuts.firstToken {token : Token} {tokens : List Token} (cuts : Cuts text lexemes)
    (tokensEq : Lexeme.tokens lexemes = token :: tokens) (tidy : Lexeme.isTidy lexemes = true) :
    ∃ blanks first following count later,
      text = blanks ++ first :: following ∧ (∀ blank ∈ blanks, isBlank blank = true) ∧
        (blanks ≠ [] → Lexeme.hasGap lexemes = true) ∧
        Token.Scans first following (some token) count ∧ Cuts (following.drop count) later ∧
        Lexeme.tokens later = tokens ∧ Lexeme.isTidy later = true ∧
        (⟨first :: following.take count, some token⟩ : Lexeme).keepsTogether later = true := by
  induction cuts with
  | nil => cases tokensEq
  | @cons first following found count later scans cuts inductionHypothesis =>
      rw [Lexeme.isTidy, Bool.and_eq_true] at tidy
      rw [Lexeme.tokens_cons] at tokensEq
      cases found with
      | some found =>
          cases tokensEq
          exact ⟨[], first, following, count, later, rfl, by simp, by simp, scans, cuts, rfl,
            tidy.2, tidy.1⟩
      | none =>
          obtain ⟨blanks, next, others, length, last, textEq, isBlanks, _, nextScans, lastCuts,
            lastTokens, lastTidy, together⟩ := inductionHypothesis tokensEq tidy.2
          cases scans with
          | blank listed =>
              refine ⟨first :: blanks, next, others, length, last, ?_, ?_, fun _ => rfl, nextScans,
                lastCuts, lastTokens, lastTidy, together⟩
              · exact congrArg (first :: ·) textEq
              · exact List.forall_mem_cons.mpr ⟨isBlank_of_mem_separators listed, isBlanks⟩

/-- A word that a step reads as a token, whatever follows it. -/
def Spells (word : Text) (token : Token) : Prop :=
  ∃ first following count, Token.Scans first following (some token) count ∧
    word = first :: following.take count

/-- Two tokens around a colon. Next to a cell there are no blanks. -/
theorem Cuts.aroundColon {start stop : Token} {tokens : List Token} (cuts : Cuts text lexemes)
    (tokensEq : Lexeme.tokens lexemes = start :: .colon :: stop :: tokens)
    (tidy : Lexeme.isTidy lexemes = true) :
    ∃ blanks startWord before behind stopWord after later,
      text = blanks ++ (startWord ++ (before ++ ':' :: (behind ++ (stopWord ++ after)))) ∧
        (∀ blank ∈ blanks, isBlank blank = true) ∧ (∀ blank ∈ before, isBlank blank = true) ∧
        (∀ blank ∈ behind, isBlank blank = true) ∧
        (blanks ≠ [] → Lexeme.hasGap lexemes = true) ∧
        (start.isCell = true → before = []) ∧ (stop.isCell = true → behind = []) ∧
        Spells startWord start ∧ Spells stopWord stop ∧ Cuts after later ∧
        Lexeme.tokens later = tokens ∧ Lexeme.isTidy later = true := by
  obtain ⟨blanks, first, following, count, afterStart, rfl, isBlanks, gap, startScans, startCuts,
    startTokens, startTidy, startTogether⟩ := cuts.firstToken tokensEq tidy
  obtain ⟨before, mark, afterMark, markCount, afterColon, startText, isBefore, gapBefore,
    colonScans, colonCuts, colonTokens, colonTidy, colonTogether⟩ :=
    startCuts.firstToken startTokens startTidy
  obtain ⟨rfl, rfl⟩ := colonScans.of_single ':' rfl (by decide) (by decide)
  obtain ⟨behind, last, others, stopCount, afterStop, colonText, isBehind, gapBehind, stopScans,
    stopCuts, stopTokens, stopTidy, _⟩ := colonCuts.firstToken colonTokens colonTidy
  refine ⟨blanks, first :: following.take count, before, behind, last :: others.take stopCount,
    others.drop stopCount, afterStop, ?_, isBlanks, isBefore, isBehind, gap, ?_, ?_,
    ⟨_, _, _, startScans, rfl⟩, ⟨_, _, _, stopScans, rfl⟩, stopCuts, stopTokens, stopTidy⟩
  · have stopWhole : last :: others.take stopCount ++ others.drop stopCount = last :: others := by
      rw [List.cons_append, List.take_append_drop]
    rw [stopWhole, ← colonText, List.drop_zero, ← startText, List.cons_append,
      List.take_append_drop]
  · intro isCell
    by_contra blank
    cases start <;> cases isCell
    simp [Lexeme.keepsTogether, gapBefore blank, Lexeme.comesToColon, startTokens] at startTogether
  · intro isCell
    by_contra blank
    simp [Lexeme.keepsTogether, gapBehind blank, Lexeme.comesToCell, colonTokens, isCell]
      at colonTogether

/-- A text without tokens is blank. -/
theorem Cuts.isBlank (cuts : Cuts text lexemes) (tokensEq : Lexeme.tokens lexemes = []) :
    ∀ character ∈ text, SheetEditor.isBlank character = true := by
  induction cuts with
  | nil => simp
  | @cons first following found count later scans cuts inductionHypothesis =>
      rw [Lexeme.tokens_cons, List.append_eq_nil_iff] at tokensEq
      cases scans with
      | blank listed =>
          exact List.forall_mem_cons.mpr
            ⟨isBlank_of_mem_separators listed, inductionHypothesis tokensEq.2⟩
      | mark | longMark | error | text | quotedName | number | plainName | identifier =>
          cases tokensEq.1

/-! ## After an operand -/

/-- The characters that can come right after an operand. -/
def delimiters : List Char :=
  Token.separators ++ ['+', '-', '*', '/', '^', '&', '=', '<', '>', '%', ')', '}', ',', ';']

theorem Cuts.delimited (cuts : Cuts text lexemes) (delimited : Delimited (Lexeme.tokens lexemes)) :
    ∀ next ∈ text.head?, next ∈ delimiters := by
  cases cuts with
  | nil => simp
  | @cons first following found count later scans cuts =>
      rintro next ⟨⟩
      rw [Lexeme.tokens_cons] at delimited
      cases scans with
      | blank listed => exact List.mem_append_left _ listed
      | @mark _ _ token listed short =>
          have all : ∀ mark ∈ Token.marks, mark.2.delimits = true → mark.1 ∈ delimiters := by decide
          exact all _ listed (delimited token rfl)
      | @longMark _ second rest token listed =>
          have all : ∀ mark ∈ Token.longMarks, mark.1 ∈ delimiters := by decide
          exact all _ listed
      | error | text | quotedName | number | plainName => cases delimited _ rfl
      | @identifier _ _ token _ begins inside named =>
          have delimits := delimited token rfl
          rw [Token.delimits_eq_false_of_isNamed (Token.isNamed_of_ofIdentifier named)] at delimits
          cases delimits

end SheetEditor.Formula
