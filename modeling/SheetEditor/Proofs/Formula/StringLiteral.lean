import SheetEditor.Proofs.Draft.Scan
import SheetEditor.Proofs.Formula.Chain
import SheetEditor.Proofs.Formula.Spacing

/-!
Contract: strings in formulas read back as what they were written for.

Owns: the literal of a text, its one token in a draft and in a formula, and that no other formula
with quotes at both ends has a text as its value.

Does not own: quoted text with more text after it (`SheetEditor.Proofs.Text.Run`).
-/

namespace SheetEditor

/-- A text as a string of a formula: in double quotes, with those inside written twice. -/
def Text.stringLiteral (content : Text) : Text := '"' :: (doubleQuotes '"' content ++ ['"'])

/-! ## Literals -/

theorem Text.readQuoted?_stringLiteral (content : Text) :
    readQuoted? '"' (doubleQuotes '"' content ++ ['"']) =
      some (content, (doubleQuotes '"' content ++ ['"']).length) := by
  rw [readQuoted?_closed content stops_nil, List.length_append]
  rfl

/-- In a draft the literal is a single token. -/
theorem Draft.Token.scanAll_stringLiteral (content : Text) :
    scanAll content.stringLiteral = [⟨.string, content.stringLiteral, 0⟩] := by
  rw [scanAll, Text.stringLiteral, scanFrom_cons, classify_quote, Text.readQuoted?_stringLiteral]
  simp [scanFrom_nil]

namespace Formula

variable {tokens : List Token}

theorem Token.scanAll_stringLiteral (content : Text) :
    scanAll content.stringLiteral = .ok [.text content] := by
  have step : scan 0 '"' (Text.doubleQuotes '"' content ++ ['"']) =
      .ok (some (.text content), (Text.doubleQuotes '"' content ++ ['"']).length) := by
    change scanString 0 _ = _
    rw [scanString, Text.readQuoted?_stringLiteral]
  rw [scanAll, Text.stringLiteral, scanFrom, step]
  simp only [bind, Except.bind, List.drop_length]
  rw [scanFrom]
  rfl

/-! ## Formulas that begin with a string -/

/-- The value of a phrase, if the phrase is an expression. -/
def Phrase.value? : Phrase → Option Expr
  | .joined _ value | .signed value | .marked value | .single value => some value
  | .argument _ | .arguments _ | .rows _ => none

theorem Phrase.value?_operandPhrase (level : Binding) (value : Expr) :
    (operandPhrase level value).value? = some value := by
  cases level <;> rfl

/-- Of the expressions whose value is a text, those with more than one token begin with a plus sign or
a parenthesis. -/
theorem Derives.eq_text {phrase : Phrase} {content first : Text} (derives : Derives tokens phrase)
    (isText : phrase.value? = some (.text content)) (begins : tokens.head? = some (.text first)) :
    tokens = [.text content] := by
  induction derives with
  | alone _ inductionHypothesis =>
      rw [Phrase.value?] at isText
      exact inductionHypothesis (by rw [Phrase.value?_operandPhrase, isText]) begins
  | unsigned _ inductionHypothesis | unmarked _ inductionHypothesis =>
      exact inductionHypothesis isText begins
  | text content =>
      cases isText
      rfl
  | reference refers | qualified refers => cases refers <;> cases isText
  | plus | group => cases begins
  | _ => cases isText

/-- The tokens of a body that begins with a quote: the string up to the quote that closes it, and those
of what follows it. -/
theorem exists_string_of_scanAll {following : Text}
    (scanned : Token.scanAll ('"' :: following) = .ok tokens) :
    ∃ content rest others, '"' :: following = content.stringLiteral ++ rest ∧
      tokens = .text content :: others ∧
        ∃ lexemes, Cuts rest lexemes ∧ Lexeme.tokens lexemes = others := by
  obtain ⟨token, count, others, step, later, rfl⟩ := Token.exists_of_scanFrom_cons scanned
  change Token.scanString 0 following = .ok (token, count) at step
  rw [Token.scanString] at step
  split at step
  · next content length read =>
      cases step
      obtain ⟨rfl, rest, rfl, _⟩ := Text.readQuoted?_eq_some_iff.mp read
      rw [List.drop_length_add_append] at later
      obtain ⟨lexemes, _, cuts, tokensEq⟩ := exists_lexemes later
      exact ⟨content, rest, others, by simp [Text.stringLiteral], rfl, lexemes, cuts, tokensEq⟩
  · cases step

/-- A body whose value is a text is its literal, if there are quotes at both ends. -/
theorem eq_stringLiteral_of_parse {body content : Text} (parsed : parse body = .ok (.text content))
    (opened : body.head? = some '"') (closed : body.getLast? = some '"') :
    body = content.stringLiteral := by
  obtain ⟨following, rfl⟩ := List.head?_eq_some_iff.mp opened
  obtain ⟨tokens, scanned, derives⟩ := derives_of_parse parsed
  obtain ⟨first, rest, others, bodyEq, rfl, lexemes, cuts, tokensEq⟩ :=
    exists_string_of_scanAll scanned
  obtain ⟨same, rfl⟩ := List.cons.inj (derives.eq_text rfl rfl)
  cases same
  -- Behind the string come only blanks, and the last character is a quote.
  have blank := cuts.isBlank tokensEq
  cases rest using List.reverseRecOn with
  | nil => rwa [List.append_nil] at bodyEq
  | append_singleton rest last =>
      rw [bodyEq, ← List.append_assoc, List.getLast?_concat, Option.some.injEq] at closed
      have isBlank := blank last List.mem_concat_self
      rw [closed] at isBlank
      cases isBlank

/-- Strings read back. A draft has one token for the literal of a text. A formula has the text as its
value and quotes at both ends if and only if it is the literal and not too long. -/
theorem string_literals_read_back (content : Text) :
    Draft.Token.scanAll content.stringLiteral = [⟨.string, content.stringLiteral, 0⟩] ∧
      ∀ body : Text,
        parse body = .ok (.text content) ∧ body.head? = some '"' ∧ body.getLast? = some '"' ↔
          body = content.stringLiteral ∧ body.length ≤ lengthLimit := by
  refine ⟨Draft.Token.scanAll_stringLiteral content, fun body => ⟨?_, ?_⟩⟩
  · rintro ⟨parsed, opened, closed⟩
    exact ⟨eq_stringLiteral_of_parse parsed opened closed, length_le_of_parse parsed⟩
  · rintro ⟨rfl, short⟩
    refine ⟨parse_of_single short (Token.scanAll_stringLiteral content) rfl (.text content), rfl, ?_⟩
    rw [Text.stringLiteral, ← List.cons_append, List.getLast?_concat]

end Formula

end SheetEditor
