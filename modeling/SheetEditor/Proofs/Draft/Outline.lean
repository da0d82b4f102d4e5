import SheetEditor.Draft.Closing
import SheetEditor.Formula.Parser
import SheetEditor.Proofs.Draft.Characters
import SheetEditor.Proofs.Formula.Parentheses
import SheetEditor.Proofs.Formula.Soundness

/-!
Contract: the outline of a draft, and that of a formula that parses.

Owns: that the parentheses and commas among the tokens of the tolerant scan are
those of the text outside its strings and quoted sheet names, and that closing the
parentheses of a formula that parses changes nothing.

The two scanners cut a text into different tokens. They are compared through the
outline of the text, which both of them respect.
-/

namespace SheetEditor.Draft

open Text (Outlines isPlain stepParenthesis)

variable {text following : Text} {first : Char}

namespace Token

/-! ## Tokens of plain characters -/

/-- A rule stays plain if from a plain character on it recognises plain characters only. -/
def Rule.StaysPlain (rule : Rule) : Prop :=
  ∀ ⦃first following kind length⦄, isPlain first = true →
    rule (first :: following) = some (kind, length) →
    ∀ character ∈ (first :: following).take length, isPlain character = true

theorem isPlain_of_inArea {character : Char} (member : inArea character = true) :
    isPlain character = true :=
  Text.isPlain_of_class (by decide) member

theorem isPlain_of_inName {character : Char} (member : inName character = true) :
    isPlain character = true :=
  Text.isPlain_of_class (by decide) member

theorem blankRule_staysPlain : Rule.StaysPlain blankRule := by
  intro first following kind length _ found
  unfold blankRule at found
  dsimp only at found
  split at found
  · cases found
  · cases found
    rw [← List.prefix_iff_eq_take.mp (List.takeWhile_prefix _)]
    exact fun character member =>
      Text.isPlain_of_class (by decide) (List.mem_takeWhile_imp member)

theorem errorLiteralRule_staysPlain : Rule.StaysPlain errorLiteralRule := by
  intro first following kind length _ found
  obtain ⟨literal, startOf, pair⟩ := Option.map_eq_some_iff.mp found
  cases pair
  exact ErrorLiteral.isPlain_of_startOf? startOf

theorem stringRule_staysPlain : Rule.StaysPlain stringRule := by
  intro first following kind length plain found
  have notQuote : first ≠ '"' := by
    rintro rfl
    cases plain
  rw [stringRule_eq_none notQuote] at found
  cases found

/-- A qualifier that begins with a plain character is an identifier and an exclamation mark. -/
theorem isPlain_of_qualifierLength? {length : Nat} (plain : isPlain first = true)
    (found : qualifierLength? (first :: following) = some length) :
    ∀ character ∈ (first :: following).take length, isPlain character = true := by
  have notQuote : first ≠ SheetName.quote := by
    rintro rfl
    cases plain
  obtain ⟨name, nameFound, found⟩ := Option.bind_eq_some_iff.mp found
  rw [qualifierNameLength?, if_neg notQuote] at nameFound
  split at found
  · next rest isMark =>
      cases found
      rw [List.take_add, isMark, List.forall_mem_append]
      refine ⟨fun character member =>
        isPlain_of_inName (inName_of_identifierLength? nameFound character member), ?_⟩
      rw [List.take_succ_cons, List.take_zero, List.forall_mem_singleton]
      rfl
  · cases found

theorem qualifierRule_staysPlain : Rule.StaysPlain qualifierRule := by
  intro first following kind length plain found
  obtain ⟨_, lengthFound, pair⟩ := Option.map_eq_some_iff.mp found
  cases pair
  exact isPlain_of_qualifierLength? plain lengthFound

theorem referenceRule_staysPlain : Rule.StaysPlain referenceRule := by
  intro first following kind length plain found
  obtain ⟨_, lengthFound, pair⟩ := Option.map_eq_some_iff.mp found
  cases pair
  obtain ⟨area, rfl, areaFound, _⟩ := referenceLength?_cases lengthFound
  rw [List.take_add, List.forall_mem_append]
  refine ⟨?_, fun character member =>
    isPlain_of_inArea (inArea_of_areaLength? areaFound character member)⟩
  cases qualifier : qualifierLength? (first :: following) with
  | none => simp
  | some length => exact isPlain_of_qualifierLength? plain qualifier

theorem identifierRule_staysPlain : Rule.StaysPlain identifierRule := by
  intro first following kind length _ found
  obtain ⟨_, lengthFound, pair⟩ := Option.bind_eq_some_iff.mp found
  cases pair
  exact fun character member =>
    isPlain_of_inName (inName_of_identifierLength? lengthFound character member)

theorem numberRule_staysPlain : Rule.StaysPlain numberRule := by
  intro first following kind length _ found
  unfold numberRule at found
  dsimp only at found
  split at found
  · cases found
  · cases found
    exact fun character member => Text.isPlain_of_class (by decide)
      (Decimal.inNumeral_of_mem_numeral (first :: following) character member)

theorem longOperatorRule_staysPlain : Rule.StaysPlain longOperatorRule := by
  intro first following kind length plain found
  cases following with
  | nil => simp [longOperatorRule] at found
  | cons second others =>
      rw [longOperatorRule_cons] at found
      split at found
      · next isLong =>
          cases found
          have plainSecond : isPlain second = true := by
            rcases isLong with ⟨_, rfl | rfl⟩ | ⟨_, rfl⟩ <;> rfl
          rw [List.take_succ_cons, List.take_succ_cons, List.take_zero, List.forall_mem_cons,
            List.forall_mem_singleton]
          exact ⟨plain, plainSecond⟩
      · cases found

/-- From a plain character on, a token is of plain characters. -/
theorem classify_staysPlain (plain : isPlain first = true) (following : Text) :
    ∀ character ∈ following.take (classify first following).2, isPlain character = true := by
  have stays : ∀ rule ∈ rules, Rule.StaysPlain rule := by
    simp only [rules, List.forall_mem_cons]
    exact ⟨blankRule_staysPlain, errorLiteralRule_staysPlain, stringRule_staysPlain,
      referenceRule_staysPlain, qualifierRule_staysPlain, identifierRule_staysPlain,
      numberRule_staysPlain, longOperatorRule_staysPlain, List.forall_mem_nil _⟩
  rcases classify_cases first following with ⟨rule, member, length, recognised, countEq⟩ | single
  · have plainLength := stays rule member plain recognised
    rw [countEq]
    cases length with
    | zero => simp
    | succ length =>
        rw [List.take_succ_cons, List.forall_mem_cons] at plainLength
        exact plainLength.2
  · rw [single]
    simp

/-! ## The outline of tokens -/

/-- What a token adds to the outline of its text: a parenthesis, a comma, or nothing. -/
def outlined? (token : Token) : Option Char :=
  match token.kind with
  | .parenthesis => if token.text = ['('] then some '(' else some ')'
  | .comma => some ','
  | _ => none

/-- What an outlined token is, by the character that it adds. -/
theorem outlined?_cases {token : Token} {character : Char}
    (outlined : token.outlined? = some character) :
    token.kind = .comma ∧ character = ',' ∨ token.kind = .parenthesis ∧
      (token.text = ['('] ∧ character = '(' ∨ token.text ≠ ['('] ∧ character = ')') := by
  unfold outlined? at outlined
  split at outlined
  · next isParenthesis =>
      split at outlined
      · next opens => exact .inr ⟨isParenthesis, .inl ⟨opens, (Option.some.inj outlined).symm⟩⟩
      · next closes => exact .inr ⟨isParenthesis, .inr ⟨closes, (Option.some.inj outlined).symm⟩⟩
  · next isComma => exact .inl ⟨isComma, (Option.some.inj outlined).symm⟩
  · cases outlined

/-- No rule recognises a parenthesis or a comma. -/
theorem kind_of_mem_rules {rule : Rule} (member : rule ∈ rules) {kind : TokenKind} {length : Nat}
    (recognised : rule text = some (kind, length)) : kind ≠ .parenthesis ∧ kind ≠ .comma := by
  rcases rule_cases member recognised with ⟨rfl, _⟩ | ⟨rfl, _⟩ | listed
  · decide
  · decide
  · constructor <;> rintro rfl <;> simp at listed

/-- Parentheses and commas are tokens by themselves, and nothing else adds to the outline. -/
theorem classify_kind_cases (first : Char) (following : Text) :
    ((classify first following).1 ≠ .parenthesis ∧ (classify first following).1 ≠ .comma) ∨
      (classify first following = (.parenthesis, 0) ∧ (first = '(' ∨ first = ')')) ∨
        classify first following = (.comma, 0) ∧ first = ',' := by
  rcases classify_cases first following with ⟨rule, member, length, recognised, _⟩ | single
  · exact .inl (kind_of_mem_rules member recognised)
  · rw [single]
    unfold punctuationKind
    split <;> simp

theorem text_of_parenthesis {start : Nat} {token : Token} (scanned : token ∈ scanFrom start text)
    (isParenthesis : token.kind = .parenthesis) : token.text = ['('] ∨ token.text = [')'] := by
  induction text using scan_induction generalizing start with
  | nil =>
      rw [scanFrom_nil] at scanned
      cases scanned
  | cons first following inductionHypothesis =>
      rw [scanFrom_cons] at scanned
      cases List.mem_cons.mp scanned with
      | inl isFirst =>
          subst isFirst
          rcases classify_kind_cases first following with ⟨other, _⟩ | ⟨single, same⟩ | ⟨single, _⟩
          · exact absurd isParenthesis other
          · rw [single]
            exact same.imp (fun same => by rw [same]; rfl) fun same => by rw [same]; rfl
          · rw [single] at isParenthesis
            cases isParenthesis
      | inr isLater => exact inductionHypothesis isLater

/-- The parentheses and commas among the tokens of a text are those of its outline. -/
theorem filterMap_outlined?_of_outlines {outline : Text} (outlines : Outlines text outline)
    (start : Nat) : (scanFrom start text).filterMap outlined? = outline := by
  induction text using scan_induction generalizing start outline with
  | nil =>
      cases outlines
      rw [scanFrom_nil]
      rfl
  | cons first following inductionHypothesis =>
      rw [scanFrom_cons]
      cases outlines with
      | @kept _ _ outline isKept outlines =>
          have single : classify first following = (punctuationKind first, 0) := by
            rcases isKept with rfl | rfl | rfl <;>
              exact classify_of_standsAlone rfl (longOperatorRule_eq_none (by decide) (by decide))
          rw [single] at inductionHypothesis ⊢
          have later := inductionHypothesis outlines (start + (0 + 1))
          rcases isKept with rfl | rfl | rfl <;> exact congrArg (List.cons _) later
      | plain plain outlines =>
          have later : Outlines (following.drop (classify first following).2) outline := by
            apply Outlines.of_append_plain (classify_staysPlain plain following)
            rwa [List.take_append_drop]
          rw [List.filterMap_cons_none, inductionHypothesis later]
          rcases classify_kind_cases first following with ⟨notParenthesis, notComma⟩ | other | other
          · unfold outlined?
            split
            · next isParenthesis => exact absurd isParenthesis notParenthesis
            · next isComma => exact absurd isComma notComma
            · rfl
          · rcases other.2 with rfl | rfl <;> cases plain
          · obtain rfl := other.2
            cases plain
      | string read outlines =>
          rw [classify_quote, read] at inductionHypothesis ⊢
          exact inductionHypothesis outlines _
      | @name _ name rest _ count read nonempty marked outlines =>
          obtain ⟨area, classified, inside⟩ := classify_quotedName read nonempty marked
          have dropped : following.drop (count + 1 + area) = rest.drop area := by
            rw [← List.drop_drop, ← List.drop_drop, marked]
            rfl
          have later : Outlines (rest.drop area) outline := by
            apply Outlines.of_append_plain fun character member =>
              isPlain_of_inArea (inside character member)
            rwa [List.take_append_drop]
          rw [classified, dropped] at inductionHypothesis ⊢
          exact inductionHypothesis later _

end Token

/-! ## The count of open parentheses -/

theorem foldl_stepDepth_eq (tokens : List Token) (depth : Nat) :
    tokens.foldl stepDepth depth = (tokens.filterMap Token.outlined?).foldl stepParenthesis depth := by
  induction tokens generalizing depth with
  | nil => rfl
  | cons token tokens inductionHypothesis =>
      rw [List.foldl_cons, inductionHypothesis]
      obtain ⟨kind, text, start⟩ := token
      by_cases isParenthesis : kind = .parenthesis
      · subst isParenthesis
        by_cases opens : text = ['(']
        · simp [Token.outlined?, stepDepth, stepParenthesis, opens]
        · simp [Token.outlined?, stepDepth, stepParenthesis, opens]
      · have same : stepDepth depth ⟨kind, text, start⟩ = depth := if_neg isParenthesis
        rw [same]
        by_cases isComma : kind = .comma
        · subst isComma
          rfl
        · rw [List.filterMap_cons_none]
          cases kind <;> first | rfl | contradiction

/-- The open parentheses after the tokens of a text are those after its outline. -/
theorem foldl_stepDepth_of_outlines {outline : Text} (outlines : Outlines text outline)
    (start depth : Nat) :
    (Token.scanFrom start text).foldl stepDepth depth = outline.foldl stepParenthesis depth := by
  rw [foldl_stepDepth_eq, Token.filterMap_outlined?_of_outlines outlines]

/-! ## Formulas that parse -/

/-- Closing the parentheses of a formula that parses changes nothing, unless a sheet name in it is
empty. -/
theorem closeParentheses_eq_self_of_parse {body : Text} {value : Expr}
    {tokens : List Formula.Token} (parsed : Formula.parse body = .ok value)
    (scanned : Formula.Token.scanAll body = .ok tokens) (named : .qualifier [] ∉ tokens) :
    closeParentheses ('=' :: body) = '=' :: body := by
  obtain ⟨derivedTokens, derivedScanned, derives⟩ := Formula.derives_of_parse parsed
  obtain rfl : derivedTokens = tokens := Except.ok.inj (derivedScanned.symm.trans scanned)
  obtain ⟨lexemes, _, cuts, rfl⟩ := Formula.exists_lexemes scanned
  have counted : openDepth (Token.scanAll body) = 0 :=
    (foldl_stepDepth_of_outlines (cuts.outlines named) 0 0).trans (derives.balanced 0)
  rw [closeParentheses, counted, List.replicate_zero, List.append_nil]

/-- Parentheses, quotes and exclamation marks in a string and in a quoted name do not matter. -/
theorem closeParentheses_quoted_formula :
    let body := "SUM('It''s (Q1!)'!A1:B2,(\"(\"\"'!\"&\")(\"))%".toList
    ∃ value tokens, Formula.parse body = .ok value ∧ Formula.Token.scanAll body = .ok tokens ∧
      .qualifier [] ∉ tokens ∧ closeParentheses ('=' :: body) = '=' :: body := by
  intro body
  have accepted : (Formula.parse body).isOk = true ∧
      (Formula.Token.scanAll body).toOption.any (fun tokens => .qualifier [] ∉ tokens) = true := by
    decide +kernel
  cases parsed : Formula.parse body with
  | error failure => simp [parsed, Except.isOk, Except.toBool] at accepted
  | ok value =>
      cases scanned : Formula.Token.scanAll body with
      | error failure => simp [scanned, Except.toOption] at accepted
      | ok tokens =>
          have named : .qualifier [] ∉ tokens := by
            simpa [scanned, Except.toOption] using accepted.2
          exact ⟨value, tokens, rfl, rfl, named, closeParentheses_eq_self_of_parse parsed scanned named⟩

end SheetEditor.Draft
