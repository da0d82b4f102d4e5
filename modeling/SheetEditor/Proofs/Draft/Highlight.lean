import SheetEditor.Proofs.Draft.Operands
import SheetEditor.Proofs.Formula.Soundness
import SheetEditor.Proofs.Formula.Spacing

/-!
Contract: the highlighted references of a formula are its references.

Owns: that a draft finds the same cells in the text of a formula as the expression
refers to, in the same order and on the same sheets, if every reference is in one
piece.

The two scanners cut a text differently: a reference with its sheet name is one
token of a draft and up to four tokens of a formula, and a name with a dollar sign
is several tokens of a draft. The text is read operand by operand, and each operand
has the same targets for both.
-/

namespace SheetEditor.Draft

open Text (Stops)
open Formula (Cuts Delimited Layout Lexeme Refers)

variable {text rest following : Text} {first : Char} {count : Nat}

/-! ## Operands as they are spelled -/

section Spelled

variable {token : Formula.Token} (scans : Formula.Token.Scans first following (some token) count)

theorem longOperatorRule_eq_none_of_short
    (short : ∀ second long, (first, second, long) ∈ Formula.Token.longMarks →
      following.head? ≠ some second) : Token.longOperatorRule (first :: following) = none := by
  cases following with
  | nil => simp [Token.longOperatorRule]
  | cons second others =>
      rw [Token.longOperatorRule_cons, if_neg]
      intro isLong
      rcases isLong with ⟨rfl, rfl | rfl⟩ | ⟨rfl, rfl⟩
      · exact short '>' (.operator .notEqual) (by decide) rfl
      · exact short '=' (.operator .lessEqual) (by decide) rfl
      · exact short '=' (.operator .greaterEqual) (by decide) rfl

include scans in
/-- Operators, brackets and separators are tokens of a draft as well, and no references. -/
theorem classify_listed (listed : token.isListed = true) :
    ∃ kind, kind ≠ .reference ∧ Token.classify first following = (kind, count) := by
  rcases scans.of_isListed listed with ⟨isMark, rfl, short⟩ | ⟨second, others, isMark, rfl, rfl⟩
  · have alone : ∀ mark ∈ Formula.Token.marks, Token.standsAlone mark.1 = true := by decide
    have aloneFirst : Token.standsAlone first = true := alone (first, token) isMark
    exact ⟨_, punctuationKind_ne_reference first,
      Token.classify_of_standsAlone aloneFirst (longOperatorRule_eq_none_of_short short)⟩
  · have long : ∀ mark ∈ Formula.Token.longMarks, Token.standsAlone mark.1 = true ∧
        ∀ others, Token.longOperatorRule (mark.1 :: mark.2.1 :: others) = some (.operator, 2) := by
      simp [Formula.Token.longMarks, Token.longOperatorRule]
      decide
    obtain ⟨alone, isLong⟩ := long (first, second, token) isMark
    exact ⟨.operator, by decide, Token.classify_longOperator alone (isLong others)⟩

include scans in
theorem targets_listed (listed : token.isListed = true) :
    targets (first :: following) = targets (following.drop count) := by
  obtain ⟨kind, other, classified⟩ := classify_listed scans listed
  exact targets_of_other classified other

end Spelled

/-! ## Delimiters -/

theorem stops_of_delimiters {continues : Char → Bool}
    (follows : ∀ next ∈ rest.head?, next ∈ Formula.delimiters)
    (outside : Formula.delimiters.any continues = false) : Stops continues rest := by
  intro next isFirst
  rw [List.any_eq_false] at outside
  simpa using outside next (follows next isFirst)

theorem isBoundary_of_delimiters (follows : ∀ next ∈ rest.head?, next ∈ Formula.delimiters) :
    Token.isBoundary rest = true := by
  cases rest with
  | nil => rfl
  | cons next others =>
      have boundaries :
          (Formula.delimiters.all fun delimiter => Token.isBoundary [delimiter]) = true := by
        decide
      exact List.all_eq_true.mp boundaries next (follows next rfl)

/-! ## Names and columns -/

/-- A name that is not a cell of the sheet is not the text of cells. -/
theorem rangeOf?_eq_none_of_name
    (inside : ∀ character ∈ text, Token.inName character = true)
    (noCell : ∀ cell, WrittenCell.read? text = some (cell, []) → cell.address? = none) :
    Target.rangeOf? text = none := by
  unfold Target.rangeOf?
  cases read : WrittenCell.read? text with
  | none => rfl
  | some found =>
      obtain ⟨cell, after⟩ := found
      cases after with
      | nil => simp [noCell cell read]
      | cons next others =>
          have member : next ∈ text := by
            rw [WrittenCell.eq_append_of_read? read]
            simp
          have notColon : next ≠ ':' := by
            rintro rfl
            cases inside _ member
          simp [notColon]

theorem inColumns_of_lettered (lettered : first.isAlpha = true ∨ first = '$') :
    inColumns first = true := by
  rcases lettered with isAlpha | rfl
  · simp [inColumns, isAlpha]
  · rfl

theorem inRun_of_inIdentifier {character : Char}
    (inside : Formula.Token.inIdentifier character = true) : inRun character = true := by
  simp only [Formula.Token.inIdentifier, Bool.or_eq_true, List.contains_iff_mem, List.mem_cons,
    List.not_mem_nil, or_false] at inside
  rcases inside with isAlphanum | rfl | rfl | rfl
  · simp [inRun, Token.inName, isAlphanum]
  · rfl
  · rfl
  · rfl

theorem inRun_of_beginsIdentifier (begins : Formula.Token.beginsIdentifier first = true) :
    inRun first = true := by
  simp only [Formula.Token.beginsIdentifier, Bool.or_eq_true, decide_eq_true_eq] at begins
  rcases begins with (isAlpha | rfl) | rfl
  · simp [inRun, Token.inName, Char.isAlphanum, isAlpha]
  · rfl
  · rfl

theorem inRun_of_identifier (begins : Formula.Token.beginsIdentifier first = true)
    (inside : ∀ character ∈ text, Formula.Token.inIdentifier character = true) :
    ∀ character ∈ first :: text, inRun character = true :=
  List.forall_mem_cons.mpr ⟨inRun_of_beginsIdentifier begins,
    fun character member => inRun_of_inIdentifier (inside character member)⟩

/-- Without a dollar sign, an identifier of a formula is a name of a draft. -/
theorem isName_of_unmarked (begins : Formula.Token.beginsIdentifier first = true)
    (inside : ∀ character ∈ text, Formula.Token.inIdentifier character = true)
    (unmarked : '$' ∉ first :: text) :
    (first.isAlpha = true ∨ first = '_') ∧ ∀ character ∈ text, Token.inName character = true := by
  rw [List.mem_cons, not_or] at unmarked
  constructor
  · simp only [Formula.Token.beginsIdentifier, Bool.or_eq_true, decide_eq_true_eq] at begins
    rcases begins with named | rfl
    · exact named
    · exact absurd rfl unmarked.1
  · intro character member
    have run := inRun_of_inIdentifier (inside character member)
    rw [inRun, Bool.or_eq_true] at run
    rcases run with isName | isMarker
    · exact isName
    · exact absurd (of_decide_eq_true isMarker ▸ member) unmarked.2

theorem inColumns_of_isBlank (blank : isBlank first = true) : inColumns first = true := by
  rw [inColumns, blank, Bool.or_true]

/-- The text of a column has only letters and dollar signs in it. -/
theorem inColumns_of_spells {word name : Text} {column : Nat}
    (spells : Formula.Spells word (.identifier name))
    (found : Column.number? (name.dropWhile (· = '$')) = some column) :
    ∀ character ∈ word, inColumns character = true := by
  obtain ⟨_, _, _, scans, rfl⟩ := spells
  obtain ⟨_, _, rfl, _⟩ := scans.of_identifier
  have lettered := Formula.lettered_of_upper (Formula.lettered_of_number? found)
  exact fun character member => inColumns_of_lettered (lettered character member)

/-- What is written like an identifier has no target, unless it is a cell. -/
theorem targets_identifier_of_scans {name : Text}
    (scans : Formula.Token.Scans first following (some (.identifier name)) count)
    (stops : Stops continuesArea (following.drop count)) :
    targets (first :: following) = targets (following.drop count) := by
  obtain ⟨begins, inside, _, noCell, marked⟩ := scans.of_identifier
  have split : first :: following = (first :: following.take count) ++ following.drop count := by
    rw [List.cons_append, List.take_append_drop]
  rw [split]
  by_cases isMarked : '$' ∈ first :: following.take count
  · obtain ⟨column, found⟩ := Option.isSome_iff_exists.mp (marked isMarked)
    have lettered := Formula.lettered_of_number? found
    have inside : ∀ character ∈ first :: following.take count, inColumns character = true :=
      fun character member => inColumns_of_lettered (lettered character member)
    exact targets_columns inside stops
  · obtain ⟨beginsName, insideName⟩ := isName_of_unmarked begins inside isMarked
    have allInside : ∀ character ∈ first :: following.take count, Token.inName character = true :=
      List.forall_mem_cons.mpr ⟨Token.inName_of_begins beginsName, insideName⟩
    have noCells := rangeOf?_eq_none_of_name allInside noCell
    exact (BeginsWithoutCells.name beginsName insideName noCells stops).skipped

/-! ## Constants -/

theorem targets_constant {token : Formula.Token}
    (scans : Formula.Token.Scans first following (some token) count)
    (isConstant : token.isConstant = true)
    (follows : ∀ next ∈ (following.drop count).head?, next ∈ Formula.delimiters) :
    targets (first :: following) = targets (following.drop count) := by
  cases token with
  | number value =>
      obtain ⟨_, read⟩ := scans.of_number
      have begins := BeginsWithoutCells.number read (stops_of_delimiters follows (by decide))
        (stops_of_delimiters follows (by decide))
      rw [List.cons_append, List.take_append_drop] at begins
      exact begins.skipped
  | text content =>
      obtain ⟨rfl, read⟩ := scans.of_text
      exact targets_string read
  | error literal =>
      obtain ⟨rfl, found, rfl⟩ := scans.of_error
      exact targets_errorLiteral found
  | identifier name =>
      exact targets_identifier_of_scans scans (stops_of_delimiters follows (by decide))
  | cell | qualifier | operator | percent | openParenthesis | closeParenthesis | openBrace
  | closeBrace | colon | comma | semicolon => cases isConstant

/-! ## Cells -/

/-- A cell up to a delimiter is a reference to it. -/
theorem BeginsWithCells.cell {cell : WrittenCell} {address : CellAddress}
    (read : WrittenCell.read? text = some (cell, [])) (inSheet : cell.address? = some address)
    (follows : ∀ next ∈ rest.head?, next ∈ Formula.delimiters) :
    BeginsWithCells (text ++ rest) (.single address) rest := by
  have written := WrittenCell.text_of_whole read
  have inside := WrittenCell.inArea_of_read? read
  rw [written] at inside
  refine .of_rangeOf? inside ?_ ?_ (stops_of_delimiters follows (by decide))
    (isBoundary_of_delimiters follows)
  · rw [Token.cellsLength?, read, ← written]
    rfl
  · rw [Target.rangeOf?, read]
    simp [inSheet]

/-- Two cells around a colon are a reference to the block between them. -/
theorem BeginsWithCells.range {start stop : Text} {first last : WrittenCell}
    {corner opposite : CellAddress} (startRead : WrittenCell.read? start = some (first, []))
    (startInSheet : first.address? = some corner)
    (stopRead : WrittenCell.read? stop = some (last, []))
    (stopInSheet : last.address? = some opposite)
    (follows : ∀ next ∈ rest.head?, next ∈ Formula.delimiters) :
    BeginsWithCells (start ++ ':' :: stop ++ rest) ⟨corner, opposite⟩ rest := by
  have startInside := WrittenCell.inArea_of_read? startRead
  have stopInside := WrittenCell.inArea_of_read? stopRead
  have startWritten := WrittenCell.text_of_whole startRead
  have stopWritten := WrittenCell.text_of_whole stopRead
  have read : WrittenCell.read? (start ++ ':' :: stop) = some (first, ':' :: stop) := by
    rw [WrittenCell.read?_append (Text.stops_cons.mpr rfl), startRead]
    rfl
  rw [startWritten] at startInside
  rw [stopWritten] at stopInside
  refine .of_rangeOf? ?_ ?_ ?_ (stops_of_delimiters follows (by decide))
    (isBoundary_of_delimiters follows)
  · exact List.forall_mem_append.mpr ⟨startInside, List.forall_mem_cons.mpr ⟨rfl, stopInside⟩⟩
  · rw [Token.cellsLength?, read]
    simp only [Option.bind_eq_bind, Option.bind_some, stopRead, startWritten, stopWritten,
      List.length_append, List.length_cons]
    congr 1
    omega
  · rw [Target.rangeOf?, read]
    simp [stopRead, startInSheet, stopInSheet]

/-! ## References -/

section Refers

variable {lexemes : List Lexeme} {sheet : Option Text} {tokens later : List Formula.Token}
  {value : Expr}

/-- What the text of a reference looks like to a draft, and the text after it. A qualifier may come
before it. -/
inductive Reads (lexemes : List Lexeme) (sheet : Option Text) (text after : Text) :
    Expr → Prop where
  | cells {blanks operand : Text} {range : CellRange} {value : Expr}
      (references : value.references = [⟨range, sheet⟩]) (textEq : text = blanks ++ operand)
      (isBlanks : ∀ blank ∈ blanks, isBlank blank = true)
      (gap : blanks ≠ [] → Lexeme.hasGap lexemes = true)
      (isCell : Lexeme.comesToCell lexemes = true) (begins : BeginsWithCells operand range after) :
      Reads lexemes sheet text after value
  | noCells {value : Expr} (references : value.references = [])
      (begins : BeginsWithoutCells text after) : Reads lexemes sheet text after value

theorem Reads.of_refers (refers : Refers sheet tokens value) (cuts : Cuts text lexemes)
    (tokensEq : Lexeme.tokens lexemes = tokens ++ later) (delimited : Delimited later)
    (tidy : Lexeme.isTidy lexemes = true) :
    ∃ after others, Reads lexemes sheet text after value ∧ Cuts after others ∧
      Lexeme.tokens others = later ∧ Lexeme.isTidy others = true := by
  cases refers with
  | cell address columnAbsolute rowAbsolute =>
      obtain ⟨blanks, first, following, count, others, rfl, isBlanks, gap, scans, cutsAfter,
        tokensAfter, tidyAfter, together⟩ := cuts.firstToken tokensEq tidy
      obtain ⟨cell, read, inSheet⟩ := scans.of_cell
      refine ⟨following.drop count, others, ?_, cutsAfter, tokensAfter, tidyAfter⟩
      subst tokensAfter
      have begins := BeginsWithCells.cell read inSheet (cutsAfter.delimited delimited)
      rw [List.cons_append, List.take_append_drop] at begins
      refine .cells rfl rfl isBlanks gap ?_ begins
      simp [Lexeme.comesToCell, tokensEq, Formula.Token.isCell]
  | range start stop startColumn startRow stopColumn stopRow =>
      obtain ⟨blanks, startWord, before, behind, stopWord, after, others, rfl, isBlanks, _, _, gap,
        nothingBefore, nothingBehind, ⟨_, _, _, startScans, rfl⟩, ⟨_, _, _, stopScans, rfl⟩,
        cutsAfter, tokensAfter, tidyAfter⟩ := cuts.aroundColon tokensEq tidy
      obtain rfl := nothingBefore rfl
      obtain rfl := nothingBehind rfl
      obtain ⟨_, startRead, startInSheet⟩ := startScans.of_cell
      obtain ⟨_, stopRead, stopInSheet⟩ := stopScans.of_cell
      refine ⟨after, others, ?_, cutsAfter, tokensAfter, tidyAfter⟩
      subst tokensAfter
      have begins := BeginsWithCells.range startRead startInSheet stopRead stopInSheet
        (cutsAfter.delimited delimited)
      rw [List.append_assoc] at begins
      refine .cells rfl rfl isBlanks gap ?_ begins
      simp [Lexeme.comesToCell, tokensEq, Formula.Token.isCell]
  | columns firstColumn lastColumn inBounds =>
      obtain ⟨blanks, startWord, before, behind, stopWord, after, others, rfl, isBlanks, isBefore,
        isBehind, _, _, _, startSpelled, stopSpelled, cutsAfter, tokensAfter,
        tidyAfter⟩ := cuts.aroundColon tokensEq tidy
      refine ⟨after, others, .noCells rfl (.blanks isBlanks ?_), cutsAfter, tokensAfter, tidyAfter⟩
      subst tokensAfter
      have inside : ∀ character ∈ startWord ++ (before ++ ':' :: (behind ++ stopWord)),
          inColumns character = true := by
        simp only [List.forall_mem_append, List.forall_mem_cons]
        exact ⟨inColumns_of_spells startSpelled firstColumn,
          fun blank member => inColumns_of_isBlank (isBefore blank member), rfl,
          fun blank member => inColumns_of_isBlank (isBehind blank member),
          inColumns_of_spells stopSpelled lastColumn⟩
      have begins := BeginsWithoutCells.columns inside
        (stops_of_delimiters (cutsAfter.delimited delimited) (by decide))
      simpa only [List.append_assoc, List.cons_append] using begins
  | @rows start stop _ _ firstRow lastRow firstInBounds lastInBounds =>
      obtain ⟨blanks, startWord, before, behind, stopWord, after, others, rfl, isBlanks, isBefore,
        isBehind, _, _, _, ⟨_, _, _, startScans, rfl⟩, ⟨_, _, _, stopScans, rfl⟩, cutsAfter,
        tokensAfter, tidyAfter⟩ := cuts.aroundColon tokensEq tidy
      obtain ⟨_, startRead⟩ := startScans.of_number
      obtain ⟨_, stopRead⟩ := stopScans.of_number
      refine ⟨after, others, .noCells rfl ?_, cutsAfter, tokensAfter, tidyAfter⟩
      subst tokensAfter
      have follows := cutsAfter.delimited delimited
      exact .blanks isBlanks (.rows startRead stopRead isBefore isBehind
        (stops_of_delimiters follows (by decide)) (stops_of_delimiters follows (by decide)))

theorem eq_nil_of_noGap {blanks : Text} (gap : blanks ≠ [] → Lexeme.hasGap lexemes = true)
    (noGap : Lexeme.hasGap lexemes = false) : blanks = [] := by
  by_contra blank
  rw [gap blank] at noGap
  cases noGap

/-- Whatever a formula refers to after a sheet name, a draft refers to after it, too. -/
theorem targets_qualified {sheet : Text} {after : Text}
    (scans : Formula.Token.Scans first following (some (.qualifier sheet)) count)
    (together : (⟨first :: following.take count, some (.qualifier sheet)⟩ : Lexeme).keepsTogether
      lexemes = true)
    (reads : Reads lexemes (some sheet) (following.drop count) after value) :
    targets (first :: following) = value.references ++ targets after := by
  simp only [Lexeme.keepsTogether, Bool.and_eq_true, Bool.or_eq_true, Bool.not_eq_true',
    decide_eq_true_eq] at together
  obtain ⟨nonempty, together⟩ := together
  have beforeCell (isCell : Lexeme.comesToCell lexemes = true) :=
    together.resolve_left (by rw [isCell]; decide)
  rcases scans.of_qualifier with
    ⟨rest, textEq, rfl⟩ | ⟨rest, textEq, rfl, others, rfl, begins, inside⟩
  · have qualifies := Qualifies.quoted nonempty
    rw [textEq]
    cases reads with
    | cells references restEq _ gap isCell begins =>
        obtain ⟨noGap, _⟩ := beforeCell isCell
        rw [restEq, eq_nil_of_noGap gap noGap, List.nil_append, qualifies.targets_of_cells begins,
          references]
        rfl
    | noCells references begins =>
        rw [qualifies.targets_of_noCells begins, references]
        rfl
  · rw [textEq]
    cases reads with
    | cells references restEq _ gap isCell withCells =>
        obtain ⟨noGap, named⟩ := beforeCell isCell
        have unmarked : '$' ∉ first :: others := by
          rcases named with quoted | unmarked
          · cases Option.some.inj quoted
            cases begins
          · simpa using unmarked
        obtain ⟨beginsName, insideName⟩ := isName_of_unmarked begins inside unmarked
        have same := (Qualifies.plain beginsName insideName).targets_of_cells withCells
        rw [restEq, eq_nil_of_noGap gap noGap, references, List.nil_append]
        simpa using same
    | noCells references withoutCells =>
        rw [targets_name_of_noCells (inRun_of_identifier begins inside) withoutCells, references]
        rfl

end Refers

/-! ## Formulas -/

/-- A text whose operands are laid out has the targets that they refer to. -/
theorem targets_of_layout {tokens : List Formula.Token} {found : List Target}
    (layout : Layout tokens found) {lexemes : List Lexeme} (cuts : Cuts text lexemes)
    (tokensEq : Lexeme.tokens lexemes = tokens) (tidy : Lexeme.isTidy lexemes = true) :
    targets text = found := by
  induction layout generalizing text lexemes with
  | nil =>
      have same := targets_blanks (cuts.isBlank tokensEq) []
      rwa [List.append_nil, targets_nil] at same
  | mark isMark _ inductionHypothesis =>
      obtain ⟨blanks, first, following, count, others, rfl, isBlanks, _, scans, cuts, tokensAfter,
        tidyAfter, _⟩ := cuts.firstToken tokensEq tidy
      have listed := Formula.Token.isListed_of_isMark isMark
      rw [targets_blanks isBlanks, targets_listed scans listed,
        inductionHypothesis cuts tokensAfter tidyAfter]
  | call _ inductionHypothesis =>
      obtain ⟨blanks, first, following, count, others, rfl, isBlanks, _, scans, cuts, tokensAfter,
        tidyAfter, _⟩ := cuts.firstToken tokensEq tidy
      obtain ⟨gap, mark, inside, markCount, last, afterName, isGap, _, markScans, cuts, tokensAfter,
        tidyAfter, _⟩ := cuts.firstToken tokensAfter tidyAfter
      obtain ⟨rfl, rfl⟩ := markScans.of_single '(' rfl (by decide) (by decide)
      have stops : Stops continuesArea (following.drop count) := by
        rw [afterName]
        exact stops_blanks (fun _ => solid_of_continuesArea) isGap (Text.stops_cons.mpr rfl)
      rw [targets_blanks isBlanks, targets_identifier_of_scans scans stops, afterName,
        targets_blanks isGap, targets_listed markScans rfl,
        inductionHypothesis cuts tokensAfter tidyAfter]
  | @constant token _ _ isConstant delimited _ inductionHypothesis =>
      obtain ⟨blanks, first, following, count, others, rfl, isBlanks, _, scans, cuts, tokensAfter,
        tidyAfter, _⟩ := cuts.firstToken tokensEq tidy
      have follows := cuts.delimited (tokensAfter ▸ delimited)
      rw [targets_blanks isBlanks, targets_constant scans isConstant follows,
        inductionHypothesis cuts tokensAfter tidyAfter]
  | reference refers delimited _ inductionHypothesis =>
      obtain ⟨after, others, reads, cutsAfter, tokensAfter, tidyAfter⟩ :=
        Reads.of_refers refers cuts tokensEq delimited tidy
      have laterSame := inductionHypothesis cutsAfter tokensAfter tidyAfter
      cases reads with
      | cells references textEq isBlanks _ _ begins =>
          rw [textEq, targets_blanks isBlanks, begins.targets_eq, references, laterSame]
          rfl
      | noCells references begins =>
          rw [begins.skipped, references, laterSame]
          rfl
  | @qualified sheet _ _ _ _ refers delimited _ inductionHypothesis =>
      obtain ⟨blanks, first, following, count, others, rfl, isBlanks, _, scans, cuts, tokensAfter,
        tidyAfter, together⟩ := cuts.firstToken tokensEq tidy
      obtain ⟨after, last, reads, cutsAfter, tokensLast, tidyLast⟩ :=
        Reads.of_refers refers cuts tokensAfter delimited tidyAfter
      have laterSame := inductionHypothesis cutsAfter tokensLast tidyLast
      rw [targets_blanks isBlanks, targets_qualified scans together reads, laterSame]

/-- The highlighted references of a formula are those of its expression, in the same order, if every
reference is in one piece. -/
theorem references_of_parse {body : Text} {value : Expr} {lexemes : List Lexeme}
    (parsed : Formula.parse body = .ok value) (lexed : Lexeme.scanAll body = .ok lexemes)
    (tidy : Lexeme.isTidy lexemes = true) :
    (Reference.ofTokens (Token.scanAll body)).map Reference.target = value.references := by
  obtain ⟨tokens, scanned, derives⟩ := Formula.derives_of_parse parsed
  obtain ⟨others, othersLexed, cuts, tokensEq⟩ := Formula.exists_lexemes scanned
  obtain rfl : others = lexemes := Except.ok.inj (othersLexed.symm.trans lexed)
  have layout := derives.layout Formula.delimited_nil .nil
  rw [List.append_nil, List.append_nil] at layout
  exact (map_target_ofTokensFrom 0 _).trans (targets_of_layout layout cuts tokensEq tidy)

theorem exists_value_of_references {body : Text} {found : List Target}
    (accepted : (Formula.parse body).toOption.map Expr.references = some found) :
    ∃ value, Formula.parse body = .ok value ∧ value.references = found := by
  cases parsed : Formula.parse body with
  | error failure => simp [parsed, Except.toOption] at accepted
  | ok value => exact ⟨value, rfl, by simpa [parsed, Except.toOption] using accepted⟩

/-- Sheet names, blocks, columns, names and blanks in one formula. -/
theorem references_of_mixed_formula :
    let body := "SUM('It''s'!$A1:B2, TRUE)*Sheet1!C3 + $AB (A:$C, A$B!1 : 5) & 'a$b'!D4".toList
    ∃ value lexemes, Formula.parse body = .ok value ∧ Lexeme.scanAll body = .ok lexemes ∧
      Lexeme.isTidy lexemes = true ∧
      (Reference.ofTokens (Token.scanAll body)).map Reference.target = value.references ∧
      value.references = [⟨⟨⟨0, 0⟩, ⟨1, 1⟩⟩, some "It's".toList⟩,
        ⟨.single ⟨2, 2⟩, some "Sheet1".toList⟩, ⟨.single ⟨3, 3⟩, some "a$b".toList⟩] := by
  intro body
  have accepted : (Formula.parse body).toOption.map Expr.references =
      some [⟨⟨⟨0, 0⟩, ⟨1, 1⟩⟩, some "It's".toList⟩, ⟨.single ⟨2, 2⟩, some "Sheet1".toList⟩,
        ⟨.single ⟨3, 3⟩, some "a$b".toList⟩] := by
    decide +kernel
  obtain ⟨value, parsed, refers⟩ := exists_value_of_references accepted
  have tidy : (Lexeme.scanAll body).toOption.any Lexeme.isTidy = true := by decide +kernel
  cases lexed : Lexeme.scanAll body with
  | error failure => simp [lexed, Except.toOption] at tidy
  | ok lexemes =>
      have isTidy : Lexeme.isTidy lexemes = true := by simpa [lexed, Except.toOption] using tidy
      exact ⟨value, lexemes, parsed, rfl, isTidy, references_of_parse parsed lexed isTidy, refers⟩

/-- A formula may have blanks around a colon, and a draft then finds two cells. -/
theorem references_differ_around_blank :
    ¬∀ body value, Formula.parse body = .ok value →
      (Reference.ofTokens (Token.scanAll body)).map Reference.target = value.references := by
  intro same
  have accepted : (Formula.parse "A1 : B2".toList).toOption.map Expr.references =
      some [⟨⟨⟨0, 0⟩, ⟨1, 1⟩⟩, none⟩] := by
    decide +kernel
  have found : (Reference.ofTokens (Token.scanAll "A1 : B2".toList)).map Reference.target =
      [⟨.single ⟨0, 0⟩, none⟩, ⟨.single ⟨1, 1⟩, none⟩] := by
    decide +kernel
  obtain ⟨value, parsed, refers⟩ := exists_value_of_references accepted
  have equal := same _ value parsed
  rw [found, refers] at equal
  simp at equal

end SheetEditor.Draft
