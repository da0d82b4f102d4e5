import SheetEditor.Proofs.Draft.AreaParts

/-!
Contract: the cells that a draft finds in a formula are words of the formula.

Owns: what can come after a token of an accepted formula, and that each cell found in the
text of its lexemes is one of them.

Does not own: how the cells of a text are found (`SheetEditor.Proofs.Draft.CellPlaces`).

Both scans start together. They come together again after every reference of the draft,
because a reference ends at a boundary, and after every other word. In between the draft
can cut a column or a sheet name with dollar signs in it into several tokens, and none
of these has cells.
-/

namespace SheetEditor

open Text (Stops)

/-- A run of a class and what stops it are determined by the text that they make up. -/
theorem Text.run_inj {inside : Char → Bool} {run other rest after : Text}
    (members : ∀ character ∈ run, inside character = true)
    (otherMembers : ∀ character ∈ other, inside character = true) (stops : Stops inside rest)
    (otherStops : Stops inside after) (same : run ++ rest = other ++ after) :
    run = other ∧ rest = after := by
  have runs := congrArg (List.takeWhile inside) same
  rw [takeWhile_run members stops, takeWhile_run otherMembers otherStops] at runs
  subst runs
  exact ⟨rfl, List.append_cancel_left same⟩

/-! ## What comes after a token -/

namespace Formula

namespace Token

/-- Whether tokens can come after a token of an expression. A reference comes after a qualifier, and
after a cell only the other corner of its range or what ends an operand. -/
def Admits (rest : List Token) : Token → Prop
  | .qualifier _ => ∀ next ∈ rest.head?, next.isWord = true
  | .cell .. => Delimited rest ∨ ∃ other later,
      rest = .colon :: other :: later ∧ other.isCell = true ∧ Delimited later
  | _ => True

theorem admits_of_isMark {token : Token} (isMark : token.isMark = true) (rest : List Token) :
    token.Admits rest := by
  cases token <;> trivial

theorem admits_of_delimited {token : Token} {rest : List Token}
    (other : ∀ sheet, token ≠ .qualifier sheet) (delimited : Delimited rest) : token.Admits rest := by
  cases token with
  | qualifier sheet => exact absurd rfl (other sheet)
  | cell => exact .inl delimited
  | _ => trivial

end Token

/-- Tokens each of which is followed by what can come after it. -/
def Arranged : List Token → Prop
  | [] => True
  | token :: rest => token.Admits rest ∧ Arranged rest

theorem Arranged.of_append {before after : List Token} (arranged : Arranged (before ++ after)) :
    Arranged after := by
  induction before with
  | nil => exact arranged
  | cons token before inductionHypothesis => exact inductionHypothesis arranged.2

theorem Refers.arranged {sheet : Option Text} {tokens rest : List Token} {value : Expr}
    (refers : Refers sheet tokens value) (delimited : Delimited rest) (later : Arranged rest) :
    Arranged (tokens ++ rest) := by
  cases refers with
  | cell => exact ⟨.inl delimited, later⟩
  | range => exact ⟨.inr ⟨_, _, rfl, rfl, delimited⟩, trivial, .inl delimited, later⟩
  | columns | rows => exact ⟨trivial, trivial, trivial, later⟩

theorem Refers.isWord {sheet : Option Text} {tokens rest : List Token} {value : Expr}
    (refers : Refers sheet tokens value) : ∀ next ∈ (tokens ++ rest).head?, next.isWord = true := by
  cases refers with
  | cell | range | columns | rows =>
      rintro next ⟨⟩
      rfl

/-- The tokens of an expression are arranged. -/
theorem Layout.arranged {tokens : List Token} {found : List Draft.Target}
    (layout : Layout tokens found) : Arranged tokens := by
  induction layout with
  | nil => trivial
  | mark isMark _ inductionHypothesis => exact ⟨Token.admits_of_isMark isMark _, inductionHypothesis⟩
  | call _ inductionHypothesis => exact ⟨trivial, trivial, inductionHypothesis⟩
  | constant isConstant delimited _ inductionHypothesis =>
      refine ⟨Token.admits_of_delimited ?_ delimited, inductionHypothesis⟩
      rintro _ rfl
      cases isConstant
  | reference refers delimited _ inductionHypothesis =>
      exact refers.arranged delimited inductionHypothesis
  | qualified refers delimited _ inductionHypothesis =>
      exact ⟨refers.isWord, refers.arranged delimited inductionHypothesis⟩

end Formula

namespace Draft

open Formula (Lexeme Arranged Delimited continuesIdentifier)

variable {text rest following word run : Text} {first : Char} {start count : Nat}
  {lexemes later : List Lexeme} {token : Option Formula.Token}

/-! ## Words -/

theorem stops_inName (stops : Stops continuesIdentifier rest) : Stops Token.inName rest := by
  refine stops.mono fun next isName => ?_
  simp only [Token.inName, Bool.or_eq_true, decide_eq_true_eq] at isName
  rcases isName with (isAlphanum | rfl) | rfl
  · simp [continuesIdentifier, Formula.Token.inIdentifier, isAlphanum]
  · rfl
  · rfl

/-- A word is a qualifier only in front of an exclamation mark. -/
theorem qualifierLength?_word (begins : Formula.Token.beginsIdentifier first = true)
    (inside : ∀ character ∈ word, Formula.Token.inIdentifier character = true)
    (stops : Stops continuesIdentifier rest) :
    Token.qualifierLength? (first :: word ++ rest) = none := by
  have plain := plain_of_class (by decide) (inRun_of_identifier begins inside)
  have notQuote : first ≠ SheetName.quote := (plain first List.mem_cons_self).2
  by_contra qualified
  obtain ⟨length, found⟩ := Option.ne_none_iff_exists'.mp qualified
  obtain ⟨name, named, found⟩ := Option.bind_eq_some_iff.mp found
  rw [List.cons_append, Token.qualifierNameLength?, if_neg notQuote, ← List.cons_append,
    Token.identifierLength?_append (stops_inName stops)] at named
  rw [List.drop_append_of_le_length (Token.identifierLength?_le named)] at found
  cases dropped : (first :: word).drop name with
  | nil =>
      rw [dropped, List.nil_append] at found
      split at found
      · cases Text.stops_cons.mp stops
      · cases found
  | cons next others =>
      have notMark := (plain next (List.mem_of_mem_drop (dropped ▸ List.mem_cons_self))).1
      simp [dropped, notMark] at found

/-- Neither blanks nor words are qualifiers. -/
theorem qualifierLength?_of_isWord (apart : Lexeme.Apart lexemes)
    (words : ∀ next ∈ (Lexeme.tokens lexemes).head?, next.isWord = true) :
    Token.qualifierLength? (Lexeme.written lexemes) = none := by
  cases lexemes with
  | nil => rfl
  | cons lexeme later =>
      obtain ⟨first, following, token, count, rfl, scans, _, _⟩ := apart.exists_scans
      rw [Lexeme.written_cons]
      cases scans with
      | blank listed =>
          exact Token.qualifierLength?_eq_none
            (not_beginsArea_of_isBlank (Formula.isBlank_of_mem_separators listed))
      | mark listed =>
          have isWord := words _ rfl
          rw [Formula.Token.noWord_of_isListed (Formula.Token.isListed_of_mem_marks listed)] at isWord
          cases isWord
      | longMark listed =>
          have isWord := words _ rfl
          rw [Formula.Token.noWord_of_isListed (Formula.Token.isListed_of_mem_longMarks listed)]
            at isWord
          cases isWord
      | error | text | quotedName | plainName => cases words _ rfl
      | number begins _ read =>
          obtain ⟨decimal, read⟩ := Formula.Token.exists_decimal begins read
          exact qualifierLength?_numeral read _
      | identifier begins inside named =>
          have isWord := Formula.Token.isWord_of_isNamed (Formula.Token.isNamed_of_ofIdentifier named)
          exact qualifierLength?_word begins inside (apart.stops_of_isWord isWord)

/-! ## Cells -/

section Cells

variable {named : Formula.Token}

/-- A reference can end after a cell. -/
theorem isBoundary_of_admits (apart : Lexeme.Apart (⟨text, some named⟩ :: later))
    (isCell : named.isCell = true) (admits : named.Admits (Lexeme.tokens later)) :
    Token.isBoundary (Lexeme.written later) = true := by
  have noCall : (Lexeme.tokens later).head? ≠ some .openParenthesis := by
    intro isOpen
    cases named <;> cases isCell
    rcases admits with delimited | ⟨_, _, tokensEq, _⟩
    · cases delimited _ isOpen
    · rw [tokensEq] at isOpen
      cases isOpen
  have isWord := Formula.Token.isWord_of_isCell isCell
  refine isBoundary_iff.mpr ⟨apart.stops_of_isWord isWord, fun isOpen => ?_⟩
  obtain ⟨rest, writtenEq⟩ := List.head?_eq_some_iff.mp isOpen
  obtain ⟨_, _, _, step, rfl, _⟩ := apart.tail.exists_cons writtenEq 0
  cases step
  exact noCall rfl

/-- What is read as a cell where a formula has a cell is that cell, and a reference can end after
it. -/
theorem isBoundary_of_corner (apart : Lexeme.Apart lexemes) {other : Formula.Token}
    {after : List Formula.Token} (tokensEq : Lexeme.tokens lexemes = other :: after)
    (isCell : other.isCell = true) (delimited : Delimited after) {cell : WrittenCell}
    (read : WrittenCell.read? (Lexeme.written lexemes) = some (cell, rest)) :
    Token.isBoundary rest = true := by
  cases lexemes with
  | nil => cases tokensEq
  | cons lexeme later =>
      obtain ⟨first, following, token, count, rfl, scans, _, _⟩ := apart.exists_scans
      rw [Lexeme.tokens_cons] at tokensEq
      rw [Lexeme.written_cons] at read
      cases token with
      | none =>
          have noBlank : Formula.Token.separators.all
              (fun blank => !Formula.Token.beginsIdentifier blank) = true := by
            decide
          obtain ⟨spelled, _⟩ := WrittenCell.wellSpelled_of_read? read
          obtain ⟨_, _, textEq, begins, _⟩ := Formula.exists_cell_word spelled
          have same := WrittenCell.eq_append_of_read? read
          rw [textEq] at same
          obtain ⟨rfl, _⟩ := List.cons.inj same
          have blank := List.all_eq_true.mp noBlank _ scans.of_none
          rw [begins] at blank
          cases blank
      | some found =>
          obtain ⟨rfl, rfl⟩ := List.cons.inj tokensEq
          have admits : found.Admits (Lexeme.tokens later) :=
            Formula.Token.admits_of_delimited (by rintro _ rfl; cases isCell) delimited
          have boundary := isBoundary_of_admits apart isCell admits
          cases found <;> cases isCell
          obtain ⟨written, isWhole, _⟩ := scans.of_cell
          obtain ⟨spelled, _⟩ := WrittenCell.wellSpelled_of_read? isWhole
          have stops := stops_inCell ((isBoundary_iff.mp boundary).1)
          rw [WrittenCell.read?_append stops, isWhole] at read
          cases read
          exact boundary

/-- A cell begins a reference. -/
theorem exists_referenceLength?_cell {cell : WrittenCell} (spelled : cell.WellSpelled)
    (apart : Lexeme.Apart (⟨cell.text, some named⟩ :: later)) (isCell : named.isCell = true)
    (admits : named.Admits (Lexeme.tokens later)) :
    ∃ length, Token.referenceLength? (cell.text ++ Lexeme.written later) = some length := by
  have isWord := Formula.Token.isWord_of_isCell isCell
  have unqualified : Token.qualifierLength? (cell.text ++ Lexeme.written later) = none :=
    qualifierLength?_of_isWord apart (by rintro _ ⟨⟩; exact isWord)
  have boundary := isBoundary_of_admits apart isCell admits
  have read : WrittenCell.read? (cell.text ++ Lexeme.written later) =
      some (cell, Lexeme.written later) :=
    spelled.read? ((stops_inCell (isBoundary_iff.mp boundary).1).mono fun _ =>
      WrittenCell.inCell_of_isDigit)
  obtain ⟨length, area, atEnd⟩ : ∃ length,
      Token.cellsLength? (cell.text ++ Lexeme.written later) = some length ∧
        Token.isBoundary ((cell.text ++ Lexeme.written later).drop length) = true := by
    unfold Token.cellsLength?
    rw [read]
    simp only [Option.bind_eq_bind, Option.bind_some]
    split
    · next afterColon writtenEq =>
        split
        · next second rest secondRead =>
            obtain ⟨others, rfl, apartOthers, rfl⟩ := apart.tail.exists_colon writtenEq
            cases named <;> cases isCell
            rcases admits with delimited | ⟨other, after, tokensEq, otherCell, delimited⟩
            · cases delimited .colon rfl
            · have tokensEq : Lexeme.tokens others = other :: after := (List.cons.inj tokensEq).2
              have split := WrittenCell.eq_append_of_read? secondRead
              have ends := isBoundary_of_corner apartOthers tokensEq otherCell delimited secondRead
              refine ⟨_, rfl, ?_⟩
              rw [writtenEq, split, Nat.add_assoc, List.drop_length_add_append, Nat.add_comm 1,
                List.drop_succ_cons, List.drop_left]
              exact ends
        · exact ⟨_, rfl, by rw [List.drop_left]; exact boundary⟩
    · exact ⟨_, rfl, by rw [List.drop_left]; exact boundary⟩
  refine ⟨length, ?_⟩
  rw [Token.referenceLength?, unqualified]
  simp only [Option.getD_none, List.drop_zero, Token.areaLength?, area, Nat.zero_add]
  exact if_pos atEnd

end Cells

/-! ## Words that a draft cuts into pieces -/

theorem inText_mark (alone : Token.standsAlone first = true)
    (short : Token.longOperatorRule (first :: following) = none) (start : Nat) :
    PlacedCell.inText start (first :: following) = PlacedCell.inText (start + 1) following :=
  PlacedCell.inText_of_other (Token.classify_of_standsAlone alone short)
    (punctuationKind_ne_reference first) start

/-- A name with an exclamation mark after it adds nothing to the cells of what follows. -/
theorem inText_name (inside : ∀ character ∈ run, inRun character = true)
    (unqualified : Token.qualifierLength? rest = none) (start : Nat) :
    PlacedCell.inText start (run ++ '!' :: rest) =
      PlacedCell.inText (start + (run.length + 1)) rest := by
  induction lengthEq : run.length using Nat.strong_induction_on generalizing run start with
  | _ length inductionHypothesis =>
      cases run with
      | nil =>
          subst lengthEq
          exact inText_mark rfl (Token.longOperatorRule_eq_none (by decide) (by decide)) start
      | cons first following =>
          by_cases isName : (first.isAlpha = true ∨ first = '_') ∧
              ∀ character ∈ following, Token.inName character = true
          · have same := (Qualifies.plain isName.1 isName.2).inText_eq unqualified start
            subst lengthEq
            simpa using same
          · have unqualifiedRun := qualifierLength?_run inside isName rest
            have unread := referenceLength?_run_eq_none inside isName rest
            obtain ⟨solid, notOperator⟩ := solid_of_inRun (inside first List.mem_cons_self)
            obtain ⟨count, fits, same⟩ := PlacedCell.inText_step solid unqualifiedRun unread
              (Text.stops_cons.mpr rfl) (fun _ => Text.stops_cons.mpr rfl) notOperator start
            have left : (following.drop count).length < length := by
              rw [← lengthEq, List.length_drop, List.length_cons]
              omega
            have insideLeft : ∀ character ∈ following.drop count, inRun character = true :=
              fun character member =>
                inside character (List.mem_cons_of_mem _ (List.mem_of_mem_drop member))
            rw [List.cons_append, same, inductionHypothesis _ left insideLeft _ rfl,
              List.length_drop, ← lengthEq, List.length_cons]
            congr 1
            omega

/-- A qualifier has no cells. -/
theorem inText_qualifier {sheet : Text}
    (scans : Formula.Token.Scans first following (some (.qualifier sheet)) count)
    (fits : count ≤ following.length) (nonempty : sheet ≠ [])
    (unqualified : Token.qualifierLength? (following.drop count) = none) (start : Nat) :
    PlacedCell.inText start (first :: following) =
      PlacedCell.inText (start + (count + 1)) (following.drop count) := by
  rcases scans.of_qualifier with
    ⟨rest, textEq, restEq⟩ | ⟨rest, textEq, restEq, others, rfl, begins, inside⟩
  · have length := congrArg List.length textEq
    have left := congrArg List.length restEq
    rw [restEq] at unqualified ⊢
    rw [textEq, (Qualifies.quoted nonempty).inText_eq unqualified]
    rw [List.length_append, List.length_cons] at length
    rw [List.length_drop] at left
    congr 1
    omega
  · have length := congrArg List.length textEq
    have left := congrArg List.length restEq
    rw [restEq] at unqualified ⊢
    rw [textEq, inText_name (inRun_of_identifier begins inside) unqualified]
    simp only [List.length_append, List.length_cons] at length ⊢
    rw [List.length_drop] at left
    congr 1
    omega

theorem not_isDigit_of_lettered {character : Char}
    (lettered : character.isAlpha = true ∨ character = '$') : character.isDigit = false :=
  not_isDigit_of_inColumns (inColumns_of_lettered lettered)

theorem beginsIdentifier_of_lettered (lettered : first.isAlpha = true ∨ first = '$') :
    Formula.Token.beginsIdentifier first = true := by
  rcases lettered with isAlpha | rfl
  · simp [Formula.Token.beginsIdentifier, isAlpha]
  · rfl

theorem inIdentifier_of_lettered {character : Char}
    (lettered : character.isAlpha = true ∨ character = '$') :
    Formula.Token.inIdentifier character = true := by
  rcases lettered with isAlpha | rfl
  · simp [Formula.Token.inIdentifier, Char.isAlphanum, isAlpha]
  · rfl

/-- A reference that begins with columns is a column, a colon and another column. -/
theorem exists_lexemes_of_columns (apart : Lexeme.Apart later)
    (stops : Stops continuesIdentifier (Lexeme.written later))
    (lettered : ∀ character ∈ run, character.isAlpha = true ∨ character = '$') {length : Nat}
    (found : Token.areaLength? (run ++ Lexeme.written later) = some length)
    (boundary : Token.isBoundary ((run ++ Lexeme.written later).drop length) = true) :
    ∃ skipped others, later = skipped ++ others ∧
      (run ++ Lexeme.written later).take length = run ++ Lexeme.written skipped ∧
      ∀ character ∈ run ++ Lexeme.written skipped, character.isDigit = false := by
  have split := (List.take_append_drop length (run ++ Lexeme.written later)).symm
  have noDigit : ∀ character ∈ run, character.isDigit = false := fun character member =>
    not_isDigit_of_lettered (lettered character member)
  have insideRun : ∀ character ∈ run, WrittenCell.inCell character = true := by
    intro character member
    rcases lettered character member with isAlpha | rfl
    · exact WrittenCell.inCell_of_isAlpha isAlpha
    · rfl
  have afterStops := (isBoundary_iff.mp boundary).1
  -- The run ends where the first part does, so the part has no digits.
  have same {numbered : Bool} {front after : Text} (part : AreaPart numbered front)
      (outside : Stops WrittenCell.inCell after)
      (splitFront : run ++ Lexeme.written later = front ++ after) :
      numbered = false ∧ run = front ∧ Lexeme.written later = after := by
    obtain ⟨rfl, writtenEq⟩ :=
      Text.run_inj insideRun part.inCell (stops_inCell stops) outside splitFront
    refine ⟨?_, rfl, writtenEq⟩
    cases numbered with
    | false => rfl
    | true =>
        obtain ⟨digit, member, isDigit⟩ := part.exists_digit
        rw [noDigit digit member] at isDigit
        cases isDigit
  rcases areaLength?_parts found with
    ⟨cell, spelled, cellEq⟩ | ⟨numbered, front, back, pairEq, isFront, isBack⟩
  · rw [cellEq] at split
    cases (same (.cell spelled) (stops_inCell afterStops) split).1
  · rw [pairEq, List.append_assoc, List.cons_append] at split
    obtain ⟨rfl, rfl, writtenEq⟩ := same isFront (Text.stops_cons.mpr rfl) split
    obtain ⟨afterColon, rfl, apartColon, writtenColon⟩ := apart.exists_colon writtenEq
    obtain ⟨token, others, rfl, _, _⟩ := isBack.exists_lexeme apartColon afterStops writtenColon
    have whole : Lexeme.written [⟨[':'], some .colon⟩, ⟨back, some token⟩] = ':' :: back := by simp
    refine ⟨[⟨[':'], some .colon⟩, ⟨back, some token⟩], others, rfl, ?_, ?_⟩
    · rw [pairEq, whole]
    · rw [whole, List.forall_mem_append, List.forall_mem_cons]
      exact ⟨noDigit, rfl, isBack.not_isDigit_of_column⟩

/-- So a reference that begins with columns has no cells. -/
theorem inText_of_columns (apart : Lexeme.Apart later)
    (stops : Stops continuesIdentifier (Lexeme.written later))
    (lettered : ∀ character ∈ run, character.isAlpha = true ∨ character = '$')
    (unqualified : Token.qualifierLength? (run ++ Lexeme.written later) = none) {length : Nat}
    (found : Token.referenceLength? (run ++ Lexeme.written later) = some length) (start : Nat) :
    ∃ skipped others, later = skipped ++ others ∧
      PlacedCell.inText start (run ++ Lexeme.written later) =
        PlacedCell.inText (start + (run.length + (Lexeme.written skipped).length))
          (Lexeme.written others) := by
  obtain ⟨area, boundary⟩ := areaLength?_of_referenceLength? unqualified found
  obtain ⟨skipped, others, rfl, taken, noDigit⟩ :=
    exists_lexemes_of_columns apart stops lettered area boundary
  have noCells := PlacedCell.inArea_skip (.inl noDigit) Text.stops_nil start
  rw [List.append_nil, PlacedCell.inArea_nil] at noCells
  have reaches : length = (run ++ Lexeme.written skipped).length := by
    rw [← taken, List.length_take_of_le (Token.referenceLength?_le found)]
  have dropped : (run ++ Lexeme.written (skipped ++ others)).drop length = Lexeme.written others := by
    rw [reaches, Lexeme.written_append, ← List.append_assoc, List.drop_left]
  refine ⟨skipped, others, rfl, ?_⟩
  rw [PlacedCell.inText_of_referenceLength? unqualified found, taken, noCells, dropped,
    List.nil_append, reaches, List.length_append]

/-- Columns have no cells. -/
theorem inText_columns (apart : Lexeme.Apart later)
    (stops : Stops continuesIdentifier (Lexeme.written later))
    (lettered : ∀ character ∈ run, character.isAlpha = true ∨ character = '$') (start : Nat) :
    ∃ skipped others, later = skipped ++ others ∧
      PlacedCell.inText start (run ++ Lexeme.written later) =
        PlacedCell.inText (start + (run.length + (Lexeme.written skipped).length))
          (Lexeme.written others) := by
  induction lengthEq : run.length using Nat.strong_induction_on generalizing run start with
  | _ length inductionHypothesis =>
      subst lengthEq
      cases run with
      | nil => exact ⟨[], later, rfl, by simp⟩
      | cons first following =>
          obtain ⟨firstLettered, followingLettered⟩ := List.forall_mem_cons.mp lettered
          have begins := beginsIdentifier_of_lettered firstLettered
          have unqualified := qualifierLength?_word begins
            (fun character member => inIdentifier_of_lettered (followingLettered character member))
            stops
          cases found : Token.referenceLength? (first :: following ++ Lexeme.written later) with
          | some length => exact inText_of_columns apart stops lettered unqualified found start
          | none =>
              have notNumber : ¬(first.isDigit = true ∨ first = '.') := by
                rw [not_isDigit_of_lettered firstLettered]
                rintro (isDigit | rfl)
                · cases isDigit
                · cases begins
              obtain ⟨solid, notOperator⟩ := solid_of_inRun (inRun_of_beginsIdentifier begins)
              obtain ⟨count, fits, same⟩ := PlacedCell.inText_step solid unqualified found
                (stops_inName stops) (fun number => absurd number notNumber) notOperator start
              have left : (following.drop count).length < (first :: following).length := by
                rw [List.length_drop, List.length_cons]
                omega
              have letteredLeft : ∀ character ∈ following.drop count,
                  character.isAlpha = true ∨ character = '$' := fun character member =>
                followingLettered character (List.mem_of_mem_drop member)
              obtain ⟨skipped, others, split, laterSame⟩ :=
                inductionHypothesis _ left letteredLeft (start + (count + 1)) rfl
              refine ⟨skipped, others, split, ?_⟩
              rw [List.cons_append, same, laterSame, List.length_drop, List.length_cons]
              congr 1
              omega

/-! ## Lexemes and the cells after them -/

/-- Whether the cells of a text are among its first lexemes, or those of the text after them. -/
def Passes (start : Nat) (lexemes : List Lexeme) : Prop :=
  ∃ before later, lexemes = before ++ later ∧ before ≠ [] ∧
    ∀ placed ∈ PlacedCell.inText start (Lexeme.written lexemes),
      placed.StandsIn start before ∨
        placed ∈ PlacedCell.inText (start + (Lexeme.written before).length) (Lexeme.written later)

theorem Passes.of_eq {before : List Lexeme} (nonempty : before ≠ [])
    (same : PlacedCell.inText start (Lexeme.written (before ++ later)) =
      PlacedCell.inText (start + (Lexeme.written before).length) (Lexeme.written later)) :
    Passes start (before ++ later) :=
  ⟨before, later, rfl, nonempty, fun _ member => .inr (same ▸ member)⟩

/-- The cells of a reference are lexemes. -/
theorem Passes.of_reference (apart : Lexeme.Apart lexemes)
    (unqualified : Token.qualifierLength? (Lexeme.written lexemes) = none) {length : Nat}
    (found : Token.referenceLength? (Lexeme.written lexemes) = some length) (start : Nat) :
    Passes start lexemes := by
  obtain ⟨area, boundary⟩ := areaLength?_of_referenceLength? unqualified found
  obtain ⟨before, later, rfl, nonempty, writtenBefore, writtenLater, cells⟩ :=
    exists_lexemes_of_area apart area boundary start
  refine ⟨before, later, rfl, nonempty, fun placed member => ?_⟩
  rw [PlacedCell.inText_of_referenceLength? unqualified found, ← writtenBefore, ← writtenLater]
    at member
  rcases List.mem_append.mp member with inArea | after
  · exact .inl (cells placed inArea)
  · right
    rwa [writtenBefore, List.length_take_of_le (Token.referenceLength?_le found)]

section Steps

variable (fits : count ≤ following.length)
  (writtenLater : Lexeme.written later = following.drop count)

include writtenLater

theorem written_step :
    Lexeme.written (⟨first :: following.take count, token⟩ :: later) = first :: following := by
  rw [Lexeme.written_cons, writtenLater, List.cons_append, List.take_append_drop]

include fits

/-- A lexeme without cells. -/
theorem Passes.of_step
    (same : PlacedCell.inText start (first :: following) =
      PlacedCell.inText (start + (count + 1)) (following.drop count)) :
    Passes start (⟨first :: following.take count, token⟩ :: later) := by
  show Passes start ([⟨first :: following.take count, token⟩] ++ later)
  refine .of_eq (List.cons_ne_nil _ _) ?_
  have length : (first :: following.take count).length = count + 1 := by
    rw [List.length_cons, List.length_take_of_le fits]
  rw [List.singleton_append, written_step writtenLater, same, writtenLater, Lexeme.written_cons,
    Lexeme.written_nil, List.append_nil, length]

/-- A number is a part of a reference or has no cells. -/
theorem passes_number {value : Binary64}
    (apart : Lexeme.Apart (⟨first :: following.take count, some (.number value)⟩ :: later))
    (scans : Formula.Token.Scans first following (some (.number value)) count) (start : Nat) :
    Passes start (⟨first :: following.take count, some (.number value)⟩ :: later) := by
  have unqualified := qualifierLength?_of_isWord apart (by rintro _ ⟨⟩; rfl)
  cases found : Token.referenceLength? (first :: following) with
  | some length =>
      exact .of_reference apart unqualified (by rwa [written_step writtenLater]) start
  | none =>
      obtain ⟨decimal, read⟩ := scans.of_number
      have stops := Formula.Token.stops_continuesDigits (apart.stops_of_isWord rfl)
      rw [writtenLater] at stops
      have unread : Token.referenceLength? (first :: following.take count ++ following.drop count) =
          none := by
        rwa [List.cons_append, List.take_append_drop]
      have classified := classify_numeral read stops unread
      rw [List.take_append_drop, List.length_take_of_le fits] at classified
      exact .of_step fits writtenLater (PlacedCell.inText_of_other classified (by decide) start)

/-- A name is a part of a reference or has no cells. -/
theorem passes_identifier {name : Text}
    (apart : Lexeme.Apart (⟨first :: following.take count, some (.identifier name)⟩ :: later))
    (scans : Formula.Token.Scans first following (some (.identifier name)) count) (start : Nat) :
    Passes start (⟨first :: following.take count, some (.identifier name)⟩ :: later) := by
  have unqualified := qualifierLength?_of_isWord apart (by rintro _ ⟨⟩; rfl)
  have stops := apart.stops_of_isWord rfl
  cases found : Token.referenceLength? (first :: following) with
  | some length =>
      exact .of_reference apart unqualified (by rwa [written_step writtenLater]) start
  | none =>
      obtain ⟨begins, inside, _, _, marked⟩ := scans.of_identifier
      by_cases isMarked : '$' ∈ first :: following.take count
      · obtain ⟨column, isColumn⟩ := Option.isSome_iff_exists.mp (marked isMarked)
        obtain ⟨skipped, others, rfl, same⟩ :=
          inText_columns apart.tail stops (Formula.lettered_of_number? isColumn) start
        show Passes start ((⟨first :: following.take count, some (.identifier name)⟩ :: skipped) ++
          others)
        refine .of_eq (List.cons_ne_nil _ _) ?_
        rw [List.cons_append, Lexeme.written_cons, Lexeme.written_cons, List.length_append]
        exact same
      · obtain ⟨beginsName, insideName⟩ := isName_of_unmarked begins inside isMarked
        rw [writtenLater] at stops
        have named := Token.identifierLength?_run beginsName insideName (stops_inName stops)
        rw [written_step writtenLater] at unqualified
        rw [List.take_append_drop, List.length_take_of_le fits] at named
        obtain ⟨kind, classified, letters⟩ := classify_identifier unqualified found named
        exact .of_step fits writtenLater (PlacedCell.inText_of_letters classified letters start)

end Steps

/-- The first lexeme of a formula is a part of a reference or has no cells. -/
theorem passes_cons {lexeme : Lexeme} (apart : Lexeme.Apart (lexeme :: later))
    (admits : ∀ token ∈ lexeme.token, token.Admits (Lexeme.tokens later))
    (nonempty : lexeme.token ≠ some (.qualifier [])) (start : Nat) :
    Passes start (lexeme :: later) := by
  obtain ⟨first, following, token, count, rfl, scans, fits, writtenLater⟩ := apart.exists_scans
  have pass (same : PlacedCell.inText start (first :: following) =
      PlacedCell.inText (start + (count + 1)) (following.drop count)) :
      Passes start (⟨first :: following.take count, token⟩ :: later) :=
    .of_step fits writtenLater same
  cases token with
  | none =>
      cases scans with
      | blank listed =>
          have isBlank := Formula.isBlank_of_mem_separators listed
          exact pass (PlacedCell.inText_blank isBlank following start)
  | some found =>
      by_cases listed : found.isListed = true
      · obtain ⟨kind, other, classified⟩ := classify_listed scans listed
        exact pass (PlacedCell.inText_of_other classified other start)
      · cases found with
        | number value => exact passes_number fits writtenLater apart scans start
        | identifier name => exact passes_identifier fits writtenLater apart scans start
        | cell address columnAbsolute rowAbsolute =>
            obtain ⟨cell, isWhole, _⟩ := scans.of_cell
            obtain ⟨spelled, _⟩ := WrittenCell.wellSpelled_of_read? isWhole
            have unqualified := qualifierLength?_of_isWord apart (by rintro _ ⟨⟩; rfl)
            rw [← WrittenCell.text_of_whole isWhole] at apart unqualified ⊢
            obtain ⟨length, found⟩ := exists_referenceLength?_cell spelled apart rfl (admits _ rfl)
            exact .of_reference apart unqualified found start
        | text content =>
            obtain ⟨rfl, read⟩ := scans.of_text
            have classified := Token.classify_quote following
            rw [read] at classified
            exact pass (PlacedCell.inText_of_other classified (by decide) start)
        | error literal =>
            obtain ⟨rfl, found, rfl⟩ := scans.of_error
            have classified := Token.classify_errorLiteral found
            exact pass (PlacedCell.inText_of_other classified (by decide) start)
        | qualifier sheet =>
            have named : sheet ≠ [] := by
              rintro rfl
              exact nonempty rfl
            have words : ∀ next ∈ (Lexeme.tokens later).head?, next.isWord = true := admits _ rfl
            have unqualified := qualifierLength?_of_isWord apart.tail words
            rw [writtenLater] at unqualified
            exact pass (inText_qualifier scans fits named unqualified start)
        | _ => exact absurd rfl listed

/-- The cells that a draft finds in a formula are lexemes of the formula. -/
theorem standsIn_of_mem_inText (apart : Lexeme.Apart lexemes)
    (arranged : Arranged (Lexeme.tokens lexemes))
    (named : Formula.Token.qualifier [] ∉ Lexeme.tokens lexemes) {placed : PlacedCell}
    (member : placed ∈ PlacedCell.inText start (Lexeme.written lexemes)) :
    placed.StandsIn start lexemes := by
  induction lengthEq : lexemes.length using Nat.strong_induction_on generalizing lexemes start with
  | _ length inductionHypothesis =>
      cases lexemes with
      | nil =>
          rw [Lexeme.written_nil, PlacedCell.inText_nil] at member
          cases member
      | cons lexeme others =>
          have admits : ∀ token ∈ lexeme.token, token.Admits (Lexeme.tokens others) := by
            intro token isToken
            rw [Lexeme.tokens_cons, isToken] at arranged
            exact arranged.1
          have nonempty : lexeme.token ≠ some (.qualifier []) := by
            intro isQualifier
            simp [Lexeme.tokens_cons, isQualifier] at named
          obtain ⟨before, later, split, consumed, cells⟩ := passes_cons apart admits nonempty start
          rw [split] at apart arranged named lengthEq ⊢
          rw [Lexeme.tokens_append] at arranged named
          rcases cells placed member with stands | after
          · exact stands.append_right later
          · refine PlacedCell.StandsIn.append_left (inductionHypothesis later.length ?_
              apart.split.2.1 arranged.of_append ?_ after rfl)
            · rw [← lengthEq, List.length_append]
              have positive := List.length_pos_of_ne_nil consumed
              omega
            · exact fun isLater => named (List.mem_append_right _ isLater)

end Draft

end SheetEditor
