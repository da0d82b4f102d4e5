import SheetEditor.Draft.Reference
import SheetEditor.Proofs.Draft.Characters

/-!
Contract: what the references of a draft refer to, in the order of its text.

Owns: the targets of a text apart from offsets and colours, the tokens that have
none, and what a sheet qualifier adds to the cells that follow it.

Does not own: the operands of a formula (`SheetEditor.Proofs.Draft.Operands`).
-/

namespace SheetEditor.Draft

open Text (Stops)

variable {text rest following : Text} {first : Char}

/-! ## Resolving a text -/

namespace Target

/-- Cells are written with digits. -/
theorem exists_digit_of_rangeOf? {range : CellRange} (found : rangeOf? text = some range) :
    ∃ digit ∈ text, digit.isDigit = true := by
  obtain ⟨⟨cell, after⟩, read, _⟩ := Option.bind_eq_some_iff.mp found
  obtain ⟨_, nonempty, digits⟩ := WrittenCell.parts_of_read? read
  obtain ⟨digit, others, digitsEq⟩ := List.exists_cons_of_ne_nil nonempty
  have member : digit ∈ cell.digits := digitsEq ▸ List.mem_cons_self
  refine ⟨digit, ?_, digits digit member⟩
  rw [WrittenCell.eq_append_of_read? read, WrittenCell.text]
  simp [member]

/-- Cells begin with a letter or a mark. -/
theorem rangeOf?_eq_none (notLetter : first.isAlpha = false) (notMarker : first ≠ '$') :
    rangeOf? (first :: following) = none := by
  have unread : WrittenCell.read? (first :: following) = none := by
    simp [WrittenCell.read?, WrittenCell.splitMarker, notMarker, notLetter]
  rw [rangeOf?, unread]
  rfl

theorem ofText?_of_splitQualifier? {sheet : Option Text} {area : Text}
    (split : splitQualifier? text = some (sheet, area)) :
    ofText? text = (rangeOf? area).map (⟨·, sheet⟩) := by
  rw [ofText?, split]
  simp only [Option.bind_eq_bind, Option.bind_some]
  cases rangeOf? area <;> rfl

/-- Without quotes and exclamation marks there is no qualifier. -/
theorem ofText?_unqualified
    (plain : ∀ character ∈ text, character ≠ '!' ∧ character ≠ SheetName.quote) :
    ofText? text = (rangeOf? text).map (⟨·, none⟩) := by
  apply ofText?_of_splitQualifier?
  cases text with
  | nil => rfl
  | cons first following =>
      have unmarked : ∀ character ∈ first :: following, decide (character ≠ '!') = true :=
        fun character member => by simpa using (plain character member).1
      rw [splitQualifier?, if_neg (plain first List.mem_cons_self).2,
        List.span_eq_takeWhile_dropWhile, List.takeWhile_eq_self_iff.mpr unmarked,
        List.dropWhile_eq_nil_iff.mpr unmarked]

end Target

/-- What a token of a kind and a text refers to: nothing, unless it is a reference that
resolves. -/
def resolve? (kind : TokenKind) (text : Text) : Option Target :=
  if kind = .reference then Target.ofText? text else none

theorem resolve?_eq_none {kind : TokenKind} (other : kind ≠ .reference) (text : Text) :
    resolve? kind text = none :=
  if_neg other

theorem plain_of_class {inside : Char → Bool}
    (excluded : inside '!' = false ∧ inside SheetName.quote = false)
    (members : ∀ character ∈ text, inside character = true) :
    ∀ character ∈ text, character ≠ '!' ∧ character ≠ SheetName.quote := by
  intro character member
  have isInside := members character member
  constructor
  · rintro rfl
    rw [excluded.1] at isInside
    cases isInside
  · rintro rfl
    rw [excluded.2] at isInside
    cases isInside

/-- A text that is no cells and has no qualifier does not resolve. -/
theorem resolve?_eq_none_of_rangeOf? (kind : TokenKind)
    (plain : ∀ character ∈ text, character ≠ '!' ∧ character ≠ SheetName.quote)
    (noCells : Target.rangeOf? text = none) : resolve? kind text = none := by
  rw [resolve?, Target.ofText?_unqualified plain, noCells, Option.map_none, ite_self]

/-! ## All targets -/

/-- What the references of a text refer to, in its order. -/
def targets (text : Text) : List Target :=
  (Token.scanAll text).filterMap fun token => resolve? token.kind token.text

/-- What a token refers to, and where it stands. -/
def Token.place? (token : Token) : Option (Target × Nat × Nat) :=
  (resolve? token.kind token.text).map (·, token.start, token.stop)

/-- What a reference refers to, and where it stands. -/
def Reference.place (reference : Reference) : Target × Nat × Nat :=
  (reference.target, reference.start, reference.stop)

/-- A token that resolves is the next reference, with the next colour. -/
theorem Reference.ofTokensFrom_cons (found : Nat) (token : Token) (others : List Token) :
    ofTokensFrom found (token :: others) =
      match token.place? with
      | some (target, start, stop) =>
          ⟨target, start, stop, found % Palette.size⟩ :: ofTokensFrom (found + 1) others
      | none => ofTokensFrom found others := by
  rw [ofTokensFrom, Token.place?, resolve?]
  split
  · cases Target.ofText? token.text <;> rfl
  · rfl

/-- Colours aside, the references are the tokens that resolve. -/
theorem map_place_ofTokensFrom (found : Nat) (tokens : List Token) :
    (Reference.ofTokensFrom found tokens).map Reference.place = tokens.filterMap Token.place? := by
  induction tokens generalizing found with
  | nil => rfl
  | cons token others inductionHypothesis =>
      rw [List.filterMap_cons, Reference.ofTokensFrom_cons]
      cases token.place? with
      | none => exact inductionHypothesis found
      | some place => exact congrArg (place :: ·) (inductionHypothesis (found + 1))

/-- Offsets and colours aside, references are what their tokens refer to. -/
theorem map_target_ofTokensFrom (found : Nat) (tokens : List Token) :
    (Reference.ofTokensFrom found tokens).map Reference.target =
      tokens.filterMap fun token => resolve? token.kind token.text := by
  have places := congrArg (List.map Prod.fst) (map_place_ofTokensFrom found tokens)
  rw [List.map_map, List.map_filterMap] at places
  simpa [Token.place?, Function.comp_def, Reference.place] using places

theorem targets_nil : targets [] = [] := by
  rw [targets, Token.scanAll, Token.scanFrom_nil]
  rfl

/-- Targets do not depend on where a text begins. -/
theorem filterMap_scanFrom (start : Nat) (text : Text) :
    ((Token.scanFrom start text).filterMap fun token => resolve? token.kind token.text) =
      targets text := by
  unfold targets Token.scanAll
  generalize 0 = other
  induction text using Token.scan_induction generalizing start other with
  | nil => rw [Token.scanFrom_nil, Token.scanFrom_nil]
  | cons first following inductionHypothesis =>
      rw [Token.scanFrom_cons, Token.scanFrom_cons, List.filterMap_cons, List.filterMap_cons,
        inductionHypothesis _ (other + ((Token.classify first following).2 + 1))]

/-- The targets of a text are that of its first token and those of the rest. -/
theorem targets_of_classify {kind : TokenKind} {count : Nat}
    (classified : Token.classify first following = (kind, count)) :
    targets (first :: following) =
      (resolve? kind ((first :: following).take (count + 1))).toList ++
        targets ((first :: following).drop (count + 1)) := by
  have split := filterMap_scanFrom 0 (first :: following)
  rw [Token.scanFrom_cons, List.filterMap_cons, filterMap_scanFrom, classified] at split
  rw [← split, List.take_succ_cons, List.drop_succ_cons]
  cases resolve? kind (first :: following.take count) <;> rfl

/-- A token that refers to nothing can be left out. -/
theorem targets_of_unresolved {kind : TokenKind} {count : Nat}
    (classified : Token.classify first following = (kind, count))
    (unresolved : resolve? kind ((first :: following).take (count + 1)) = none) :
    targets (first :: following) = targets (following.drop count) := by
  rw [targets_of_classify classified, unresolved]
  rfl

theorem targets_of_other {kind : TokenKind} {count : Nat}
    (classified : Token.classify first following = (kind, count)) (other : kind ≠ .reference) :
    targets (first :: following) = targets (following.drop count) :=
  targets_of_unresolved classified (resolve?_eq_none other _)

/-- Blanks in front of a text can be left out. -/
theorem targets_blank (blank : isBlank first = true) (following : Text) :
    targets (first :: following) = targets following := by
  have skip (first : Char) (following : Text) (blank : isBlank first = true) :
      targets (first :: following) = targets (following.dropWhile isBlank) := by
    rw [targets_of_other (Token.classify_blank blank following) (by decide), Text.dropWhile_eq_drop]
  rw [skip first following blank]
  cases following with
  | nil => rfl
  | cons next others =>
      by_cases nextBlank : isBlank next = true
      · rw [skip next others nextBlank, List.dropWhile_cons_of_pos nextBlank]
      · rw [List.dropWhile_cons_of_neg nextBlank]

theorem targets_blanks (blanks : ∀ blank ∈ text, isBlank blank = true) (rest : Text) :
    targets (text ++ rest) = targets rest := by
  induction text with
  | nil => rfl
  | cons first text inductionHypothesis =>
      rw [List.forall_mem_cons] at blanks
      rw [List.cons_append, targets_blank blanks.1, inductionHypothesis blanks.2]

/-! ## Cells in front of a text -/

theorem not_beginsArea_of_isBlank (blank : isBlank first = true) :
    Token.beginsArea first = false := by
  by_contra begins
  rw [(Token.solid_of_beginsArea (by simpa using begins)).1] at blank
  cases blank

/-- A text that begins with cells that are a token, and not with a qualifier. -/
structure BeginsWithCells (text : Text) (range : CellRange) (after : Text) : Prop where
  unqualified : Token.qualifierLength? text = none
  cells : ∃ length, Token.referenceLength? text = some length ∧
    Target.rangeOf? (text.take length) = some range ∧ text.drop length = after

/-- A text whose first tokens are no cells and not a qualifier, with the text after these tokens. -/
structure BeginsWithoutCells (text after : Text) : Prop where
  unqualified : Token.qualifierLength? text = none
  noCells : ∀ length, Token.referenceLength? text = some length →
    Target.rangeOf? (text.take length) = none
  skipped : targets text = targets after

theorem plain_of_referenceLength? {length : Nat} (unqualified : Token.qualifierLength? text = none)
    (found : Token.referenceLength? text = some length) :
    0 < length ∧ ∀ character ∈ text.take length, inArea character = true := by
  obtain ⟨area, rfl, areaFound, _⟩ := Token.referenceLength?_cases found
  rw [unqualified, Option.getD_none, List.drop_zero] at areaFound
  rw [unqualified, Option.getD_none, Nat.zero_add]
  exact ⟨Token.areaLength?_pos areaFound, Token.inArea_of_areaLength? areaFound⟩

/-- A reference without a qualifier refers to the cells that it is written as. -/
theorem targets_of_referenceLength? {length : Nat}
    (unqualified : Token.qualifierLength? text = none)
    (found : Token.referenceLength? text = some length) :
    targets text = ((Target.rangeOf? (text.take length)).map (⟨·, none⟩)).toList ++
      targets (text.drop length) := by
  obtain ⟨positive, inside⟩ := plain_of_referenceLength? unqualified found
  have fits := Token.referenceLength?_le found
  obtain ⟨first, following, rfl⟩ : ∃ first following, text = first :: following :=
    List.exists_cons_of_length_pos (by omega)
  have count : length - 1 + 1 = length := by omega
  rw [targets_of_classify (Token.classify_reference found), count, resolve?, if_pos rfl,
    Target.ofText?_unqualified (plain_of_class (by decide) inside)]

theorem BeginsWithCells.targets_eq {range : CellRange} {after : Text}
    (begins : BeginsWithCells text range after) :
    targets text = ⟨range, none⟩ :: targets after := by
  obtain ⟨length, found, isRange, rfl⟩ := begins.cells
  rw [targets_of_referenceLength? begins.unqualified found, isRange]
  rfl

/-- A blank is no cells, and a blank in front of other text changes nothing. -/
theorem BeginsWithoutCells.blank {after : Text} (blank : isBlank first = true)
    (skipped : targets following = targets after) :
    BeginsWithoutCells (first :: following) after := by
  have outside := not_beginsArea_of_isBlank blank
  refine ⟨Token.qualifierLength?_eq_none outside, fun length found => ?_, ?_⟩
  · rw [Token.referenceLength?_eq_none outside] at found
    cases found
  · rw [targets_blank blank, skipped]

theorem BeginsWithoutCells.blanks {after : Text} (blanks : ∀ blank ∈ text, isBlank blank = true)
    (begins : BeginsWithoutCells rest after) : BeginsWithoutCells (text ++ rest) after := by
  cases text with
  | nil => exact begins
  | cons first following =>
      rw [List.forall_mem_cons] at blanks
      refine .blank blanks.1 ?_
      rw [List.append_eq, targets_blanks blanks.2, begins.skipped]

/-! ## Qualifiers -/

/-- A qualifier that a draft recognises, with the sheet that it names. -/
inductive Qualifies : Text → Text → Prop where
  | quoted {name : Text} (nonempty : name ≠ []) :
      Qualifies
        (SheetName.quote :: (Text.doubleQuotes SheetName.quote name ++ [SheetName.quote, '!'])) name
  | plain {first : Char} {following : Text} (begins : first.isAlpha = true ∨ first = '_')
      (inside : ∀ character ∈ following, Token.inName character = true) :
      Qualifies (first :: (following ++ ['!'])) (first :: following)

section Qualified

variable {qualifier sheet : Text}

/-- No name in quotes begins like one without. -/
theorem ne_quote_of_begins (begins : first.isAlpha = true ∨ first = '_') :
    first ≠ SheetName.quote := by
  rintro rfl
  rcases begins with isAlpha | isUnderscore
  · cases isAlpha
  · cases isUnderscore

theorem Qualifies.qualifierLength? (qualifies : Qualifies qualifier sheet) (rest : Text) :
    Token.qualifierLength? (qualifier ++ rest) = some qualifier.length := by
  cases qualifies with
  | quoted nonempty =>
      have read := Text.readQuoted?_closed sheet
        (Text.stops_cons.mpr (by decide) : Stops (· = SheetName.quote) ('!' :: rest))
      have marked : (Text.doubleQuotes SheetName.quote sheet ++ SheetName.quote :: '!' :: rest).drop
          ((Text.doubleQuotes SheetName.quote sheet).length + 1) = '!' :: rest := by
        rw [List.drop_length_add_append]
        rfl
      have found := Token.qualifierLength?_quoted read nonempty marked
      simpa using found
  | @plain first following begins inside =>
      have named := Token.identifierLength?_run begins inside
        (Text.stops_cons.mpr rfl : Stops Token.inName ('!' :: rest))
      have notQuote := ne_quote_of_begins begins
      rw [List.cons_append, List.append_assoc, List.singleton_append, Token.qualifierLength?,
        Token.qualifierNameLength?, if_neg notQuote, named]
      simp

theorem Qualifies.splitQualifier? (qualifies : Qualifies qualifier sheet) (area : Text) :
    Draft.splitQualifier? (qualifier ++ area) = some (some sheet, area) := by
  cases qualifies with
  | quoted nonempty =>
      have read := Text.readQuoted?_closed sheet
        (Text.stops_cons.mpr (by decide) : Stops (· = SheetName.quote) ('!' :: area))
      simp [Draft.splitQualifier?, read, nonempty]
  | @plain first following begins inside =>
      have notQuote := ne_quote_of_begins begins
      have unmarked : ∀ character ∈ first :: following, decide (character ≠ '!') = true := by
        have inside : ∀ character ∈ first :: following, Token.inName character = true :=
          List.forall_mem_cons.mpr ⟨Token.inName_of_begins begins, inside⟩
        exact fun character member =>
          decide_eq_true (plain_of_class (by decide) inside character member).1
      have stops : Stops (· ≠ '!') ('!' :: area) := Text.stops_cons.mpr (by decide)
      rw [List.cons_append, List.append_assoc, List.singleton_append, Draft.splitQualifier?,
        if_neg notQuote, List.span_eq_takeWhile_dropWhile, ← List.cons_append,
        Text.takeWhile_run unmarked stops, Text.dropWhile_append stops,
        List.dropWhile_eq_nil_iff.mpr unmarked]
      rfl

/-- A qualifier takes the reference after it into its token. -/
theorem Qualifies.referenceLength? (qualifies : Qualifies qualifier sheet)
    (unqualified : Token.qualifierLength? rest = none) :
    Token.referenceLength? (qualifier ++ rest) =
      (Token.referenceLength? rest).map (qualifier.length + ·) := by
  unfold Token.referenceLength?
  rw [qualifies.qualifierLength?, unqualified]
  simp only [Option.getD_some, Option.getD_none, List.drop_left, List.drop_zero, Nat.zero_add,
    List.drop_length_add_append]
  cases Token.areaLength? rest with
  | none => rfl
  | some area =>
      simp only [Option.bind_eq_bind, Option.bind_some]
      split <;> rfl

/-- A qualifier and the reference after it, if there is one, are a token. -/
theorem Qualifies.targets_eq (qualifies : Qualifies qualifier sheet)
    (unqualified : Token.qualifierLength? rest = none) :
    targets (qualifier ++ rest) =
      match Token.referenceLength? rest with
      | some length => ((Target.rangeOf? (rest.take length)).map (⟨·, some sheet⟩)).toList ++
          targets (rest.drop length)
      | none => targets rest := by
  obtain ⟨first, following, rfl⟩ : ∃ first following, qualifier = first :: following := by
    cases qualifies with
    | quoted | plain => exact ⟨_, _, rfl⟩
  have resolved (area : Text) : resolve? .reference (first :: following ++ area) =
      (Target.rangeOf? area).map (⟨·, some sheet⟩) :=
    Target.ofText?_of_splitQualifier? (qualifies.splitQualifier? area)
  have classified := Token.classify_qualifier (qualifies.qualifierLength? rest)
  have reference := qualifies.referenceLength? unqualified
  rw [List.cons_append] at reference
  simp only [List.append_eq] at classified
  rw [reference] at classified
  rw [List.cons_append, targets_of_classify classified]
  cases found : Token.referenceLength? rest with
  | none =>
      have alone := resolved []
      rw [List.append_nil] at alone
      have noCells : Target.rangeOf? [] = none := rfl
      simp only [Option.map_none, Option.getD_none, List.length_cons, Nat.add_sub_cancel]
      rw [← List.length_cons, ← List.cons_append, List.take_left, List.drop_left, alone, noCells]
      rfl
  | some length =>
      have count : (first :: following).length + length - 1 + 1 =
          (first :: following).length + length := by
        rw [List.length_cons]
        omega
      simp only [Option.map_some, Option.getD_some]
      rw [count, ← List.cons_append, List.take_length_add_append, List.drop_length_add_append,
        resolved]

/-- A qualifier right before cells puts them on its sheet. -/
theorem Qualifies.targets_of_cells (qualifies : Qualifies qualifier sheet) {range : CellRange}
    {after : Text} (begins : BeginsWithCells rest range after) :
    targets (qualifier ++ rest) = ⟨range, some sheet⟩ :: targets after := by
  obtain ⟨length, found, isRange, rfl⟩ := begins.cells
  rw [qualifies.targets_eq begins.unqualified, found]
  dsimp only
  rw [isRange]
  rfl

/-- Anything else after a qualifier has the targets that it has alone. -/
theorem Qualifies.targets_of_noCells (qualifies : Qualifies qualifier sheet) {after : Text}
    (begins : BeginsWithoutCells rest after) : targets (qualifier ++ rest) = targets after := by
  rw [qualifies.targets_eq begins.unqualified, ← begins.skipped]
  cases found : Token.referenceLength? rest with
  | none => rfl
  | some length =>
      dsimp only
      rw [targets_of_referenceLength? begins.unqualified found, begins.noCells length found]
      rfl

end Qualified

end SheetEditor.Draft
