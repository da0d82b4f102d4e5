import SheetEditor.Proofs.Draft.Picking
import SheetEditor.Proofs.Formula.Chain
import SheetEditor.Proofs.Formula.Lexeme

/-!
Contract: a picked range, as it is written into a formula, is one operand.

Owns: the tokens of cells, of ranges and of the qualifiers of sheets wherever they
stand in a body, and the operand that the tokens of a picked range form.

Does not own: what a draft makes of the same text
(`SheetEditor.Proofs.Draft.Picking`).
-/

namespace SheetEditor.Formula

open Text (Stops)
open Draft (pickedSheet? referenceText)

variable {text rest name : Text} {tokens : List Token} {first : Char} {following : Text}

/-! ## Single steps -/

/-- The tokens of a text, wherever in a body it stands. -/
def Scanned (text : Text) (tokens : List Token) : Prop :=
  ∀ position, Token.scanFrom position text = .ok tokens

theorem scanned_nil : Scanned [] [] := by
  intro position
  rw [Token.scanFrom]

theorem Scanned.cons {token : Token} {count : Nat}
    (step : ∀ position, Token.scan position first following = .ok (some token, count))
    (later : Scanned (following.drop count) tokens) :
    Scanned (first :: following) (token :: tokens) := by
  intro position
  rw [Token.scanFrom, step]
  simp only [bind, Except.bind]
  rw [later]
  rfl

theorem scan_of_begins (position : Nat) (begins : first.isAlpha = true ∨ first = '_') :
    Token.scan position first following = Token.scanIdentifier first following := by
  have notDigit : (first.isDigit || decide (first = '.')) = false := by
    rw [Bool.or_eq_false_iff, decide_eq_false_iff_not]
    rcases begins with isAlpha | rfl
    · refine ⟨?_, by rintro rfl; cases isAlpha⟩
      by_contra isDigit
      rw [Bool.not_eq_false] at isDigit
      rw [not_isAlpha_of_isDigit isDigit] at isAlpha
      cases isAlpha
    · exact ⟨rfl, by decide⟩
  have isName : (first.isAlpha || decide (first = '_') || decide (first = '$')) = true := by
    rcases begins with isAlpha | rfl
    · rw [isAlpha, Bool.true_or, Bool.true_or]
    · rfl
  unfold Token.scan
  split
  case h_25 => rw [notDigit, isName]; rfl
  all_goals rcases begins with isAlpha | same <;> contradiction

/-! ## Identifiers -/

/-- Whether a character could be read with the identifier before it, or makes it a qualifier. -/
def continuesIdentifier (character : Char) : Bool :=
  Token.inIdentifier character || character = '!'

theorem identifierLength_word (beforePoint : Bool)
    (word : ∀ character ∈ text, isWordCharacter character = true)
    (stops : Stops Token.inIdentifier rest) :
    Token.identifierLength beforePoint (text ++ rest) = text.length := by
  induction text with
  | nil =>
      cases rest with
      | nil => rfl
      | cons next others =>
          have outside : Token.inIdentifier next = false := Text.stops_cons.mp stops
          simp only [Token.inIdentifier, Bool.or_eq_false_iff, List.contains_cons,
            List.contains_nil, beq_eq_false_iff_ne] at outside
          simp [Token.identifierLength, outside]
  | cons character text inductionHypothesis =>
      rw [List.forall_mem_cons] at word
      have continues : (character.isAlphanum || decide (character = '_') ||
          (beforePoint && decide (character = '$'))) = true := by
        rw [Bool.or_eq_true]
        exact .inl word.1
      rw [List.cons_append, Token.identifierLength, if_pos continues, inductionHypothesis word.2]
      rfl

theorem ofIdentifier_name {address : CellAddress} (inBounds : address.InBounds) :
    Token.ofIdentifier address.name = .ok (.cell address false false) := by
  have read : WrittenCell.read? address.name = some (address.written, []) := by
    simpa using CellAddress.read?_name inBounds Text.stops_nil
  rw [Token.ofIdentifier, read]
  simp only [Option.bind_eq_bind, Option.bind_some, CellAddress.address?_written inBounds, if_true]
  rfl

/-- The name of a cell is that cell, unless it goes on or is a qualifier. -/
theorem scanned_cell {address : CellAddress} (inBounds : address.InBounds)
    (stops : Stops continuesIdentifier rest) (later : Scanned rest tokens) :
    Scanned (address.name ++ rest) (.cell address false false :: tokens) := by
  have word : ∀ character ∈ address.name, isWordCharacter character = true := by
    intro character member
    rw [isWordCharacter, address.isAlphanum_of_mem_name character member, Bool.true_or]
  have isCell := ofIdentifier_name inBounds
  obtain ⟨first, following, named, isAlpha⟩ := address.name_eq_cons
  rw [named] at isCell word ⊢
  have length := identifierLength_word true (List.forall_mem_cons.mp word).2
    (stops.mono fun next inside => by rw [continuesIdentifier, inside, Bool.true_or])
  have notMarked : ∀ others, rest ≠ '!' :: others := by
    rintro others rfl
    cases Text.stops_cons.mp stops
  have step (position : Nat) : Token.scan position first (following ++ rest) =
      .ok (some (.cell address false false), following.length) := by
    rw [scan_of_begins position (.inl isAlpha), Token.scanIdentifier]
    simp only [length, List.take_left, List.drop_left]
    rw [isCell]
    rfl
  refine Scanned.cons step ?_
  rwa [List.append_eq, List.drop_left]

/-! ## Ranges and qualifiers -/

/-- The tokens of the name of a range. -/
def rangeTokens (range : CellRange) : List Token :=
  if range.isSingle then [.cell range.start false false]
  else [.cell range.start false false, .colon, .cell range.stop false false]

theorem scanned_range {range : CellRange} (inBounds : range.InBounds)
    (stops : Stops continuesIdentifier rest) (later : Scanned rest tokens) :
    Scanned (range.name ++ rest) (rangeTokens range ++ tokens) := by
  obtain ⟨startInBounds, stopInBounds⟩ := inBounds
  unfold CellRange.name rangeTokens
  split
  · exact scanned_cell startInBounds stops later
  · have stopScanned : Scanned (range.stop.name ++ rest) (.cell range.stop false false :: tokens) :=
      scanned_cell stopInBounds stops later
    have colonScanned : Scanned (':' :: (range.stop.name ++ rest))
        (.colon :: .cell range.stop false false :: tokens) :=
      Scanned.cons (fun _ => rfl) stopScanned
    rw [List.append_assoc, List.cons_append]
    exact scanned_cell startInBounds (Text.stops_cons.mpr rfl) colonScanned

/-- The qualifier of a sheet is one step of the scan, quoted or not. -/
theorem exists_qualifier_step {sheet : Text} (nonempty : sheet ≠ []) :
    ∃ first following, SheetName.qualifier sheet = first :: following ∧
      ∀ position rest, Token.scan position first (following ++ rest) =
        .ok (some (.qualifier sheet), following.length) := by
  unfold SheetName.qualifier
  by_cases quoted : SheetName.needsQuoting sheet = true
  · rw [if_pos quoted]
    refine ⟨SheetName.quote, _, rfl, fun position rest => ?_⟩
    have read := Text.readQuoted?_closed sheet
      (Text.stops_cons.mpr (by decide) : Stops (· = SheetName.quote) ('!' :: rest))
    have written : Text.doubleQuotes SheetName.quote sheet ++ [SheetName.quote, '!'] ++ rest =
        Text.doubleQuotes SheetName.quote sheet ++ SheetName.quote :: '!' :: rest := by
      simp
    change Token.scanQuotedName position (_ ++ [SheetName.quote, '!'] ++ rest) = _
    rw [written, Token.scanQuotedName, read]
    simp
  · rw [if_neg quoted]
    obtain ⟨first, following, rfl, begins, word⟩ :=
      Draft.exists_word nonempty (by simpa using quoted)
    refine ⟨first, following ++ ['!'], rfl, fun position rest => ?_⟩
    have length := identifierLength_word true word
      (Text.stops_cons.mpr rfl : Stops Token.inIdentifier ('!' :: rest))
    rw [List.append_assoc, List.singleton_append, scan_of_begins position begins,
      Token.scanIdentifier]
    simp [length]

theorem scanned_qualifier {sheet : Text} (nonempty : sheet ≠ []) (later : Scanned rest tokens) :
    Scanned (SheetName.qualifier sheet ++ rest) (.qualifier sheet :: tokens) := by
  obtain ⟨first, following, written, step⟩ := exists_qualifier_step nonempty
  rw [written]
  refine Scanned.cons (fun position => step position rest) ?_
  rwa [List.append_eq, List.drop_left]

/-! ## Picked ranges -/

section Picked

variable {range : CellRange} {current : Text} {target : Option Text}

/-- The expression of a range on a sheet: a cell, or a block with its corners as picked. -/
def rangeExpression (sheet : Option Text) (range : CellRange) : Expr :=
  if range.isSingle then .cell sheet range.start false false
  else .range sheet range.start range.stop

/-- The tokens of a range on a sheet. -/
def pickedTokens (sheet : Option Text) (range : CellRange) : List Token :=
  (sheet.map Token.qualifier).toList ++ rangeTokens range

/-- The text of a picked range has these tokens, up to what could go on with it. -/
theorem scanned_referenceText (inBounds : range.InBounds) (nonempty : ∀ sheet ∈ target, sheet ≠ [])
    (stops : Stops continuesIdentifier rest) (later : Scanned rest tokens) :
    Scanned (referenceText range current target ++ rest)
      (pickedTokens (pickedSheet? current target) range ++ tokens) := by
  have area := scanned_range inBounds stops later
  rcases Draft.referenceText_cases range current target with
    ⟨unnamed, written⟩ | ⟨sheet, onScreen, named, written⟩
  · rwa [written, unnamed]
  · rw [written, named, List.append_assoc]
    exact scanned_qualifier (nonempty sheet onScreen) area

theorem refers_rangeTokens (sheet : Option Text) (range : CellRange) :
    Refers sheet (rangeTokens range) (rangeExpression sheet range) := by
  unfold rangeTokens rangeExpression
  split
  · exact .cell range.start false false
  · exact .range range.start range.stop false false false false

/-- The tokens of a range on a sheet are one operand. -/
theorem derives_pickedTokens (sheet : Option Text) (range : CellRange) :
    Derives (pickedTokens sheet range) (.signed (rangeExpression sheet range)) := by
  have refers := refers_rangeTokens sheet range
  cases sheet with
  | none => exact .unsigned (.unmarked (.reference refers))
  | some sheet => exact .unsigned (.unmarked (.qualified refers))

theorem operands_rangeExpression (sheet : Option Text) (range : CellRange) :
    (rangeExpression sheet range).operands = [rangeExpression sheet range] := by
  unfold rangeExpression
  split <;> rfl

/-- No bracket and no sign in a row comes with an operator and a range. -/
theorem staysWithinLimit_pickedTokens (sheet : Option Text) (range : CellRange) (after : Bool)
    (rest : List Token) :
    Nesting.staysWithinLimit ⟨0, 0, after⟩ (pickedTokens sheet range ++ rest) =
      Nesting.staysWithinLimit ⟨0, 0, true⟩ rest := by
  unfold pickedTokens rangeTokens
  cases sheet <;> split <;> rfl

theorem staysWithinLimit_operator (operator : BinaryOperator) (rest : List Token) :
    Nesting.staysWithinLimit ⟨0, 0, true⟩ (.operator operator :: rest) =
      Nesting.staysWithinLimit ⟨0, 0, false⟩ rest := by
  cases operator <;> rfl

end Picked

end SheetEditor.Formula
