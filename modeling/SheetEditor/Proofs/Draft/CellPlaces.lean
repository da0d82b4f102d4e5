import SheetEditor.Draft.Anchor
import SheetEditor.Proofs.Draft.Highlight
import SheetEditor.Proofs.Formula.Respelling

/-!
Contract: where a draft finds cells.

Owns: the cells in the references of a text with their offsets, which of them are in the
first token of the text, and that a qualifier moves them and adds none.

Does not own: that these cells are words of a formula
(`SheetEditor.Proofs.Draft.CellLexemes`).
-/

namespace SheetEditor.Draft

open Text (Stops)
open Formula (Lexeme)

variable {text rest following : Text} {first : Char} {start : Nat}

/-! ## Cells in the references of a text -/

namespace Token

theorem map_shift_scanFrom (distance start : Nat) (text : Text) :
    (scanFrom start text).map (shift distance) = scanFrom (start + distance) text := by
  induction text using scan_induction generalizing start with
  | nil => rw [scanFrom_nil, scanFrom_nil, List.map_nil]
  | cons first following inductionHypothesis =>
      rw [scanFrom_cons, scanFrom_cons, List.map_cons, inductionHypothesis, shift, Nat.add_right_comm]

/-- The tokens of a body behind its equals sign. -/
theorem map_shift_scanAll (body : Text) : (scanAll body).map (shift 1) = scanFrom 1 body :=
  map_shift_scanFrom 1 0 body

end Token

theorem unmarked_of_inArea (inside : ∀ character ∈ text, inArea character = true) : '!' ∉ text :=
  fun member => (plain_of_class (by decide) inside '!' member).1 rfl

namespace PlacedCell

/-- The cells in the references of a text that begins at an offset. -/
def inText (start : Nat) (text : Text) : List PlacedCell :=
  ((Token.scanFrom start text).filter (·.kind = .reference)).flatMap ofToken

theorem ofText_formula (body : Text) : ofText ('=' :: body) = inText 1 body := by
  show ((Token.scanFrom 0 body).filter _).flatMap _ = _
  rw [inText, ← Nat.zero_add 1, ← Token.map_shift_scanFrom, List.filter_map, List.flatMap_map]
  rfl

theorem inText_nil (start : Nat) : inText start [] = [] := by
  rw [inText, Token.scanFrom_nil]
  rfl

/-- The cells of a text are those of its first token and those of the rest. -/
theorem inText_of_classify {kind : TokenKind} {count : Nat}
    (classified : Token.classify first following = (kind, count)) (start : Nat) :
    inText start (first :: following) =
      (if kind = .reference then ofToken ⟨kind, first :: following.take count, start⟩ else []) ++
        inText (start + (count + 1)) (following.drop count) := by
  rw [inText, Token.scanFrom_cons, classified, List.filter_cons]
  split
  · next isReference =>
      rw [if_pos (of_decide_eq_true isReference)]
      rfl
  · next other =>
      rw [if_neg (by simpa using other)]
      rfl

/-- The first token can end before the end of a text in front of other text. -/
theorem inText_of_classify_append {kind : TokenKind} {count : Nat}
    (classified : Token.classify first (following ++ rest) = (kind, count))
    (fits : count ≤ following.length) (start : Nat) :
    inText start (first :: (following ++ rest)) =
      (if kind = .reference then ofToken ⟨kind, first :: following.take count, start⟩ else []) ++
        inText (start + (count + 1)) (following.drop count ++ rest) := by
  rw [inText_of_classify classified, List.take_append_of_le_length fits,
    List.drop_append_of_le_length fits]

theorem inText_of_other {kind : TokenKind} {count : Nat}
    (classified : Token.classify first following = (kind, count)) (other : kind ≠ .reference)
    (start : Nat) :
    inText start (first :: following) = inText (start + (count + 1)) (following.drop count) := by
  rw [inText_of_classify classified, if_neg other, List.nil_append]

theorem inText_blank (blank : isBlank first = true) (following : Text) (start : Nat) :
    inText start (first :: following) = inText (start + 1) following := by
  have skip (first : Char) (following : Text) (blank : isBlank first = true) (start : Nat) :
      inText start (first :: following) =
        inText (start + ((following.takeWhile isBlank).length + 1))
          (following.drop (following.takeWhile isBlank).length) :=
    inText_of_other (Token.classify_blank blank following) (by decide) start
  rw [skip first following blank]
  cases following with
  | nil => rfl
  | cons next others =>
      by_cases nextBlank : isBlank next = true
      · rw [skip next others nextBlank, List.takeWhile_cons_of_pos nextBlank, List.length_cons,
          List.drop_succ_cons]
        congr 1
        omega
      · rw [List.takeWhile_cons_of_neg nextBlank]
        rfl

/-! ## Cells in an area -/

theorem read?_eq_none_of_class
    (unreadable : (∀ character ∈ text, character.isDigit = false) ∨
      ∀ character ∈ text, character.isAlpha = false) : WrittenCell.read? text = none := by
  by_contra isRead
  obtain ⟨⟨cell, after⟩, read⟩ := Option.ne_none_iff_exists'.mp isRead
  obtain ⟨spelled, _⟩ := WrittenCell.wellSpelled_of_read? read
  rw [WrittenCell.eq_append_of_read? read, WrittenCell.text] at unreadable
  rcases unreadable with noDigit | noLetter
  · obtain ⟨digit, digits, digitsEq⟩ := List.exists_cons_of_ne_nil spelled.digits_ne_nil
    have isDigit := spelled.digits_decimal digit (digitsEq ▸ List.mem_cons_self)
    rw [noDigit digit (by simp [digitsEq])] at isDigit
    cases isDigit
  · obtain ⟨letter, letters, lettersEq⟩ := List.exists_cons_of_ne_nil spelled.letters_ne_nil
    have isAlpha := spelled.letters_alphabetic letter (lettersEq ▸ List.mem_cons_self)
    rw [noLetter letter (by simp [lettersEq])] at isAlpha
    cases isAlpha

theorem inArea_nil (start : Nat) : inArea start [] = [] := by rw [inArea]

theorem inArea_of_unread (unread : WrittenCell.read? (first :: following) = none) (start : Nat) :
    inArea start (first :: following) = inArea (start + 1) following := by
  rw [inArea, unread]

theorem inArea_of_read? {cell : WrittenCell} (read : WrittenCell.read? text = some (cell, rest))
    (start : Nat) :
    inArea start text = ⟨cell, start⟩ :: inArea (start + cell.text.length) rest := by
  have positive := WrittenCell.length_pos_of_read? read
  have split := WrittenCell.eq_append_of_read? read
  obtain ⟨first, following, rfl⟩ : ∃ first following, text = first :: following := by
    apply List.exists_cons_of_length_pos
    rw [split, List.length_append]
    omega
  have count : cell.text.length - 1 + 1 = cell.text.length := by omega
  have after : following.drop (cell.text.length - 1) = rest := by
    rw [← List.drop_succ_cons (a := first), count, split, List.drop_left]
  rw [inArea, read]
  simp only [after, List.cons.injEq, true_and]
  congr 1
  omega

/-- Nothing is read where there are no digits, or no letters. -/
theorem inArea_skip
    (unreadable : (∀ character ∈ text, character.isDigit = false) ∨
      ∀ character ∈ text, character.isAlpha = false)
    (stops : Stops WrittenCell.inCell rest) (start : Nat) :
    inArea start (text ++ rest) = inArea (start + text.length) rest := by
  induction text generalizing start with
  | nil => rfl
  | cons first text inductionHypothesis =>
      have unread : WrittenCell.read? (first :: text ++ rest) = none := by
        rw [WrittenCell.read?_append stops, read?_eq_none_of_class unreadable]
        rfl
      rw [List.cons_append] at unread ⊢
      rw [inArea_of_unread unread, inductionHypothesis ?_, List.length_cons]
      · congr 1
        omega
      · exact unreadable.imp (fun none => (List.forall_mem_cons.mp none).2)
          fun none => (List.forall_mem_cons.mp none).2

theorem wellSpelled_of_mem_inArea {placed : PlacedCell} (member : placed ∈ inArea start text) :
    placed.cell.WellSpelled := by
  induction start, text using inArea.induct with
  | case1 start =>
      rw [inArea] at member
      cases member
  | case2 start first following cell rest read count inductionHypothesis =>
      rw [inArea, read] at member
      rcases List.mem_cons.mp member with rfl | later
      · exact (WrittenCell.wellSpelled_of_read? read).1
      · exact inductionHypothesis later
  | case3 start first following unread inductionHypothesis =>
      rw [inArea_of_unread unread] at member
      exact inductionHypothesis member

theorem wellSpelled_of_mem_inText {placed : PlacedCell} (member : placed ∈ inText start text) :
    placed.cell.WellSpelled := by
  obtain ⟨token, _, inToken⟩ := List.mem_flatMap.mp member
  exact wellSpelled_of_mem_inArea inToken

/-! ## Cells in a token -/

theorem qualifierLength_eq_zero (unmarked : '!' ∉ text) : qualifierLength text = 0 := by
  rw [qualifierLength, List.length_eq_zero_iff, List.dropWhile_eq_nil_iff]
  intro character member
  refine decide_eq_true fun isMark => unmarked ?_
  rw [← isMark]
  exact List.mem_reverse.mp member

theorem qualifierLength_append (name : Text) (unmarked : '!' ∉ text) :
    qualifierLength (name ++ '!' :: text) = name.length + 1 := by
  have stops : Stops (· ≠ '!') ('!' :: name.reverse) := Text.stops_cons.mpr (by decide)
  have skipped := qualifierLength_eq_zero unmarked
  rw [qualifierLength, List.length_eq_zero_iff] at skipped
  rw [qualifierLength, List.reverse_append, List.reverse_cons, List.append_assoc,
    List.singleton_append, Text.dropWhile_append stops, skipped]
  simp

theorem qualifierLength_le (text : Text) : qualifierLength text ≤ text.length := by
  unfold qualifierLength
  exact (List.dropWhile_suffix _).length_le.trans (List.length_reverse).le

/-- A token has no exclamation mark behind its qualifier. -/
theorem unmarked_of_qualifierLength (front : Text)
    (qualifierFits : qualifierLength (front ++ rest) ≤ front.length) : '!' ∉ rest := by
  intro member
  obtain ⟨back, middle, reversed, unmarked⟩ :=
    List.eq_append_cons_of_mem (List.mem_reverse.mpr member)
  obtain rfl : rest = middle.reverse ++ '!' :: back.reverse := by
    simpa using congrArg List.reverse reversed
  rw [← List.append_assoc, qualifierLength_append _ (by simpa using unmarked), List.length_append]
    at qualifierFits
  omega

theorem qualifierLength_append_unmarked (front : Text) (unmarked : '!' ∉ rest) :
    qualifierLength (front ++ rest) = qualifierLength front := by
  rw [qualifierLength, qualifierLength, List.reverse_append, List.dropWhile_append_of_pos]
  intro character member
  refine decide_eq_true fun isMark => unmarked ?_
  rw [← isMark]
  exact List.mem_reverse.mp member

theorem ofToken_unqualified (kind : TokenKind) (unmarked : '!' ∉ text) (start : Nat) :
    ofToken ⟨kind, text, start⟩ = inArea start text := by
  rw [ofToken, qualifierLength_eq_zero unmarked]
  rfl

/-- A token that is a reference only if it is all letters has no cells. -/
theorem inText_of_letters {kind : TokenKind} {count : Nat}
    (classified : Token.classify first following = (kind, count))
    (letters : kind = .reference → ∀ character ∈ first :: following.take count,
      character.isAlpha = true) (start : Nat) :
    inText start (first :: following) = inText (start + (count + 1)) (following.drop count) := by
  by_cases isReference : kind = .reference
  · have letters := letters isReference
    have noDigit : ∀ character ∈ first :: following.take count, character.isDigit = false := by
      intro character member
      by_contra isDigit
      have isAlpha := letters character member
      rw [not_isAlpha_of_isDigit (by simpa using isDigit)] at isAlpha
      cases isAlpha
    have noCells := inArea_skip (.inl noDigit) (Text.stops_nil : Stops WrittenCell.inCell []) start
    rw [List.append_nil, inArea_nil] at noCells
    rw [inText_of_classify classified, if_pos isReference, ofToken_unqualified, noCells,
      List.nil_append]
    exact unmarked_of_inArea fun character member => inArea_of_isAlpha (letters character member)
  · exact inText_of_other classified isReference start

/-- Where no reference is read, the first token has no cells. -/
theorem inText_step (solid : isBlank first = false ∧ first ≠ '#' ∧ first ≠ '"')
    (unqualified : Token.qualifierLength? (first :: (following ++ rest)) = none)
    (unread : Token.referenceLength? (first :: (following ++ rest)) = none)
    (nameStops : Stops Token.inName rest)
    (numberStops : first.isDigit = true ∨ first = '.' → Stops Decimal.inNumeral rest)
    (notOperator : first ≠ '<' ∧ first ≠ '>') (start : Nat) :
    ∃ count ≤ following.length,
      inText start (first :: (following ++ rest)) =
        inText (start + (count + 1)) (following.drop count ++ rest) := by
  obtain ⟨kind, count, classified, fits, letters⟩ :=
    classify_unread solid unqualified unread nameStops numberStops notOperator
  refine ⟨count, fits, ?_⟩
  rw [← List.take_append_of_le_length fits] at letters
  rw [← List.drop_append_of_le_length fits]
  exact inText_of_letters classified letters start

/-- The cells of a reference without a qualifier, and those of the text after it. -/
theorem inText_of_referenceLength? {length : Nat}
    (unqualified : Token.qualifierLength? text = none)
    (found : Token.referenceLength? text = some length) (start : Nat) :
    inText start text =
      inArea start (text.take length) ++ inText (start + length) (text.drop length) := by
  obtain ⟨positive, inside⟩ := plain_of_referenceLength? unqualified found
  have fits := Token.referenceLength?_le found
  obtain ⟨first, following, rfl⟩ : ∃ first following, text = first :: following :=
    List.exists_cons_of_length_pos (by omega)
  have count : length - 1 + 1 = length := by omega
  rw [inText_of_classify (Token.classify_reference found), if_pos rfl, ← List.take_succ_cons,
    ← List.drop_succ_cons (a := first), count, ofToken_unqualified _ (unmarked_of_inArea inside)]

end PlacedCell

open PlacedCell (inText)

/-- A qualifier has no cells and leaves those after it where they are. -/
theorem Qualifies.inText_eq {qualifier sheet : Text} (qualifies : Qualifies qualifier sheet)
    (unqualified : Token.qualifierLength? rest = none) (start : Nat) :
    inText start (qualifier ++ rest) = inText (start + qualifier.length) rest := by
  obtain ⟨name, marked⟩ : ∃ name, qualifier = name ++ ['!'] := by
    cases qualifies with
    | quoted => exact ⟨SheetName.quote :: (Text.doubleQuotes SheetName.quote sheet ++
        [SheetName.quote]), by simp⟩
    | plain => exact ⟨_ :: _, rfl⟩
  have cells (area : Text) (inside : ∀ character ∈ area, inArea character = true) :
      PlacedCell.ofToken ⟨.reference, qualifier ++ area, start⟩ =
        PlacedCell.inArea (start + qualifier.length) area := by
    have length : PlacedCell.qualifierLength (qualifier ++ area) = qualifier.length := by
      rw [marked, List.append_assoc, List.singleton_append,
        PlacedCell.qualifierLength_append name (unmarked_of_inArea inside)]
      simp
    rw [PlacedCell.ofToken, length, List.drop_left]
  have reference := qualifies.referenceLength? unqualified
  have classified := qualifies.qualifierLength? rest
  obtain ⟨first, following, rfl⟩ : ∃ first following, qualifier = first :: following := by
    cases qualifies with
    | quoted | plain => exact ⟨_, _, rfl⟩
  rw [List.cons_append] at reference classified
  have classified := Token.classify_qualifier classified
  rw [reference] at classified
  rw [List.cons_append, PlacedCell.inText_of_classify classified, if_pos rfl]
  cases found : Token.referenceLength? rest with
  | none =>
      have alone := cells [] (by simp)
      rw [List.append_nil, PlacedCell.inArea_nil] at alone
      simp only [Option.map_none, Option.getD_none, List.length_cons, Nat.add_sub_cancel,
        List.take_left, List.drop_left]
      rw [alone, List.nil_append]
  | some length =>
      obtain ⟨_, inside⟩ := plain_of_referenceLength? unqualified found
      have count : following.length + 1 + length - 1 = following.length + length := by omega
      simp only [Option.map_some, Option.getD_some, List.length_cons]
      rw [count, List.take_length_add_append, List.drop_length_add_append, ← List.cons_append,
        cells _ inside, PlacedCell.inText_of_referenceLength? unqualified found, List.length_cons]
      congr 2
      omega

end SheetEditor.Draft
