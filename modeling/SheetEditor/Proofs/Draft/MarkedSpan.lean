import SheetEditor.Proofs.Draft.AnchorPeriod
import SheetEditor.Proofs.Draft.NameAtCaret
import SheetEditor.Proofs.Draft.ReferenceSpans

/-!
Contract: the next marks of a reference change nothing but the marks of one cell.

Owns: the text in front of the cell and behind it, which stays, the token in which the cell is
written, how much longer or shorter the text gets, and where the caret goes.

Does not own: which cell the caret is at (`SheetEditor.Proofs.Draft.AnchorPeriod`), and whether a
formula stays accepted (`SheetEditor.Proofs.Draft.AnchorCycle`).

A cell is found in the text of a token, behind the qualifier, and the token in the body of the formula.
Offsets are in characters. Those into the UTF-8 encoding, in the token as in the formula, are in step
with them.
-/

namespace SheetEditor

/-! ## The next marks -/

namespace WrittenCell

/-- Without its marks, a cell is its letters and digits. -/
theorem filter_text (cell : WrittenCell) :
    cell.text.filter (· ≠ '$') =
      cell.letters.filter (· ≠ '$') ++ cell.digits.filter (· ≠ '$') := by
  obtain ⟨columnAbsolute, letters, rowAbsolute, digits⟩ := cell
  cases columnAbsolute <;> cases rowAbsolute <;> simp [text]

theorem filter_nextAnchors_text (cell : WrittenCell) :
    cell.nextAnchors.text.filter (· ≠ '$') = cell.text.filter (· ≠ '$') := by
  rw [filter_text, filter_text, nextAnchors_letters, nextAnchors_digits]

/-- A cell has at most two marks. -/
theorem length_text_bounds (cell : WrittenCell) :
    cell.letters.length + cell.digits.length ≤ cell.text.length ∧
      cell.text.length ≤ cell.letters.length + cell.digits.length + 2 := by
  obtain ⟨columnAbsolute, letters, rowAbsolute, digits⟩ := cell
  cases columnAbsolute <;> cases rowAbsolute <;> simp [text] <;> omega

theorem length_nextAnchors_text (cell : WrittenCell) :
    cell.nextAnchors.text.length ≤ cell.text.length + 2 ∧
      cell.text.length ≤ cell.nextAnchors.text.length + 2 := by
  have bounds := cell.length_text_bounds
  have next := cell.nextAnchors.length_text_bounds
  rw [nextAnchors_letters, nextAnchors_digits] at next
  omega

end WrittenCell

namespace Draft

/-! ## The cell in its token -/

/-- A cell is written in a reference at an offset: behind the qualifier, after which the token has no
exclamation mark. The cell begins and ends where the characters of its bytes do. -/
structure StandsInReference (token : Token) (cell : WrittenCell) (position : Nat) : Prop where
  isReference : token.kind = .reference
  written : ∃ qualifier front rest : Text, token.text = qualifier ++ (front ++ (cell.text ++ rest)) ∧
    '!' ∉ front ++ (cell.text ++ rest) ∧
    position = token.start + qualifier.length +
      (front ++ (cell.text ++ rest)).characterIndex front.byteLength ∧
    position + cell.text.length = token.start + qualifier.length +
      (front ++ (cell.text ++ rest)).characterIndex (front ++ cell.text).byteLength

theorem PlacedCell.standsInReference {token : Token} {placed : PlacedCell}
    (isReference : token.kind = .reference) (member : placed ∈ PlacedCell.ofToken token) :
    StandsInReference token placed.cell placed.start := by
  obtain ⟨front, rest, areaEq, startEq, -⟩ := exists_split_of_mem_inArea member
  have textEq := (List.take_append_drop (qualifierLength token.text) token.text).symm
  have taken : (token.text.take (qualifierLength token.text)).length = qualifierLength token.text :=
    List.length_take_of_le (qualifierLength_le _)
  obtain ⟨begins, ends⟩ := Text.characterIndex_around front placed.cell.text rest
  refine ⟨isReference, token.text.take (qualifierLength token.text), front, rest, ?_, ?_, ?_, ?_⟩
  · rw [← areaEq]
    exact textEq
  · refine unmarked_of_qualifierLength (token.text.take (qualifierLength token.text)) ?_
    rw [← areaEq, ← textEq, taken]
  · rw [begins, taken, startEq]
  · rw [ends, taken, startEq, Nat.add_assoc]

/-- A cell that is written in a reference is within its token. -/
theorem StandsInReference.bounds {token : Token} {cell : WrittenCell} {position : Nat}
    (stands : StandsInReference token cell position) :
    token.start ≤ position ∧ position + cell.text.length ≤ token.stop := by
  obtain ⟨qualifier, front, rest, textEq, -, positionEq, -⟩ := stands.written
  rw [Text.characterIndex_append] at positionEq
  have length := congrArg List.length textEq
  simp only [List.length_append] at length
  unfold Token.stop
  omega

/-! ## The text around the cell -/

/-- An edit that gives one cell of a text its next marks, the cell between `before` and `after`. The
edit starts from the clamped caret. -/
structure ChangesMarks (text : Text) (caret : Nat) (edit : TextEdit) (before : Text)
    (cell : WrittenCell) (after : Text) : Prop where
  target : anchorTarget? text caret = some ⟨cell, before.length⟩
  text_eq : text = before ++ (cell.text ++ after)
  /-- Nothing is changed in front of the cell and behind it. -/
  edit_eq : edit.text = before ++ (cell.nextAnchors.text ++ after)
  /-- Apart from marks nothing is changed. -/
  unmarked_eq : edit.text.filter (· ≠ '$') = text.filter (· ≠ '$')
  /-- The cell is in a reference, and in no other token. -/
  inReference : ∃ token ∈ (Analysis.ofText text caret).tokens,
    StandsInReference token cell before.length ∧
      ∀ other ∈ (Analysis.ofText text caret).tokens, other ≠ token →
        other.stop ≤ before.length ∨ before.length + cell.text.length ≤ other.start
  /-- The text is cut at the bytes where the cell begins and ends. -/
  bytes : text.byteOffset before.length = before.byteLength ∧
    text.byteOffset (before.length + cell.text.length) = (before ++ cell.text).byteLength
  length_bounds : edit.text.length ≤ text.length + 2 ∧ text.length ≤ edit.text.length + 2
  caret_le : edit.caret ≤ edit.text.length
  /-- A caret in front of the cell keeps its distance to the beginning of the text. -/
  caret_before : min caret text.length ≤ before.length → edit.caret = min caret text.length
  /-- A caret behind the cell keeps its distance to the end of the text. -/
  caret_behind : before.length + cell.text.length ≤ min caret text.length →
    edit.text.length - edit.caret = text.length - min caret text.length
  /-- Where the caret goes, no more is subtracted than there is. -/
  subtracts : ∀ placed, anchorTarget? text caret = some placed → placed.start ≤ placed.stop ∧
    (placed.stop < min caret text.length → placed.stop - placed.start ≤
      min caret text.length + placed.cell.nextAnchors.text.length)

variable {body before after : Text} {cell : WrittenCell} {placed : PlacedCell} {caret : Nat}

/-! ## Where the caret goes -/

namespace PlacedCell

/-- A caret behind a cell keeps its distance to the end of the text. -/
theorem length_sub_moveCaret (replacement after : Text) (nonempty : cell.text ≠ [])
    (behind : before.length + cell.text.length ≤ caret) :
    (before ++ (replacement ++ after)).length -
        moveCaret ⟨cell, before.length⟩ replacement.length caret =
      (before ++ (cell.text ++ after)).length - caret := by
  have positive := List.length_pos_of_ne_nil nonempty
  simp only [List.length_append]
  unfold moveCaret stop
  dsimp only
  split_ifs <;> omega

end PlacedCell

/-! ## The cell that is changed -/

/-- A cell of a formula is in one of its references, and in no other token. -/
theorem exists_reference_of_mem_inText (caret : Nat) (member : placed ∈ PlacedCell.inText 1 body) :
    ∃ token ∈ (Analysis.ofText ('=' :: body) caret).tokens,
      StandsInReference token placed.cell placed.start ∧
        ∀ other ∈ (Analysis.ofText ('=' :: body) caret).tokens, other ≠ token →
          other.stop ≤ placed.start ∨ placed.stop ≤ other.start := by
  obtain ⟨token, isReference, inToken⟩ := List.mem_flatMap.mp member
  obtain ⟨scanned, isReference⟩ := List.mem_filter.mp isReference
  have stands := PlacedCell.standsInReference (of_decide_eq_true isReference) inToken
  have bounds := stands.bounds
  rw [Analysis.tokens_ofText_formula]
  refine ⟨token, scanned, stands, fun other otherScanned different => ?_⟩
  have apart := (Token.tiles_scanFrom 1 body).apart scanned otherScanned different
  unfold PlacedCell.stop
  omega

/-- The cell at a caret is one of a formula. -/
theorem exists_body_of_anchorTarget? {text : Text}
    (target : anchorTarget? text caret = some placed) :
    ∃ body, text = '=' :: body ∧ placed ∈ PlacedCell.inText 1 body := by
  have member := PlacedCell.mem_of_atCaret? target
  rcases text with _ | ⟨first, body⟩
  · cases member
  by_cases isFormula : first = '='
  · subst isFormula
    rw [PlacedCell.ofText_formula] at member
    exact ⟨body, rfl, member⟩
  · rw [PlacedCell.ofText] at member
    · cases member
    · exact fun _ same => isFormula (List.cons.inj same).1

/-- The next marks of the cell at a caret, in the text around it. -/
theorem changesMarks_around (before : Text)
    (target : anchorTarget? (before ++ (cell.text ++ after)) caret = some ⟨cell, before.length⟩)
    (nonempty : cell.text ≠ [])
    (inReference : ∃ token ∈ (Analysis.ofText (before ++ (cell.text ++ after)) caret).tokens,
      StandsInReference token cell before.length ∧
        ∀ other ∈ (Analysis.ofText (before ++ (cell.text ++ after)) caret).tokens, other ≠ token →
          other.stop ≤ before.length ∨ before.length + cell.text.length ≤ other.start) :
    ChangesMarks (before ++ (cell.text ++ after)) caret
      ⟨before ++ (cell.nextAnchors.text ++ after),
        PlacedCell.moveCaret ⟨cell, before.length⟩ cell.nextAnchors.text.length
          (min caret (before ++ (cell.text ++ after)).length)⟩ before cell after where
  target := target
  text_eq := rfl
  edit_eq := rfl
  unmarked_eq := by simp only [List.filter_append, cell.filter_nextAnchors_text]
  inReference := inReference
  bytes := Text.byteOffset_around before cell.text after
  length_bounds := by
    have lengths := cell.length_nextAnchors_text
    simp only [List.length_append]
    omega
  caret_le := PlacedCell.moveCaret_le_length _ (Nat.min_le_right _ _)
  caret_before := fun early => PlacedCell.moveCaret_of_le _ early
  caret_behind := fun behind => PlacedCell.length_sub_moveCaret _ after nonempty behind
  subtracts := fun placed found => by
    obtain rfl := Option.some.inj (target.symm.trans found)
    refine ⟨Nat.le_add_right _ _, fun passed => ?_⟩
    exact (Nat.sub_le _ _).trans (passed.le.trans (Nat.le_add_right _ _))

/-- The next marks of a reference change nothing but the marks of one of its cells. -/
theorem cycled_anchors_change_one_cell {text : Text} {edit : TextEdit}
    (cycled : cycleAnchors? text caret = some edit) :
    ∃ before cell after, ChangesMarks text caret edit before cell after := by
  rw [cycleAnchors?_eq] at cycled
  obtain ⟨⟨cell, start⟩, target, rfl⟩ := Option.map_eq_some_iff.mp cycled
  obtain ⟨body, rfl, member⟩ := exists_body_of_anchorTarget? target
  have nonempty := (PlacedCell.wellSpelled_of_mem_inText member).text_ne_nil
  have inReference := exists_reference_of_mem_inText caret member
  obtain ⟨before, after, rfl, startEq, -⟩ := PlacedCell.exists_split_of_mem_inText member
  obtain rfl : start = ('=' :: before).length := startEq.trans (Nat.add_comm _ _)
  have spliced := Text.splice_append ('=' :: before) cell.text after cell.nextAnchors.text
  have changes := changesMarks_around ('=' :: before) target nonempty inReference
  rw [← spliced] at changes
  exact ⟨'=' :: before, cell, after, changes⟩

/-- The second corner of a block, with an exclamation mark in its sheet name, between strings. The cell
is at character 18 and byte 20. -/
theorem corner_between_umlauts_changes :
    let text : Text := "=\"ü$A1\"&'Ä!b'!$b2:C3 &\"é\"".toList
    let edit : TextEdit := ⟨"=\"ü$A1\"&'Ä!b'!$b2:$C$3 &\"é\"".toList, 25⟩
    cycleAnchors? text 23 = some edit ∧ ∃ before after, before.length = 18 ∧
      before.byteLength = 20 ∧ ChangesMarks text 23 edit before ⟨false, ['C'], false, ['3']⟩ after := by
  intro text edit
  have cycled : cycleAnchors? text 23 = some edit := by decide +kernel
  have isCorner : anchorTarget? text 23 = some ⟨⟨false, ['C'], false, ['3']⟩, 18⟩ := by
    decide +kernel
  have byte : text.byteOffset 18 = 20 := by decide +kernel
  obtain ⟨before, cell, after, changes⟩ := cycled_anchors_change_one_cell cycled
  have same := Option.some.inj (changes.target.symm.trans isCorner)
  obtain ⟨rfl, length⟩ := PlacedCell.mk.inj same
  refine ⟨cycled, before, after, length, ?_, changes⟩
  rw [← changes.bytes.1, length, byte]

end Draft

end SheetEditor
