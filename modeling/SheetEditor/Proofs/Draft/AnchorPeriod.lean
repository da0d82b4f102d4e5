import Mathlib.Data.Fintype.Prod
import Mathlib.Logic.Function.Iterate
import SheetEditor.Proofs.Draft.AnchorCycle
import SheetEditor.Proofs.Draft.CellExchange

/-!
Contract: changing the marks of the reference at the caret four times changes nothing.

Owns: which cell the caret is at after the cell got other marks, the four combinations of
marks, and the drafts and carets on the way through them.

Does not own: that the other cells of the draft stay what they are
(`SheetEditor.Proofs.Draft.CellExchange`).

A character that a name goes on with in front of the cell is part of the same word only if
the cell has no mark in front, and an error literal is taken with what follows it.
-/

namespace SheetEditor

open Text (Stops)

/-! ## Four combinations of marks -/

namespace WrittenCell

theorem nextAnchors_four (cell : WrittenCell) : nextAnchors^[4] cell = cell := by
  obtain ⟨column, letters, row, digits⟩ := cell
  cases column <;> cases row <;> rfl

theorem iterate_nextAnchors_letters (presses : Nat) (cell : WrittenCell) :
    (nextAnchors^[presses] cell).letters = cell.letters := by
  induction presses with
  | zero => rfl
  | succ presses inductionHypothesis =>
      rw [Function.iterate_succ_apply', nextAnchors_letters, inductionHypothesis]

theorem iterate_nextAnchors_digits (presses : Nat) (cell : WrittenCell) :
    (nextAnchors^[presses] cell).digits = cell.digits := by
  induction presses with
  | zero => rfl
  | succ presses inductionHypothesis =>
      rw [Function.iterate_succ_apply', nextAnchors_digits, inductionHypothesis]

/-- The marks of a cell, the column's first. -/
def marks (cell : WrittenCell) : Bool × Bool := (cell.columnAbsolute, cell.rowAbsolute)

def nextMarks : Bool × Bool → Bool × Bool
  | (false, false) => (true, true)
  | (true, true) => (false, true)
  | (false, true) => (true, false)
  | (true, false) => (false, false)

theorem semiconj_marks : Function.Semiconj marks nextAnchors nextMarks := by
  rintro ⟨column, letters, row, digits⟩
  cases column <;> cases row <;> rfl

/-- Each combination of marks comes once in four. -/
theorem existsUnique_marks (cell : WrittenCell) (combination : Bool × Bool) :
    ∃! presses : Fin 4, (nextAnchors^[presses] cell).marks = combination := by
  have once : ∀ first combination : Bool × Bool,
      ∃ presses : Fin 4, nextMarks^[presses] first = combination ∧
        ∀ other : Fin 4, nextMarks^[other] first = combination → other = presses := by decide
  simpa only [ExistsUnique, (semiconj_marks.iterate_right _).eq] using once cell.marks combination

end WrittenCell

namespace Draft

namespace PlacedCell

variable {placed : PlacedCell} {front back : List PlacedCell} {caret : Nat}

/-! ## The cell at the caret -/

/-- Whether a caret is in a cell or at one of its ends. -/
def Holds (placed : PlacedCell) (caret : Nat) : Prop :=
  placed.start ≤ caret ∧ caret ≤ placed.stop

theorem find?_eq_none_of_not_holds (none : ∀ earlier ∈ front, ¬earlier.Holds caret) :
    front.find? (fun placed => placed.start ≤ caret && caret ≤ placed.stop) = Option.none := by
  rw [List.find?_eq_none]
  intro earlier member
  simpa [Holds] using none earlier member

/-- The caret is at the first cell that it is in. -/
theorem atCaret?_of_holds (none : ∀ earlier ∈ front, ¬earlier.Holds caret)
    (holds : placed.Holds caret) : atCaret? (front ++ placed :: back) caret = some placed := by
  have isFirst : (front ++ placed :: back).find?
      (fun placed => placed.start ≤ caret && caret ≤ placed.stop) = some placed := by
    rw [List.find?_append, find?_eq_none_of_not_holds none, Option.none_or]
    exact List.find?_cons_of_pos (by simpa [Holds] using holds)
  rw [atCaret?, isFirst]

/-- A caret in no cell is at the last cell in front of it. -/
theorem atCaret?_of_before (none : ∀ earlier ∈ front, ¬earlier.Holds caret)
    (passed : placed.stop < caret) (behind : ∀ later ∈ back, caret < later.start) :
    atCaret? (front ++ placed :: back) caret = some placed := by
  have noneHolds : ∀ other ∈ front ++ placed :: back, ¬other.Holds caret := by
    rw [List.forall_mem_append, List.forall_mem_cons]
    refine ⟨none, fun holds => ?_, fun later member holds => ?_⟩
    · exact Nat.not_lt.mpr holds.2 passed
    · exact Nat.not_lt.mpr holds.1 (behind later member)
  have noneLater : back.filter (fun placed => placed.stop ≤ caret) = [] := by
    rw [List.filter_eq_nil_iff]
    intro later member
    have started := behind later member
    rw [decide_eq_true_eq, stop]
    omega
  rw [atCaret?, find?_eq_none_of_not_holds noneHolds]
  dsimp only
  rw [List.filter_append, List.filter_cons_of_pos (by simpa using passed.le), noneLater]
  exact List.getLast?_concat

/-- Where the caret is if it is at a certain cell. -/
theorem cases_of_atCaret? (fresh : placed ∉ front) (freshBack : placed ∉ back)
    (found : atCaret? (front ++ placed :: back) caret = some placed) :
    (∀ earlier ∈ front, ¬earlier.Holds caret) ∧
      (placed.Holds caret ∨ placed.stop < caret ∧ ∀ later ∈ back, caret < later.start) := by
  unfold atCaret? at found
  rw [List.find?_append] at found
  cases first : front.find? (fun placed => placed.start ≤ caret && caret ≤ placed.stop) with
  | some earlier =>
      rw [first] at found
      cases found
      exact absurd (List.mem_of_find?_eq_some first) fresh
  | none =>
      rw [first, Option.none_or] at found
      rw [List.find?_eq_none] at first
      refine ⟨fun earlier member holds => first earlier member (by simpa [Holds] using holds), ?_⟩
      by_cases holds : placed.Holds caret
      · exact .inl holds
      rw [List.find?_cons_of_neg (by simpa [Holds] using holds)] at found
      cases next : back.find? (fun placed => placed.start ≤ caret && caret ≤ placed.stop) with
      | some later =>
          rw [next] at found
          cases found
          exact absurd (List.mem_of_find?_eq_some next) freshBack
      | none =>
          rw [next] at found
          dsimp only at found
          have passed : placed.stop ≤ caret := by
            simpa using List.of_mem_filter (List.mem_of_getLast? found)
          refine .inr ⟨?_, fun later member => ?_⟩
          · unfold Holds stop at *
            omega
          · have notHolds := List.find?_eq_none.mp next later member
            have notPassed : ¬later.stop ≤ caret := by
              intro laterPassed
              have nonempty : back.filter (fun placed => placed.stop ≤ caret) ≠ [] :=
                List.ne_nil_of_mem (List.mem_filter.mpr ⟨member, decide_eq_true laterPassed⟩)
              rw [List.filter_append, List.filter_cons_of_pos (by simpa using passed),
                List.getLast?_append_of_ne_nil _ (List.cons_ne_nil _ _),
                List.getLast?_cons_of_ne_nil nonempty] at found
              exact freshBack (List.mem_of_mem_filter (List.mem_of_getLast? found))
            simp only [Bool.and_eq_true, decide_eq_true_eq] at notHolds
            unfold stop at *
            omega

/-! ## Where the caret goes -/

/-- Two changes of a cell move the caret as one does. -/
theorem moveCaret_moveCaret {other : WrittenCell} (nonempty : other.text ≠ [])
    (length caret : Nat) :
    moveCaret ⟨other, placed.start⟩ length (placed.moveCaret other.text.length caret) =
      placed.moveCaret length caret := by
  have positive := List.length_pos_of_ne_nil nonempty
  unfold moveCaret stop
  dsimp only
  split_ifs <;> omega

theorem moveCaret_length (placed : PlacedCell) (caret : Nat) :
    placed.moveCaret placed.cell.text.length caret =
      if placed.start < caret ∧ caret < placed.stop then placed.stop else caret := by
  unfold moveCaret stop
  split_ifs <;> omega

theorem moveCaret_of_le (length : Nat) (before : caret ≤ placed.start) :
    placed.moveCaret length caret = caret := if_pos before

theorem moveCaret_of_lt (length : Nat) (behind : placed.stop < caret) :
    placed.moveCaret length caret = caret + length - placed.cell.text.length := by
  unfold moveCaret stop at *
  split_ifs <;> omega

theorem start_lt_moveCaret {length : Nat} (positive : 0 < length) (inside : placed.start < caret) :
    placed.start < placed.moveCaret length caret := by
  unfold moveCaret stop
  split_ifs <;> omega

/-- A caret is in the text that it moves to. -/
theorem moveCaret_le_length {before after : Text} {cell : WrittenCell} (replacement : Text)
    (fits : caret ≤ (before ++ (cell.text ++ after)).length) :
    moveCaret ⟨cell, before.length⟩ replacement.length caret ≤
      (before ++ (replacement ++ after)).length := by
  simp only [List.length_append] at *
  unfold moveCaret stop
  dsimp only
  split_ifs <;> omega

/-- A caret at a cell is at the cell after a change of it. -/
theorem moveCaret_le (length : Nat) (holds : placed.Holds caret) :
    placed.start ≤ placed.moveCaret length caret ∧
      placed.moveCaret length caret ≤ placed.start + length := by
  unfold moveCaret Holds at *
  split_ifs <;> omega

end PlacedCell

/-- The caret stays at a cell that is exchanged. -/
theorem Exchange.ExchangesAt.atCaret? {exchange : Exchange} {position caret : Nat}
    {cells others : List PlacedCell} (exchanges : exchange.ExchangesAt position cells others)
    (found : PlacedCell.atCaret? cells caret = some ⟨exchange.cell, position⟩) :
    PlacedCell.atCaret? others
        (PlacedCell.moveCaret ⟨exchange.cell, position⟩ exchange.other.text.length caret) =
      some ⟨exchange.other, position⟩ := by
  obtain ⟨front, back, early, rfl, rfl⟩ := exchanges
  have positive := List.length_pos_of_ne_nil exchange.spelled.text_ne_nil
  have otherPositive := List.length_pos_of_ne_nil exchange.otherSpelled.text_ne_nil
  have fresh : ⟨exchange.cell, position⟩ ∉ front := by
    intro member
    have stopped := early _ member
    dsimp only [PlacedCell.stop] at stopped
    omega
  have freshBack : ⟨exchange.cell, position⟩ ∉
      back.map (PlacedCell.shift (position + exchange.cell.text.length)) := by
    intro member
    obtain ⟨later, _, same⟩ := List.mem_map.mp member
    have sameStart : later.start + (position + exchange.cell.text.length) = position :=
      congrArg PlacedCell.start same
    omega
  obtain ⟨none, atCell⟩ := PlacedCell.cases_of_atCaret? fresh freshBack found
  have noneMoved : ∀ earlier ∈ front, ¬earlier.Holds
      (PlacedCell.moveCaret ⟨exchange.cell, position⟩ exchange.other.text.length caret) := by
    intro earlier member holds
    rcases Nat.lt_or_ge position caret with inside | before
    · have moved : PlacedCell.start ⟨exchange.cell, position⟩ < _ :=
        PlacedCell.start_lt_moveCaret otherPositive inside
      exact Nat.not_lt.mpr (holds.2.trans (early earlier member)) moved
    · rw [PlacedCell.moveCaret_of_le _ before] at holds
      exact none earlier member holds
  rcases atCell with holds | ⟨passed, behind⟩
  · exact PlacedCell.atCaret?_of_holds noneMoved (PlacedCell.moveCaret_le _ holds)
  · refine PlacedCell.atCaret?_of_before noneMoved ?_ ?_
    · rw [PlacedCell.moveCaret_of_lt _ passed]
      dsimp only [PlacedCell.stop] at *
      omega
    · intro later member
      obtain ⟨cell, inBack, rfl⟩ := List.mem_map.mp member
      have started := behind _ (List.mem_map_of_mem inBack)
      rw [PlacedCell.moveCaret_of_lt _ passed]
      dsimp only [PlacedCell.stop, PlacedCell.shift] at *
      omega

/-! ## Drafts with other marks -/

/-- The cell that the next marks are for. -/
def anchorTarget? (text : Text) (caret : Nat) : Option PlacedCell :=
  PlacedCell.atCaret? (PlacedCell.ofText text) (min caret text.length)

theorem cycleAnchors?_eq (text : Text) (caret : Nat) :
    cycleAnchors? text caret = (anchorTarget? text caret).map fun placed =>
      ⟨text.splice placed.start placed.stop placed.cell.nextAnchors.text,
        placed.moveCaret placed.cell.nextAnchors.text.length (min caret text.length)⟩ := by
  unfold cycleAnchors? anchorTarget?
  dsimp only
  cases PlacedCell.atCaret? (PlacedCell.ofText text) (min caret text.length) <;> rfl

/-- A formula with the caret at a cell that stands apart. -/
structure AnchorSite where
  before : Text
  cell : WrittenCell
  after : Text
  caret : Nat
  apart : EndsApart before
  noHash : '#' ∉ before
  spelled : cell.WellSpelled
  stops : Stops Char.isDigit after
  caretFits : caret ≤ (before ++ (cell.text ++ after)).length + 1
  target : PlacedCell.atCaret? (PlacedCell.inText 1 (before ++ (cell.text ++ after))) caret =
    some ⟨cell, 1 + before.length⟩

namespace AnchorSite

variable (site : AnchorSite) {other : WrittenCell}

def placed : PlacedCell := ⟨site.cell, 1 + site.before.length⟩

/-- The text of the formula with another cell in place of the one at the caret. -/
def text (other : WrittenCell) : Text := '=' :: (site.before ++ (other.text ++ site.after))

/-- The formula with another cell, and the caret where it goes then. -/
def exchanged (other : WrittenCell) : TextEdit :=
  ⟨site.text other, site.placed.moveCaret other.text.length site.caret⟩

/-- The cell stands behind the equals sign and what is in front of it in the body. -/
theorem placed_eq : site.placed = ⟨site.cell, ('=' :: site.before).length⟩ := by
  rw [placed, List.length_cons, Nat.add_comm]

theorem caret_exchanged_le (other : WrittenCell) :
    (site.exchanged other).caret ≤ (site.exchanged other).text.length := by
  rw [exchanged, placed_eq]
  exact PlacedCell.moveCaret_le_length other.text site.caretFits

theorem anchorTarget?_exchanged (letters : other.letters = site.cell.letters)
    (digits : other.digits = site.cell.digits) :
    anchorTarget? (site.exchanged other).text (site.exchanged other).caret =
      some ⟨other, site.placed.start⟩ := by
  let exchange : Exchange :=
    ⟨site.cell, other, site.after, site.spelled, site.spelled.of_same letters digits, site.stops⟩
  have exchanges : exchange.ExchangesAt (1 + site.before.length) _ _ :=
    Exchange.exchangesAt_inText site.apart site.noHash (PlacedCell.mem_of_atCaret? site.target)
  rw [anchorTarget?, Nat.min_eq_left (site.caret_exchanged_le other)]
  dsimp only [exchanged, text]
  rw [PlacedCell.ofText_formula]
  exact exchanges.atCaret? site.target

theorem splice_text (other replacement : WrittenCell) :
    (site.text other).splice site.placed.start (site.placed.start + other.text.length)
        replacement.text = site.text replacement := by
  have split (cell : WrittenCell) :
      site.text cell = ('=' :: site.before) ++ (cell.text ++ site.after) := rfl
  rw [split, split, placed_eq]
  exact Text.splice_append _ _ _ _

theorem anchorTarget?_text {caret : Nat}
    (clamped : site.caret = min caret (site.text site.cell).length) :
    anchorTarget? (site.text site.cell) caret = some site.placed := by
  rw [anchorTarget?, ← clamped, text, PlacedCell.ofText_formula]
  exact site.target

/-- The first press puts the next marks on the cell. -/
theorem cycleAnchors?_text {caret : Nat}
    (clamped : site.caret = min caret (site.text site.cell).length) :
    cycleAnchors? (site.text site.cell) caret = some (site.exchanged site.cell.nextAnchors) := by
  rw [cycleAnchors?_eq, site.anchorTarget?_text clamped, Option.map_some, ← clamped]
  exact congrArg some (congrArg (TextEdit.mk · _) (site.splice_text site.cell _))

/-- So does every other press. -/
theorem cycleAnchors?_exchanged (letters : other.letters = site.cell.letters)
    (digits : other.digits = site.cell.digits) :
    cycleAnchors? (site.exchanged other).text (site.exchanged other).caret =
      some (site.exchanged other.nextAnchors) := by
  have nonempty := (site.spelled.of_same letters digits).text_ne_nil
  rw [cycleAnchors?_eq, site.anchorTarget?_exchanged letters digits, Option.map_some,
    Nat.min_eq_left (site.caret_exchanged_le other), PlacedCell.stop]
  dsimp only [exchanged]
  rw [site.splice_text, PlacedCell.moveCaret_moveCaret nonempty]

theorem anchorTarget?_pressed (presses : Nat) :
    anchorTarget? (site.exchanged (WrittenCell.nextAnchors^[presses + 1] site.cell)).text
        (site.exchanged (WrittenCell.nextAnchors^[presses + 1] site.cell)).caret =
      some ⟨WrittenCell.nextAnchors^[presses + 1] site.cell, site.placed.start⟩ :=
  site.anchorTarget?_exchanged (WrittenCell.iterate_nextAnchors_letters _ _)
    (WrittenCell.iterate_nextAnchors_digits _ _)

/-- The drafts that the presses go through, from one with the caret at the cell. -/
def edits (caret : Nat) : Nat → TextEdit
  | 0 => ⟨site.text site.cell, caret⟩
  | presses + 1 => site.exchanged (WrittenCell.nextAnchors^[presses + 1] site.cell)

end AnchorSite

/-- A cell that is found behind a character of no name or number is one that stands apart. -/
theorem exists_site {body : Text} {caret : Nat} {placed : PlacedCell} (noHash : '#' ∉ body)
    (target : anchorTarget? ('=' :: body) caret = some placed)
    (apart : ∀ character ∈ ('=' :: body)[placed.start - 1]?, joinsCell character = false) :
    ∃ site : AnchorSite, '=' :: body = site.text site.cell ∧
      site.caret = min caret ('=' :: body).length ∧ placed = site.placed := by
  rw [anchorTarget?, PlacedCell.ofText_formula] at target
  have member := PlacedCell.mem_of_atCaret? target
  have spelled := PlacedCell.wellSpelled_of_mem_inText member
  obtain ⟨before, after, rfl, startEq, stops⟩ := PlacedCell.exists_split_of_mem_inText member
  obtain ⟨cell, start⟩ := placed
  dsimp only at startEq apart target spelled stops
  subst startEq
  have endsApart : EndsApart before := by
    intro last isLast
    rw [List.getLast?_eq_getElem?] at isLast
    have inside : before.length - 1 < before.length := (List.getElem?_eq_some_iff.mp isLast).1
    have position : 1 + before.length - 1 = before.length - 1 + 1 := by omega
    refine apart last ?_
    rw [position, List.getElem?_cons_succ, List.getElem?_append_left inside]
    exact isLast
  have fits : min caret ('=' :: (before ++ (cell.text ++ after))).length ≤
      (before ++ (cell.text ++ after)).length + 1 := Nat.min_le_right _ _
  exact ⟨⟨before, cell, after, _, endsApart, fun hash => noHash (List.mem_append_left _ hash),
    spelled, stops, fits, target⟩, rfl, rfl, rfl⟩

/-- Four presses at a cell, each at the caret that the one before it left. -/
structure AnchorPeriod (text : Text) (caret : Nat) (placed : PlacedCell)
    (edits : Nat → TextEdit) : Prop where
  first : edits 0 = ⟨text, caret⟩
  /-- Every press changes something. -/
  pressed : ∀ presses, cycleAnchors? (edits presses).text (edits presses).caret =
    some (edits (presses + 1))
  /-- Every press is for the same cell. -/
  target : ∀ presses, ∃ cell, anchorTarget? (edits presses).text (edits presses).caret =
    some ⟨cell, placed.start⟩ ∧ cell.letters = placed.cell.letters ∧
      cell.digits = placed.cell.digits
  /-- The cell gets each combination of marks once. -/
  combination : ∀ marks, ∃! presses : Fin 4, (anchorTarget? (edits (presses + 1)).text
    (edits (presses + 1)).caret).map (fun placed => placed.cell.marks) = some marks
  /-- The last press brings the draft back. A caret inside the cell is then at its end. -/
  last : edits 4 = ⟨text,
    let caret := min caret text.length
    if placed.start < caret ∧ caret < placed.stop then placed.stop else caret⟩

theorem AnchorSite.anchorPeriod (site : AnchorSite) {caret : Nat}
    (clamped : site.caret = min caret (site.text site.cell).length) :
    AnchorPeriod (site.text site.cell) caret site.placed (site.edits caret) where
  first := rfl
  pressed presses := by
    cases presses with
    | zero => exact site.cycleAnchors?_text clamped
    | succ presses =>
        have cycled := site.cycleAnchors?_exchanged
          (WrittenCell.iterate_nextAnchors_letters (presses + 1) site.cell)
          (WrittenCell.iterate_nextAnchors_digits (presses + 1) site.cell)
        rw [← Function.iterate_succ_apply' WrittenCell.nextAnchors] at cycled
        exact cycled
  target presses := by
    refine ⟨WrittenCell.nextAnchors^[presses] site.cell, ?_,
      WrittenCell.iterate_nextAnchors_letters presses site.cell,
      WrittenCell.iterate_nextAnchors_digits presses site.cell⟩
    cases presses with
    | zero => exact site.anchorTarget?_text clamped
    | succ presses => exact site.anchorTarget?_pressed presses
  combination marks := by
    simp only [edits, site.anchorTarget?_pressed, Option.map_some, Option.some.injEq]
    exact WrittenCell.existsUnique_marks site.cell.nextAnchors marks
  last := by
    have length := site.placed.moveCaret_length site.caret
    rw [edits, WrittenCell.nextAnchors_four, exchanged, ← clamped]
    exact congrArg (TextEdit.mk _) length

/-- A reference that stands apart is the same after four presses, in a formula without error
literals. -/
theorem anchors_have_period_four {body : Text} {caret : Nat} {edit : TextEdit}
    (noHash : '#' ∉ body) (cycled : cycleAnchors? ('=' :: body) caret = some edit) :
    ∃ placed, anchorTarget? ('=' :: body) caret = some placed ∧
      ((∀ character ∈ ('=' :: body)[placed.start - 1]?, joinsCell character = false) →
        ∃ edits, AnchorPeriod ('=' :: body) caret placed edits) := by
  rw [cycleAnchors?_eq] at cycled
  obtain ⟨placed, target, -⟩ := Option.map_eq_some_iff.mp cycled
  refine ⟨placed, target, fun apart => ?_⟩
  obtain ⟨site, textEq, clamped, rfl⟩ := exists_site noHash target apart
  rw [textEq] at clamped ⊢
  exact ⟨_, site.anchorPeriod clamped⟩

/-- A corner of a block on another sheet, with the caret between its marks. -/
theorem block_corner_has_period_four :
    let body := "SUM($A:$A,'A 1'!B2:$C$3)&\"D4\"".toList
    ∃ edits, AnchorPeriod ('=' :: body) 22 ⟨⟨true, ['C'], true, ['3']⟩, 20⟩ edits ∧
      edits 4 = ⟨'=' :: body, 24⟩ := by
  intro body
  have noHash : '#' ∉ body := by decide +kernel
  have cycled : cycleAnchors? ('=' :: body) 22 =
      some ⟨"=SUM($A:$A,'A 1'!B2:C$3)&\"D4\"".toList, 23⟩ := by decide +kernel
  have isCorner : anchorTarget? ('=' :: body) 22 = some ⟨⟨true, ['C'], true, ['3']⟩, 20⟩ := by
    decide +kernel
  obtain ⟨placed, target, period⟩ := anchors_have_period_four noHash cycled
  rw [isCorner] at target
  cases target
  have behindColon : ('=' :: body)[20 - 1]? = some ':' := by decide +kernel
  rw [behindColon] at period
  obtain ⟨edits, period⟩ := period fun character isColon => Option.some.inj isColon ▸ rfl
  exact ⟨edits, period, period.last⟩

end Draft

end SheetEditor
