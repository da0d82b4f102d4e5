import SheetEditor.Proofs.Draft.CellLexemes
import SheetEditor.Proofs.Draft.Exchange
import SheetEditor.Proofs.Draft.Tiling

/-!
Contract: two texts that differ in one cell have the same other cells.

Owns: the text around a cell that a draft finds, the places of the cells of a text, and that
the cells of two texts are the same but for the one that they differ in, those after it
moved by the difference in length.

Does not own: that the tokens in front of the cell are the same
(`SheetEditor.Proofs.Draft.Exchange`).
-/

namespace SheetEditor.Draft

open Text (Stops)

variable {text rest following : Text} {first : Char} {start count : Nat} {placed : PlacedCell}

namespace PlacedCell

/-! ## Cells of an area -/

/-- An area is read one cell, or else one character, after another. -/
theorem inArea_induction {motive : Nat → Text → Prop} (nil : ∀ start, motive start [])
    (read : ∀ start text cell rest, WrittenCell.read? text = some (cell, rest) →
      motive (start + cell.text.length) rest → motive start text)
    (unread : ∀ start first following, WrittenCell.read? (first :: following) = none →
      motive (start + 1) following → motive start (first :: following)) :
    ∀ start text, motive start text
  | start, [] => nil start
  | start, first :: following =>
      match found : WrittenCell.read? (first :: following) with
      | none => unread start first following found (inArea_induction nil read unread _ following)
      | some (cell, rest) =>
          read start _ cell rest found (inArea_induction nil read unread _ rest)
termination_by _ text => text.length
decreasing_by
  · simp
  · have positive := WrittenCell.length_pos_of_read? found
    rw [WrittenCell.eq_append_of_read? found, List.length_append]
    omega

/-- The cell at an offset greater by some distance. -/
def shift (distance : Nat) (placed : PlacedCell) : PlacedCell :=
  { placed with start := placed.start + distance }

theorem map_shift_inArea (distance start : Nat) (text : Text) :
    (inArea start text).map (shift distance) = inArea (start + distance) text := by
  induction start, text using inArea_induction with
  | nil start => rw [inArea_nil, inArea_nil, List.map_nil]
  | read start text cell rest read inductionHypothesis =>
      rw [inArea_of_read? read, inArea_of_read? read, List.map_cons, inductionHypothesis, shift,
        Nat.add_right_comm]
  | unread start first following unread inductionHypothesis =>
      rw [inArea_of_unread unread, inArea_of_unread unread, inductionHypothesis, Nat.add_right_comm]

/-- The text around a cell of an area. -/
theorem exists_split_of_mem_inArea (member : placed ∈ inArea start text) :
    ∃ before after, text = before ++ (placed.cell.text ++ after) ∧
      placed.start = start + before.length ∧ Stops Char.isDigit after := by
  induction start, text using inArea_induction with
  | nil start =>
      rw [inArea_nil] at member
      cases member
  | read start text cell rest read inductionHypothesis =>
      rw [inArea_of_read? read] at member
      rcases List.mem_cons.mp member with rfl | later
      · exact ⟨[], rest, WrittenCell.eq_append_of_read? read, rfl,
          (WrittenCell.wellSpelled_of_read? read).2⟩
      · obtain ⟨before, after, rfl, startEq, stops⟩ := inductionHypothesis later
        refine ⟨cell.text ++ before, after, ?_, ?_, stops⟩
        · rw [WrittenCell.eq_append_of_read? read, List.append_assoc]
        · rw [startEq, List.length_append, Nat.add_assoc]
  | unread start first following unread inductionHypothesis =>
      rw [inArea_of_unread unread] at member
      obtain ⟨before, after, rfl, startEq, stops⟩ := inductionHypothesis member
      refine ⟨first :: before, after, rfl, ?_, stops⟩
      rw [startEq, List.length_cons, Nat.add_assoc, Nat.add_comm 1]

theorem inArea_append (stops : Stops WrittenCell.inCell rest) (start : Nat) (text : Text) :
    inArea start (text ++ rest) = inArea start text ++ inArea (start + text.length) rest := by
  induction start, text using inArea_induction with
  | nil start => rw [inArea_nil]; rfl
  | read start text cell after read inductionHypothesis =>
      have readMore : WrittenCell.read? (text ++ rest) = some (cell, after ++ rest) := by
        rw [WrittenCell.read?_append stops, read]
        rfl
      rw [inArea_of_read? readMore, inArea_of_read? read, inductionHypothesis, List.cons_append,
        WrittenCell.eq_append_of_read? read, List.length_append, Nat.add_assoc]
  | unread start first following unread inductionHypothesis =>
      have unreadMore : WrittenCell.read? (first :: (following ++ rest)) = none := by
        rw [← List.cons_append, WrittenCell.read?_append stops, unread]
        rfl
      rw [List.cons_append, inArea_of_unread unreadMore, inArea_of_unread unread,
        inductionHypothesis, List.length_cons, Nat.add_assoc, Nat.add_comm 1]

/-- Cells in front of a place that stands apart do not depend on what follows. -/
theorem inArea_append_apart {before : Text} (apart : EndsApart before) (start : Nat) (rest : Text) :
    inArea start (before ++ rest) = inArea start before ++ inArea (start + before.length) rest := by
  by_cases empty : before = []
  · subst empty
    rw [inArea_nil]
    rfl
  · obtain ⟨front, last, rfl, lastApart⟩ := apart.exists_last empty
    have stops (rest : Text) : Stops WrittenCell.inCell (last :: rest) :=
      Exchange.stops_last lastApart (fun _ => Exchange.joinsCell_of_inCell) rest
    have unread (rest : Text) : WrittenCell.read? (last :: rest) = none := by
      have outside : WrittenCell.inCell last = false := Text.stops_cons.mp (stops [])
      simp only [WrittenCell.inCell, Char.isAlphanum, Bool.or_eq_false_iff,
        decide_eq_false_iff_not] at outside
      simp [WrittenCell.read?, WrittenCell.splitMarker, outside]
    rw [List.append_assoc, List.singleton_append, inArea_append (stops rest),
      inArea_append (stops []), inArea_of_unread (unread rest), inArea_of_unread (unread []),
      inArea_nil, List.append_nil, List.length_append, List.length_singleton, Nat.add_assoc]

/-! ## Cells of a text -/

theorem map_shift_ofToken (distance : Nat) (token : Token) :
    (ofToken token).map (shift distance) = ofToken (token.shift distance) := by
  rw [ofToken, ofToken, map_shift_inArea, Token.shift, Nat.add_right_comm]

theorem map_shift_inText (distance start : Nat) (text : Text) :
    (inText start text).map (shift distance) = inText (start + distance) text := by
  rw [inText, inText, ← Token.map_shift_scanFrom, List.filter_map, List.flatMap_map, List.map_flatMap]
  simp only [map_shift_ofToken]
  rfl

/-- The cells of a token lie behind its last exclamation mark. -/
theorem exists_split_of_mem_ofToken {token : Token} (member : placed ∈ ofToken token) :
    ∃ before after, token.text = before ++ (placed.cell.text ++ after) ∧
      placed.start = token.start + before.length ∧ Stops Char.isDigit after ∧
      qualifierLength token.text ≤ before.length := by
  obtain ⟨before, after, textEq, startEq, stops⟩ := exists_split_of_mem_inArea member
  refine ⟨token.text.take (qualifierLength token.text) ++ before, after, ?_, ?_, stops, ?_⟩
  · rw [List.append_assoc, ← textEq, List.take_append_drop]
  · rw [startEq, List.length_append, List.length_take_of_le (qualifierLength_le _), Nat.add_assoc]
  · rw [List.length_append, List.length_take_of_le (qualifierLength_le _)]
    exact Nat.le_add_right _ _

end PlacedCell

/-! ## References with cells -/

namespace Token

/-- A reference is found as one, or is a qualifier alone, or a column alone. -/
theorem cases_of_reference {rule : Rule} (member : rule ∈ rules) {length : Nat}
    (recognised : rule text = some (.reference, length)) :
    referenceLength? text = some length ∨ qualifierLength? text = some length ∨
      identifierRule text = some (.reference, length) := by
  have mapped {Part : Type} {found : Option Part} {kind : TokenKind} {count : Part → Nat}
      (same : found.map (fun part => (kind, count part)) = some (.reference, length)) :
      kind = .reference ∧ found.map count = some length := by
    obtain ⟨part, found, pair⟩ := Option.map_eq_some_iff.mp same
    cases pair
    exact ⟨rfl, by rw [found]; rfl⟩
  simp only [rules, List.mem_cons, List.not_mem_nil, or_false] at member
  rcases member with rfl | rfl | rfl | rfl | rfl | rfl | rfl | rfl
  · unfold blankRule at recognised
    dsimp only at recognised
    split at recognised <;> cases recognised
  · cases (mapped recognised).1
  · unfold stringRule at recognised
    split at recognised
    · split at recognised <;> cases recognised
    · cases recognised
  · exact .inl (by simpa using (mapped recognised).2)
  · exact .inr (.inl (by simpa using (mapped recognised).2))
  · exact .inr (.inr recognised)
  · unfold numberRule at recognised
    dsimp only at recognised
    split at recognised <;> cases recognised
  · unfold longOperatorRule at recognised
    split at recognised <;> cases recognised

end Token

namespace PlacedCell

/-- A reference with a cell in it is found as one. -/
theorem referenceLength?_of_mem_ofToken
    (classified : Token.classify first following = (.reference, count))
    (member : placed ∈ ofToken ⟨.reference, first :: following.take count, start⟩) :
    Token.referenceLength? (first :: following) = some (count + 1) := by
  obtain ⟨before, after, textEq, _, _, qualifierFits⟩ := exists_split_of_mem_ofToken member
  have spelled : placed.cell.WellSpelled := wellSpelled_of_mem_inArea member
  obtain ⟨digit, digits, digitsEq⟩ := List.exists_cons_of_ne_nil spelled.digits_ne_nil
  have inCell : digit ∈ placed.cell.text := by simp [WrittenCell.text, digitsEq]
  dsimp only at textEq qualifierFits
  rw [← List.take_succ_cons] at textEq qualifierFits
  rcases Token.classify_cases first following with ⟨rule, isRule, length, recognised, countEq⟩ | single
  · rw [classified] at recognised countEq
    obtain rfl : length = count + 1 := by
      have positive := Token.advances_of_mem_rules isRule recognised
      dsimp only at countEq
      omega
    rcases Token.cases_of_reference isRule recognised with found | qualifier | named
    · exact found
    · exfalso
      rw [Token.qualifierLength?_eq] at qualifier
      obtain ⟨name, -, marked⟩ := Option.bind_eq_some_iff.mp qualifier
      split at marked
      · next isMark =>
          cases marked
          obtain ⟨others, dropped⟩ := List.head?_eq_some_iff.mp isMark
          rw [List.take_add, dropped, List.take_succ_cons, List.take_zero] at textEq qualifierFits
          have whole := congrArg List.length textEq
          have positive := List.length_pos_of_mem inCell
          rw [qualifierLength_append _ List.not_mem_nil] at qualifierFits
          simp only [List.length_append, List.length_singleton] at whole
          omega
      · cases marked
    · exfalso
      have letters := isAlpha_of_identifierRule named rfl
      rw [textEq] at letters
      have isAlpha := letters digit (by simp [inCell])
      have isDigit := spelled.digits_decimal digit (digitsEq ▸ List.mem_cons_self)
      rw [not_isAlpha_of_isDigit isDigit] at isAlpha
      cases isAlpha
  · rw [classified] at single
    exact absurd (congrArg Prod.fst single).symm (punctuationKind_ne_reference first)

/-- The text around a cell that is found in a text. -/
theorem exists_split_of_mem_inText (member : placed ∈ inText start text) :
    ∃ before after, text = before ++ (placed.cell.text ++ after) ∧
      placed.start = start + before.length ∧ Stops Char.isDigit after := by
  induction text using Token.scan_induction generalizing start with
  | nil =>
      rw [inText_nil] at member
      cases member
  | cons first following inductionHypothesis =>
      obtain ⟨kind, count, classified⟩ : ∃ kind count,
          Token.classify first following = (kind, count) := ⟨_, _, rfl⟩
      rw [classified] at inductionHypothesis
      rw [inText_of_classify classified] at member
      rcases List.mem_append.mp member with inToken | later
      · split at inToken
        · next isReference =>
            subst isReference
            obtain ⟨before, after, textEq, startEq, stops, _⟩ := exists_split_of_mem_ofToken inToken
            have found := referenceLength?_of_mem_ofToken classified inToken
            obtain ⟨_, _, _, boundary⟩ := Token.referenceLength?_cases found
            rw [List.drop_succ_cons] at boundary
            refine ⟨before, after ++ following.drop count, ?_, startEq, ?_⟩
            · rw [← List.append_assoc placed.cell.text, ← List.append_assoc, ← textEq,
                List.cons_append, List.take_append_drop]
            · refine Text.stops_append stops fun _ => ?_
              refine (isBoundary_iff.mp boundary).1.mono fun next isDigit => ?_
              simp [Formula.continuesIdentifier, Formula.Token.inIdentifier, Char.isAlphanum, isDigit]
        · cases inToken
      · obtain ⟨before, after, textEq, startEq, stops⟩ := inductionHypothesis later
        have fits : count ≤ following.length := by
          have fits := Token.classify_le first following
          rwa [classified] at fits
        refine ⟨first :: following.take count ++ before, after, ?_, ?_, stops⟩
        · rw [List.append_assoc, ← textEq, List.cons_append, List.take_append_drop]
        · rw [startEq, List.length_append, List.length_cons, List.length_take_of_le fits,
            Nat.add_assoc]

theorem start_le_of_mem_inText (member : placed ∈ inText start text) : start ≤ placed.start := by
  obtain ⟨before, _, _, startEq, _⟩ := exists_split_of_mem_inText member
  rw [startEq]
  exact Nat.le_add_right _ _

theorem stop_le_of_mem_inArea (member : placed ∈ inArea start text) :
    placed.stop ≤ start + text.length := by
  obtain ⟨before, after, rfl, startEq, _⟩ := exists_split_of_mem_inArea member
  rw [stop, startEq, List.length_append, List.length_append]
  omega

theorem stop_le_of_mem_ofToken {token : Token} (member : placed ∈ ofToken token) :
    placed.stop ≤ token.stop := by
  obtain ⟨before, after, textEq, startEq, _⟩ := exists_split_of_mem_ofToken member
  rw [stop, startEq, Token.stop, textEq, List.length_append, List.length_append]
  omega

/-- The cells of the first token of a text are in the text. -/
theorem stop_le_of_mem_first {kind : TokenKind} (fits : count ≤ following.length)
    (member : placed ∈ if kind = .reference then
      ofToken ⟨kind, first :: following.take count, start⟩ else []) :
    placed.stop ≤ start + (first :: following).length := by
  split at member
  · have inside := stop_le_of_mem_ofToken member
    simp only [Token.stop, List.length_cons, List.length_take_of_le fits] at inside ⊢
    omega
  · cases member

end PlacedCell

/-! ## A cell at the start of a text -/

/-- A cell is a qualifier only in front of an exclamation mark. -/
theorem qualifierLength?_cell {cell : WrittenCell} (spelled : cell.WellSpelled)
    (stops : Stops Formula.continuesIdentifier rest) :
    Token.qualifierLength? (cell.text ++ rest) = none := by
  obtain ⟨first, word, textEq, begins, inside⟩ := Formula.exists_cell_word spelled
  rw [textEq]
  refine qualifierLength?_word begins (fun character member => ?_) stops
  have inCell := inside character member
  simp only [WrittenCell.inCell, Bool.or_eq_true, decide_eq_true_eq] at inCell
  rcases inCell with isAlphanum | rfl
  · simp [Formula.Token.inIdentifier, isAlphanum]
  · rfl

namespace Exchange

open PlacedCell (inText shift)

/-- What comes after a cell and the cell paired with it does not go on with either of them. -/
theorem stops_of_boundary {after : Text}
    (boundary : Token.isBoundary (after.drop (pairedLength after)) = true) :
    Stops Formula.continuesIdentifier after := by
  cases after with
  | nil => exact Text.stops_nil
  | cons next others =>
      by_cases isColon : next = ':'
      · subst isColon
        exact Text.stops_cons.mpr rfl
      · have unpaired : pairedLength (next :: others) = 0 := by simp [pairedLength, isColon]
        rw [unpaired, List.drop_zero] at boundary
        exact (isBoundary_iff.mp boundary).1

variable (exchange : Exchange)

/-- Two lists have the same cells, except that one has the one cell at a position and the other has
the other cell, and that those after it are as far behind its end. -/
def ExchangesAt (position : Nat) (cells others : List PlacedCell) : Prop :=
  ∃ front back : List PlacedCell, (∀ placed ∈ front, placed.stop ≤ position) ∧
    cells = front ++ ⟨exchange.cell, position⟩ ::
      back.map (shift (position + exchange.cell.text.length)) ∧
    others = front ++ ⟨exchange.other, position⟩ ::
      back.map (shift (position + exchange.other.text.length))

variable {exchange} {before : Text}

theorem ExchangesAt.prepend {position : Nat} {cells others front : List PlacedCell}
    (early : ∀ placed ∈ front, placed.stop ≤ position)
    (exchanges : exchange.ExchangesAt position cells others) :
    exchange.ExchangesAt position (front ++ cells) (front ++ others) := by
  obtain ⟨middle, back, middleEarly, rfl, rfl⟩ := exchanges
  refine ⟨front ++ middle, back, List.forall_mem_append.mpr ⟨early, middleEarly⟩, ?_, ?_⟩
  · rw [List.append_assoc]
  · rw [List.append_assoc]

/-- The cells of an area around a cell, and those of the text after the area. -/
theorem inArea_around {cell : WrittenCell} (spelled : cell.WellSpelled) (apart : EndsApart before)
    {inner : Text} (stops : Stops Char.isDigit inner) (start : Nat) (rest : Text) :
    PlacedCell.inArea start (before ++ (cell.text ++ inner)) ++
        inText (start + before.length + cell.text.length + inner.length) rest =
      PlacedCell.inArea start before ++ ⟨cell, start + before.length⟩ ::
        (PlacedCell.inArea 0 inner ++ inText inner.length rest).map
          (shift (start + before.length + cell.text.length)) := by
  rw [PlacedCell.inArea_append_apart apart, PlacedCell.inArea_of_read? (spelled.read? stops),
    List.map_append, PlacedCell.map_shift_inArea, PlacedCell.map_shift_inText, Nat.zero_add,
    Nat.add_comm inner.length]
  simp

theorem exchangesAt_area (apart : EndsApart before) {inner : Text} (stops : Stops Char.isDigit inner)
    (start : Nat) (rest : Text) :
    exchange.ExchangesAt (start + before.length)
      (PlacedCell.inArea start (before ++ (exchange.cell.text ++ inner)) ++
        inText (start + before.length + exchange.cell.text.length + inner.length) rest)
      (PlacedCell.inArea start (before ++ (exchange.other.text ++ inner)) ++
        inText (start + before.length + exchange.other.text.length + inner.length) rest) :=
  ⟨PlacedCell.inArea start before, PlacedCell.inArea 0 inner ++ inText inner.length rest,
    fun _ => PlacedCell.stop_le_of_mem_inArea, inArea_around exchange.spelled apart stops start rest,
    inArea_around exchange.otherSpelled apart stops start rest⟩

/-- A reference that begins with a cell has the other corner, if any, after it. -/
theorem inText_cell {cell : WrittenCell} (spelled : cell.WellSpelled) {after : Text}
    (stops : Stops Char.isDigit after)
    (boundary : Token.isBoundary (after.drop (pairedLength after)) = true) (start : Nat) :
    inText start (cell.text ++ after) =
      PlacedCell.inArea start (cell.text ++ after.take (pairedLength after)) ++
        inText (start + cell.text.length + (after.take (pairedLength after)).length)
          (after.drop (pairedLength after)) := by
  have unqualified := qualifierLength?_cell spelled (stops_of_boundary boundary)
  have found : Token.referenceLength? (cell.text ++ after) =
      some (cell.text.length + pairedLength after) := by
    rw [referenceLength?_eq, unqualified, Option.getD_none, List.drop_zero,
      boundedAreaLength?_cell spelled stops, if_pos boundary, Option.map_some, Nat.zero_add]
  rw [PlacedCell.inText_of_referenceLength? unqualified found, List.take_length_add_append,
    List.drop_length_add_append, List.length_take_of_le (pairedLength_le after), Nat.add_assoc]

/-- A cell that is found at the start of a text is a reference, alone or as a corner. -/
theorem boundary_of_mem_inText
    (member : ⟨exchange.cell, start⟩ ∈ inText start (exchange.original [])) :
    Token.isBoundary (exchange.after.drop (pairedLength exchange.after)) = true := by
  rw [original, List.nil_append] at member
  obtain ⟨first, following, textEq⟩ : ∃ first following,
      exchange.cell.text ++ exchange.after = first :: following :=
    List.exists_cons_of_ne_nil (List.append_ne_nil_of_left_ne_nil exchange.spelled.text_ne_nil _)
  obtain ⟨kind, count, classified⟩ : ∃ kind count,
      Token.classify first following = (kind, count) := ⟨_, _, rfl⟩
  rw [textEq, PlacedCell.inText_of_classify classified] at member
  rcases List.mem_append.mp member with inToken | later
  · split at inToken
    · next isReference =>
        subst isReference
        obtain ⟨front, _, tokenEq, startEq, _, qualifierFits⟩ :=
          PlacedCell.exists_split_of_mem_ofToken inToken
        obtain rfl : front = [] := List.length_eq_zero_iff.mp (by dsimp only at startEq; omega)
        have unmarked : '!' ∉ first :: following.take count :=
          PlacedCell.unmarked_of_qualifierLength [] qualifierFits
        have unqualified : Token.qualifierLength? (first :: following) = none := by
          by_contra qualified
          obtain ⟨qualifier, found⟩ := Option.ne_none_iff_exists'.mp qualified
          have marked := Token.mark_mem_of_qualifierLength? found
          rw [classified] at marked
          exact unmarked marked
        have found := PlacedCell.referenceLength?_of_mem_ofToken classified inToken
        rw [referenceLength?_eq, unqualified, Option.getD_none, List.drop_zero, ← textEq,
          boundedAreaLength?_cell exchange.spelled exchange.stops] at found
        by_contra unbounded
        rw [if_neg unbounded] at found
        cases found
    · cases inToken
  · have behind := PlacedCell.start_le_of_mem_inText later
    dsimp only at behind
    omega

theorem exchangesAt_start
    (member : ⟨exchange.cell, start⟩ ∈ inText start (exchange.original [])) :
    exchange.ExchangesAt start (inText start (exchange.original []))
      (inText start (exchange.replaced [])) := by
  have boundary := boundary_of_mem_inText member
  have stops : Stops Char.isDigit (exchange.after.take (pairedLength exchange.after)) := by
    intro next isHead
    rw [List.head?_take] at isHead
    split at isHead
    · cases isHead
    · exact exchange.stops next isHead
  have area : exchange.ExchangesAt _ _ _ := exchangesAt_area endsApart_nil stops start
    (exchange.after.drop (pairedLength exchange.after))
  rw [original, replaced, List.nil_append, List.nil_append,
    inText_cell exchange.spelled exchange.stops boundary,
    inText_cell exchange.otherSpelled exchange.stops boundary]
  simpa using area

/-- The cells of a token around an unqualified cell. -/
theorem ofToken_around (kind : TokenKind) (before : Text) {tail : Text} (unmarked : '!' ∉ tail)
    (start : Nat) :
    PlacedCell.ofToken ⟨kind, before ++ tail, start⟩ =
      PlacedCell.inArea (start + PlacedCell.qualifierLength before)
        (before.drop (PlacedCell.qualifierLength before) ++ tail) := by
  rw [PlacedCell.ofToken, PlacedCell.qualifierLength_append_unmarked before unmarked,
    List.drop_append_of_le_length (PlacedCell.qualifierLength_le before)]

/-- The token that reaches over the cell has it behind its qualifier. -/
theorem exchangesAt_token (apart : EndsApart before) {kind : TokenKind} {inner : Text}
    (member : ⟨exchange.cell, start + before.length⟩ ∈
      PlacedCell.ofToken ⟨kind, before ++ (exchange.cell.text ++ inner), start⟩) (rest : Text) :
    exchange.ExchangesAt (start + before.length)
      (PlacedCell.ofToken ⟨kind, before ++ (exchange.cell.text ++ inner), start⟩ ++
        inText (start + before.length + exchange.cell.text.length + inner.length) rest)
      (PlacedCell.ofToken ⟨kind, before ++ (exchange.other.text ++ inner), start⟩ ++
        inText (start + before.length + exchange.other.text.length + inner.length) rest) := by
  obtain ⟨front, others, textEq, startEq, stops, qualifierFits⟩ :=
    PlacedCell.exists_split_of_mem_ofToken member
  have sameLength : before.length = front.length := Nat.add_left_cancel startEq
  obtain ⟨rfl, sameTail⟩ := List.append_inj textEq sameLength
  obtain rfl : inner = others := List.append_cancel_left sameTail
  have unmarked := PlacedCell.unmarked_of_qualifierLength before qualifierFits
  have otherUnmarked : '!' ∉ exchange.other.text ++ inner := by
    intro marked
    rcases List.mem_append.mp marked with inCell | inInner
    · cases exchange.otherSpelled.inCell '!' inCell
    · exact unmarked (List.mem_append_right _ inInner)
  have fits := PlacedCell.qualifierLength_le before
  have position : start + PlacedCell.qualifierLength before +
      (before.drop (PlacedCell.qualifierLength before)).length = start + before.length := by
    rw [List.length_drop]
    omega
  have area : exchange.ExchangesAt _ _ _ :=
    exchangesAt_area (apart.drop (PlacedCell.qualifierLength before)) stops
      (start + PlacedCell.qualifierLength before) rest
  rw [position] at area
  rw [ofToken_around kind before unmarked, ofToken_around kind before otherUnmarked]
  exact area

/-- So has the first token of a text, if it reaches over the cell. -/
theorem exchangesAt_reached (apart : EndsApart (first :: following)) {kind : TokenKind}
    {reached : Nat} (fits : reached ≤ exchange.after.length)
    (classified : Token.classify first (exchange.original following) =
      (kind, following.length + exchange.cell.text.length + reached))
    (otherClassified : Token.classify first (exchange.replaced following) =
      (kind, following.length + exchange.other.text.length + reached))
    (member : ⟨exchange.cell, start + (first :: following).length⟩ ∈
      inText start (exchange.original (first :: following))) :
    exchange.ExchangesAt (start + (first :: following).length)
      (inText start (exchange.original (first :: following)))
      (inText start (exchange.replaced (first :: following))) := by
  have cells : inText start (exchange.original (first :: following)) = _ :=
    PlacedCell.inText_of_classify classified start
  have others : inText start (exchange.replaced (first :: following)) = _ :=
    PlacedCell.inText_of_classify otherClassified start
  have stop {cell : WrittenCell} : start + (following.length + cell.text.length + reached + 1) =
      start + (first :: following).length + cell.text.length +
        (exchange.after.take reached).length := by
    rw [List.length_take_of_le fits, List.length_cons]
    omega
  rw [take_original_beyond, drop_original_beyond, stop] at cells
  rw [take_replaced_beyond, drop_replaced_beyond, stop] at others
  rw [cells] at member
  rw [cells, others]
  rcases List.mem_append.mp member with inToken | later
  · split at inToken
    · next isReference =>
        rw [if_pos isReference, if_pos isReference]
        exact exchangesAt_token apart inToken _
    · cases inToken
  · have positive := List.length_pos_of_ne_nil exchange.spelled.text_ne_nil
    have behind := PlacedCell.start_le_of_mem_inText later
    dsimp only at behind
    omega

/-- The cells of two texts that differ in one cell, which stands apart. -/
theorem exchangesAt_inText (apart : EndsApart before) (noHash : '#' ∉ before)
    (member : ⟨exchange.cell, start + before.length⟩ ∈ inText start (exchange.original before)) :
    exchange.ExchangesAt (start + before.length) (inText start (exchange.original before))
      (inText start (exchange.replaced before)) := by
  -- The induction is over the tokens in front of the cell; the one that reaches it is the last.
  induction size : before.length using Nat.strong_induction_on generalizing before start with
  | _ size inductionHypothesis =>
  subst size
  cases before with
  | nil => exact exchangesAt_start member
  | cons first following =>
      have notHash : first ≠ '#' := fun isHash => noHash (isHash ▸ List.mem_cons_self)
      have same := exchange.sameToken_classify apart notHash
      obtain ⟨kind, count, classified⟩ : ∃ kind count,
          Token.classify first (exchange.original following) = (kind, count) := ⟨_, _, rfl⟩
      obtain ⟨otherKind, otherCount, otherClassified⟩ : ∃ kind count,
          Token.classify first (exchange.replaced following) = (kind, count) := ⟨_, _, rfl⟩
      rw [classified, otherClassified] at same
      obtain ⟨sameKind, sameEnd⟩ := same
      dsimp only at sameKind sameEnd
      subst sameKind
      rcases sameEnd.eq_cases with ⟨rfl, fits⟩ | ⟨reached, fits, rfl, rfl⟩
      · have cells : inText start (exchange.original (first :: following)) = _ :=
          PlacedCell.inText_of_classify_append classified fits start
        have others : inText start (exchange.replaced (first :: following)) = _ :=
          PlacedCell.inText_of_classify_append otherClassified fits start
        rw [cells] at member
        rw [cells, others]
        refine ExchangesAt.prepend (fun _ => PlacedCell.stop_le_of_mem_first fits) ?_
        rcases List.mem_append.mp member with inToken | later
        · have positive := List.length_pos_of_ne_nil exchange.spelled.text_ne_nil
          have early := PlacedCell.stop_le_of_mem_first fits inToken
          dsimp only [PlacedCell.stop] at early
          omega
        · have position : start + (first :: following).length =
              start + (count + 1) + (following.drop count).length := by
            rw [List.length_drop, List.length_cons]
            omega
          have shorter : (following.drop count).length < (first :: following).length := by
            rw [List.length_drop, List.length_cons]
            omega
          rw [position] at later ⊢
          refine inductionHypothesis _ shorter (apart.tail.drop count) (fun hash => noHash ?_) later rfl
          exact List.mem_cons_of_mem _ (List.mem_of_mem_drop hash)
      · exact exchangesAt_reached apart fits classified otherClassified member

end Exchange

end SheetEditor.Draft
