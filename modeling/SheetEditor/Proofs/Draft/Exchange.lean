import SheetEditor.Proofs.Draft.Characters
import SheetEditor.Proofs.Grid.CellName

/-!
Contract: what the tolerant scan finds in front of a cell does not depend on the cell.

Owns: two texts that differ in one cell, places in the one that are the same place of the
other, and that every rule of the scan recognises a token with the same end in both of them,
if it begins before the cell and the cell stands apart.

Does not own: which cells the two texts have (`SheetEditor.Proofs.Draft.CellExchange`).

A cell stands apart if the character before it is none that a name or a number goes on
with. A token that reaches the cell then takes in all of it: a string, a quoted sheet name,
or a reference of which the cell is a corner.
-/

namespace SheetEditor

open Text (Stops)

/-! ## Text that stands apart -/

/-- Whether a character could be read with a cell after it. -/
def joinsCell (character : Char) : Bool :=
  character.isAlphanum || ['_', '.', '$'].contains character

/-- A text of which no character is read with a cell after the text. -/
def EndsApart (text : Text) : Prop := ∀ last ∈ text.getLast?, joinsCell last = false

theorem endsApart_nil : EndsApart [] := by
  rintro last ⟨⟩

theorem EndsApart.drop {text : Text} (apart : EndsApart text) (count : Nat) :
    EndsApart (text.drop count) := by
  intro last isLast
  rw [List.getLast?_drop] at isLast
  split at isLast
  · cases isLast
  · exact apart last isLast

theorem EndsApart.tail {first : Char} {text : Text} (apart : EndsApart (first :: text)) :
    EndsApart text := apart.drop 1

theorem EndsApart.exists_last {text : Text} (apart : EndsApart text) (nonempty : text ≠ []) :
    ∃ front last, text = front ++ [last] ∧ joinsCell last = false := by
  have isLast := List.getLast?_eq_some_getLast nonempty
  exact ⟨text.dropLast, text.getLast nonempty, (List.dropLast_append_getLast nonempty).symm,
    apart _ isLast⟩

namespace Draft

/-! ## Two texts -/

/-- Two cells, each in front of the same text, which does not go on with their digits. -/
structure Exchange where
  cell : WrittenCell
  other : WrittenCell
  after : Text
  spelled : cell.WellSpelled
  otherSpelled : other.WellSpelled
  stops : Stops Char.isDigit after

namespace Exchange

variable (exchange : Exchange)

/-- The text with the one cell. -/
def original (before : Text) : Text := before ++ (exchange.cell.text ++ exchange.after)

/-- The text with the other cell. -/
def replaced (before : Text) : Text := before ++ (exchange.other.text ++ exchange.after)

/-- Two lengths from the start that end at the same place of the text before the cells, or at the
same place of the text after them. -/
inductive SameEnd (before : Text) : Nat → Nat → Prop where
  | within {length : Nat} (fits : length ≤ before.length) : SameEnd before length length
  | beyond {length : Nat} (fits : length ≤ exchange.after.length) :
      SameEnd before (before.length + exchange.cell.text.length + length)
        (before.length + exchange.other.text.length + length)

/-- A part of a reference is at the start of both texts, with the same end, or of neither. -/
def SameLength (part : Text → Option Nat) (before : Text) : Prop :=
  Option.Rel (exchange.SameEnd before) (part (exchange.original before))
    (part (exchange.replaced before))

/-- Tokens of one class with the same end. -/
def SameToken (before : Text) (token other : TokenKind × Nat) : Prop :=
  token.1 = other.1 ∧ exchange.SameEnd before token.2 other.2

/-- A rule recognises the same token in both texts, or nothing in either. -/
def SameRule (rule : Token.Rule) (before : Text) : Prop :=
  Option.Rel (exchange.SameToken before) (rule (exchange.original before))
    (rule (exchange.replaced before))

variable {exchange} {before : Text}

/-! ## Ends of parts -/

theorem SameEnd.eq_cases {length other : Nat} (same : exchange.SameEnd before length other) :
    length = other ∧ length ≤ before.length ∨
      ∃ reached ≤ exchange.after.length,
        length = before.length + exchange.cell.text.length + reached ∧
          other = before.length + exchange.other.text.length + reached := by
  cases same with
  | within fits => exact .inl ⟨rfl, fits⟩
  | beyond fits => exact .inr ⟨_, fits, rfl, rfl⟩

/-- An end is the same if it is counted from further on. -/
theorem SameEnd.add {front : Text} {length other : Nat} (same : exchange.SameEnd before length other) :
    exchange.SameEnd (front ++ before) (front.length + length) (front.length + other) := by
  cases same with
  | within fits => exact .within (by rw [List.length_append]; omega)
  | @beyond length fits =>
      have whole : exchange.SameEnd (front ++ before) _ _ := .beyond fits
      rw [List.length_append] at whole
      convert whole using 1 <;> omega

/-- An end after the first character. -/
theorem SameEnd.tail {first : Char} {length other : Nat}
    (same : exchange.SameEnd (first :: before) length other) :
    exchange.SameEnd before (length - 1) (other - 1) := by
  cases same with
  | within fits => exact .within (Nat.sub_le_of_le_add fits)
  | @beyond length fits =>
      have whole : exchange.SameEnd before _ _ := .beyond fits
      rw [List.length_cons]
      convert whole using 1 <;> omega

theorem drop_original {length : Nat} (fits : length ≤ before.length) :
    (exchange.original before).drop length = exchange.original (before.drop length) :=
  List.drop_append_of_le_length fits

theorem drop_replaced {length : Nat} (fits : length ≤ before.length) :
    (exchange.replaced before).drop length = exchange.replaced (before.drop length) :=
  List.drop_append_of_le_length fits

theorem drop_original_beyond (length : Nat) :
    (exchange.original before).drop (before.length + exchange.cell.text.length + length) =
      exchange.after.drop length := by
  rw [original, Nat.add_assoc, List.drop_length_add_append, List.drop_length_add_append]

theorem drop_replaced_beyond (length : Nat) :
    (exchange.replaced before).drop (before.length + exchange.other.text.length + length) =
      exchange.after.drop length := by
  rw [replaced, Nat.add_assoc, List.drop_length_add_append, List.drop_length_add_append]

theorem take_original_beyond (length : Nat) :
    (exchange.original before).take (before.length + exchange.cell.text.length + length) =
      before ++ (exchange.cell.text ++ exchange.after.take length) := by
  rw [original, Nat.add_assoc, List.take_length_add_append, List.take_length_add_append]

theorem take_replaced_beyond (length : Nat) :
    (exchange.replaced before).take (before.length + exchange.other.text.length + length) =
      before ++ (exchange.other.text ++ exchange.after.take length) := by
  rw [replaced, Nat.add_assoc, List.take_length_add_append, List.take_length_add_append]

/-- Related options are both nothing or both something. -/
theorem cases_of_rel {Left Right : Type} {related : Left → Right → Prop} {left : Option Left}
    {right : Option Right} (rel : Option.Rel related left right) :
    left = none ∧ right = none ∨
      ∃ first second, left = some first ∧ right = some second ∧ related first second := by
  cases rel with
  | none => exact .inl ⟨rfl, rfl⟩
  | some same => exact .inr ⟨_, _, rfl, rfl, same⟩

/-- A part that looks at nothing but the text before the cells is the same. -/
theorem sameLength_of_stable {part : Text → Option Nat} {found : Option Nat}
    (stable : ∀ {cell : WrittenCell}, cell.WellSpelled →
      part (before ++ (cell.text ++ exchange.after)) = found)
    (fits : ∀ length ∈ found, length ≤ before.length) : exchange.SameLength part before := by
  unfold SameLength original replaced
  rw [stable exchange.spelled, stable exchange.otherSpelled]
  cases found with
  | none => exact .none
  | some length => exact .some (.within (fits length rfl))

/-- So is a rule that looks at nothing else. -/
theorem sameRule_of_stable {rule : Token.Rule} (fits : rule.Fits)
    (stable : ∀ {cell : WrittenCell}, cell.WellSpelled →
      rule (before ++ (cell.text ++ exchange.after)) = rule before) :
    exchange.SameRule rule before := by
  unfold SameRule original replaced
  rw [stable exchange.spelled, stable exchange.otherSpelled]
  cases found : rule before with
  | none => exact .none
  | some token => exact .some ⟨rfl, .within (fits found)⟩

theorem sameRule_of_sameLength {part : Text → Option Nat} (kind : TokenKind)
    (same : exchange.SameLength part before) :
    exchange.SameRule (fun text => (part text).map (kind, ·)) before := by
  unfold SameRule
  dsimp only
  rcases cases_of_rel same with ⟨absent, otherAbsent⟩ | ⟨length, other, found, otherFound, sameEnd⟩
  · rw [absent, otherAbsent]
    exact .none
  · rw [found, otherFound]
    exact .some ⟨rfl, sameEnd⟩

/-! ## Rules that look at nothing else -/

theorem sameRule_blank : exchange.SameRule Token.blankRule before := by
  refine sameRule_of_stable Token.blankRule_fits fun spelled => ?_
  have stops : Stops isBlank _ := spelled.stops_text
    (fun letter isAlpha => isBlank_of_isAlphanum (by simp [Char.isAlphanum, isAlpha])) rfl
    exchange.after
  simp only [Token.blankRule, Text.takeWhile_append stops]

theorem sameRule_errorLiteral {first : Char} {following : Text} (notHash : first ≠ '#') :
    exchange.SameRule Token.errorLiteralRule (first :: following) :=
  sameRule_of_stable Token.errorLiteralRule_fits fun _ =>
    (Token.errorLiteralRule_eq_none notHash).trans (Token.errorLiteralRule_eq_none notHash).symm

/-- A text that stands apart, with its last character put in front of what follows. -/
theorem stops_last {continues : Char → Bool} {last : Char} (apart : joinsCell last = false)
    (joins : ∀ character, continues character = true → joinsCell character = true) (rest : Text) :
    Stops continues (last :: rest) := by
  rw [Text.stops_cons]
  by_contra inside
  rw [joins last (by simpa using inside)] at apart
  cases apart

theorem joinsCell_of_inName {character : Char} (inside : Token.inName character = true) :
    joinsCell character = true := by
  simp only [Token.inName, Bool.or_eq_true, decide_eq_true_eq] at inside
  rcases inside with (isAlphanum | rfl) | rfl
  · rw [joinsCell, isAlphanum, Bool.true_or]
  · rfl
  · rfl

theorem joinsCell_of_inCell {character : Char} (inside : WrittenCell.inCell character = true) :
    joinsCell character = true := by
  simp only [WrittenCell.inCell, Bool.or_eq_true, decide_eq_true_eq] at inside
  rcases inside with isAlphanum | rfl
  · rw [joinsCell, isAlphanum, Bool.true_or]
  · rfl

theorem joinsCell_of_continuesDigits {character : Char}
    (inside : Decimal.continuesDigits character = true) : joinsCell character = true := by
  simp only [Decimal.continuesDigits, Bool.or_eq_true, List.contains_iff_mem, List.mem_cons,
    List.not_mem_nil, or_false] at inside
  rcases inside with isDigit | rfl | rfl | rfl
  · simp [joinsCell, Char.isAlphanum, isDigit]
  all_goals rfl

/-- An identifier ends before the last character of a text that stands apart. -/
theorem identifierLength?_append_apart (apart : EndsApart before) (nonempty : before ≠ [])
    (rest : Text) : Token.identifierLength? (before ++ rest) = Token.identifierLength? before := by
  obtain ⟨front, last, rfl, lastApart⟩ := apart.exists_last nonempty
  have stops (rest : Text) : Stops Token.inName (last :: rest) :=
    stops_last lastApart (fun _ => joinsCell_of_inName) rest
  rw [List.append_assoc, List.singleton_append, Token.identifierLength?_append (stops rest),
    Token.identifierLength?_append (stops [])]

theorem head?_append_of_ne {mark : Char} {front rest : Text} (stops : Stops (· = mark) rest) :
    (front ++ rest).head? = some mark ↔ front.head? = some mark := by
  cases front with
  | cons next others => rfl
  | nil =>
      cases rest with
      | nil => rfl
      | cons next others =>
          have different : next ≠ mark := by simpa using stops
          simp [different]

theorem sameRule_identifier (apart : EndsApart before) (nonempty : before ≠ []) :
    exchange.SameRule Token.identifierRule before := by
  refine sameRule_of_stable Token.identifierRule_fits fun {cell} spelled => ?_
  have blankStops : Stops isBlank (cell.text ++ exchange.after) := spelled.stops_text
    (fun letter isAlpha => isBlank_of_isAlphanum (by simp [Char.isAlphanum, isAlpha])) rfl _
  have notCalled : Stops (· = '(') (cell.text ++ exchange.after) :=
    spelled.stops_mark rfl (by decide) _
  unfold Token.identifierRule
  rw [identifierLength?_append_apart apart nonempty]
  cases found : Token.identifierLength? before with
  | none => rfl
  | some length =>
      have fits := Token.identifierLength?_le found
      simp only [Option.bind_eq_bind, Option.bind_some, List.take_append_of_le_length fits,
        List.drop_append_of_le_length fits, Text.dropWhile_append blankStops,
        head?_append_of_ne notCalled]

/-- A numeral ends before the last character of a text that stands apart, unless a sign is last; then
no digits come after the sign. -/
theorem sameRule_number (apart : EndsApart before) (nonempty : before ≠ []) :
    exchange.SameRule Token.numberRule before := by
  obtain ⟨front, last, rfl, lastApart⟩ := apart.exists_last nonempty
  have stops (rest : Text) : Stops Decimal.continuesDigits (last :: rest) :=
    stops_last lastApart (fun _ => joinsCell_of_continuesDigits) rest
  have stable {rest : Text} (noDigit : Stops Char.isDigit rest) :
      Token.numberRule (front ++ last :: rest) = Token.numberRule front := by
    refine Token.numberRule_append_of_exponent (stops rest) fun text =>
      Decimal.exponentLength_append_of_noDigits (stops rest) ?_
    unfold Decimal.signLength
    split
    · exact noDigit
    · exact Decimal.stops_digit (stops rest)
  refine sameRule_of_stable Token.numberRule_fits fun spelled => ?_
  have noDigit : Stops Char.isDigit _ := spelled.stops_text
    (fun _ => not_isDigit_of_isAlpha) rfl exchange.after
  rw [List.append_assoc, List.singleton_append, stable noDigit, stable Text.stops_nil]

theorem sameRule_longOperator {first : Char} {following : Text} :
    exchange.SameRule Token.longOperatorRule (first :: following) := by
  refine sameRule_of_stable Token.longOperatorRule_fits fun {cell} spelled => ?_
  cases following with
  | cons second others =>
      rw [List.cons_append, List.cons_append, Token.longOperatorRule_cons,
        Token.longOperatorRule_cons]
  | nil =>
      have notGreater : Stops (· = '>') _ := spelled.stops_mark rfl (by decide) exchange.after
      have notEqual : Stops (· = '=') _ := spelled.stops_mark rfl (by decide) exchange.after
      rw [List.singleton_append]
      cases textEq : cell.text ++ exchange.after with
      | nil => rfl
      | cons next others =>
          rw [textEq, Text.stops_cons, decide_eq_false_iff_not] at notGreater notEqual
          rw [Token.longOperatorRule_cons]
          simp [notGreater, notEqual, Token.longOperatorRule]

/-! ## Quoted text -/

/-- A cell has no quotes. -/
theorem doubleQuotes_text {cell : WrittenCell} (spelled : cell.WellSpelled) {quote : Char}
    (noCell : WrittenCell.inCell quote = false) :
    Text.doubleQuotes quote cell.text = cell.text :=
  Text.doubleQuotes_eq_self fun member => by
    rw [spelled.inCell quote member] at noCell
    cases noCell

/-- Quoted text is closed before the cells, or after them, or in neither text. -/
theorem readQuoted?_cases (exchange : Exchange) {quote : Char}
    (noCell : WrittenCell.inCell quote = false) (before : Text) :
    (∃ content, ∀ {cell : WrittenCell}, cell.WellSpelled →
        Text.readQuoted? quote (before ++ (cell.text ++ exchange.after)) =
          (Text.readQuoted? quote exchange.after).map fun (later, count) =>
            (content ++ (cell.text ++ later), before.length + cell.text.length + count)) ∨
      ∃ content count, count ≤ before.length ∧ ∀ {cell : WrittenCell}, cell.WellSpelled →
        Text.readQuoted? quote (before ++ (cell.text ++ exchange.after)) = some (content, count) := by
  have notLetter : quote.isAlpha = false := by
    by_contra isAlpha
    rw [WrittenCell.inCell_of_isAlpha (by simpa using isAlpha)] at noCell
    cases noCell
  have notMarker : quote ≠ '$' := by
    rintro rfl
    cases noCell
  rcases Text.quoted_cases quote before with ⟨content, rfl⟩ | ⟨content, rest, rfl, stops⟩
  · refine .inl ⟨content, fun {cell} spelled => ?_⟩
    have inside := Text.readQuoted?_doubleQuotes_append quote cell.text exchange.after
    rw [doubleQuotes_text spelled noCell] at inside
    rw [Text.readQuoted?_doubleQuotes_append, inside, Option.map_map]
    simp [Function.comp_def, Nat.add_assoc]
  · refine .inr ⟨content, (Text.doubleQuotes quote content).length + 1, by simp, fun spelled => ?_⟩
    rw [List.append_assoc, List.cons_append]
    exact Text.readQuoted?_closed content
      (Text.stops_append stops fun _ => spelled.stops_mark notLetter notMarker _)

theorem sameRule_string {first : Char} {following : Text} :
    exchange.SameRule Token.stringRule (first :: following) := by
  by_cases isQuote : first = '"'
  · subst isQuote
    have rule (text : Text) : Token.stringRule ('"' :: text) =
        some (.string, ((Text.readQuoted? '"' text).map Prod.snd).getD text.length + 1) := by
      cases read : Text.readQuoted? '"' text <;> simp [Token.stringRule, read]
    unfold SameRule original replaced
    rw [List.cons_append, List.cons_append, rule, rule]
    refine .some ⟨rfl, ?_⟩
    have notInCell : WrittenCell.inCell '"' = false := rfl
    rcases exchange.readQuoted?_cases notInCell following with
      ⟨content, read⟩ | ⟨content, count, fits, read⟩
    · rw [read exchange.spelled, read exchange.otherSpelled]
      cases later : Text.readQuoted? '"' exchange.after with
      | none =>
          have whole : exchange.SameEnd ('"' :: following) _ _ :=
            .beyond (Nat.le_refl exchange.after.length)
          simp only [Option.map_none, Option.getD_none, List.length_append, List.length_cons] at whole ⊢
          convert whole using 1 <;> omega
      | some found =>
          have whole : exchange.SameEnd ('"' :: following) _ _ :=
            .beyond (Text.readQuoted?_length_le later)
          simp only [Option.map_some, Option.getD_some, List.length_cons] at whole ⊢
          convert whole using 1 <;> omega
    · rw [read exchange.spelled, read exchange.otherSpelled]
      exact .within (Nat.succ_le_succ fits)
  · have unread (text : Text) : Token.stringRule (first :: text) = none := Token.stringRule_eq_none isQuote
    exact sameRule_of_stable Token.stringRule_fits fun _ => (unread _).trans (unread _).symm

/-! ## Qualifiers -/

theorem sameLength_qualifierName (exchange : Exchange) (apart : EndsApart before) (nonempty : before ≠ []) :
    exchange.SameLength Token.qualifierNameLength? before := by
  obtain ⟨first, following, rfl⟩ := List.exists_cons_of_ne_nil nonempty
  by_cases quoted : first = SheetName.quote
  · subst quoted
    have name (text : Text) : Token.qualifierNameLength? (SheetName.quote :: text) =
        (Text.readQuoted? SheetName.quote text).bind fun (name, count) =>
          if name = [] then none else some (count + 1) := by
      rw [Token.qualifierNameLength?, if_pos rfl]
      cases Text.readQuoted? SheetName.quote text <;> rfl
    unfold SameLength original replaced
    rw [List.cons_append, List.cons_append, name, name]
    have notInCell : WrittenCell.inCell SheetName.quote = false := rfl
    rcases exchange.readQuoted?_cases notInCell following with
      ⟨content, read⟩ | ⟨content, count, fits, read⟩
    · rw [read exchange.spelled, read exchange.otherSpelled]
      cases later : Text.readQuoted? SheetName.quote exchange.after with
      | none => exact .none
      | some found =>
          have whole : exchange.SameEnd (SheetName.quote :: following) _ _ :=
            .beyond (Text.readQuoted?_length_le later)
          have named {cell : WrittenCell} (spelled : cell.WellSpelled) (later : Text) :
              content ++ (cell.text ++ later) ≠ [] := by
            simp [spelled.text_ne_nil]
          simp only [Option.map_some, Option.bind_some, if_neg (named exchange.spelled _),
            if_neg (named exchange.otherSpelled _)]
          refine .some ?_
          rw [List.length_cons] at whole
          convert whole using 1 <;> omega
    · rw [read exchange.spelled, read exchange.otherSpelled, Option.bind_some]
      by_cases empty : content = []
      · simp only [if_pos empty]
        exact .none
      · simp only [if_neg empty]
        exact .some (.within (Nat.succ_le_succ fits))
  · have plain (rest : Text) : Token.qualifierNameLength? (first :: following ++ rest) =
        Token.identifierLength? (first :: following) := by
      rw [← identifierLength?_append_apart apart nonempty rest, List.cons_append,
        Token.qualifierNameLength?, if_neg quoted]
    exact sameLength_of_stable (fun _ => plain _) fun length found => Token.identifierLength?_le found

theorem sameLength_qualifier (exchange : Exchange) (apart : EndsApart before) (nonempty : before ≠ []) :
    exchange.SameLength Token.qualifierLength? before := by
  unfold SameLength
  rw [Token.qualifierLength?_eq, Token.qualifierLength?_eq]
  rcases cases_of_rel (exchange.sameLength_qualifierName apart nonempty) with
    ⟨absent, otherAbsent⟩ | ⟨name, other, found, otherFound, sameEnd⟩
  · rw [absent, otherAbsent]
    exact .none
  · rw [found, otherFound, Option.bind_some, Option.bind_some]
    cases sameEnd with
    | within fits =>
        rw [drop_original fits, drop_replaced fits]
        have marked {cell : WrittenCell} (spelled : cell.WellSpelled) :
            (before.drop name ++ (cell.text ++ exchange.after)).head? = some '!' ↔
              (before.drop name).head? = some '!' :=
          head?_append_of_ne (spelled.stops_mark rfl (by decide) exchange.after)
        simp only [original, replaced, marked exchange.spelled, marked exchange.otherSpelled]
        split
        · next isMark =>
            refine .some (.within ?_)
            obtain ⟨others, dropped⟩ := List.head?_eq_some_iff.mp isMark
            have lengths := congrArg List.length dropped
            rw [List.length_drop, List.length_cons] at lengths
            omega
        · exact .none
    | @beyond name fits =>
        rw [drop_original_beyond, drop_replaced_beyond]
        split
        · next isMark =>
            obtain ⟨others, dropped⟩ := List.head?_eq_some_iff.mp isMark
            have lengths := congrArg List.length dropped
            rw [List.length_drop, List.length_cons] at lengths
            have marked : name + 1 ≤ exchange.after.length := by omega
            exact .some (.beyond marked)
        · exact .none

/-! ## Areas -/

/-- An area up to a boundary. -/
def boundedAreaLength? (text : Text) : Option Nat :=
  (Token.areaLength? text).filter fun area => Token.isBoundary (text.drop area)

theorem referenceLength?_eq (text : Text) :
    Token.referenceLength? text =
      (boundedAreaLength? (text.drop ((Token.qualifierLength? text).getD 0))).map
        (((Token.qualifierLength? text).getD 0) + ·) := by
  unfold Token.referenceLength? boundedAreaLength?
  dsimp only
  cases Token.areaLength? (text.drop ((Token.qualifierLength? text).getD 0)) with
  | none => rfl
  | some area =>
      simp only [Option.bind_eq_bind, Option.bind_some, Option.filter_some, List.drop_drop]
      split <;> rfl

theorem isBoundary_append {front : Text} (nonempty : front ≠ []) (rest : Text) :
    Token.isBoundary (front ++ rest) = Token.isBoundary front := by
  obtain ⟨next, others, rfl⟩ := List.exists_cons_of_ne_nil nonempty
  rfl

/-- An area that ends before the last character in front of the cells is the same. -/
theorem sameLength_of_stableArea {found : Option Nat}
    (stable : ∀ {cell : WrittenCell}, cell.WellSpelled →
      Token.areaLength? (before ++ (cell.text ++ exchange.after)) = found)
    (fits : ∀ length ∈ found, length < before.length) :
    exchange.SameLength boundedAreaLength? before := by
  have inside : ∀ length ∈ found.filter fun area => Token.isBoundary (before.drop area),
      length ≤ before.length :=
    fun length isFound => (fits length (Option.mem_filter_iff.mp isFound).1).le
  refine sameLength_of_stable (fun spelled => ?_) inside
  unfold boundedAreaLength?
  rw [stable spelled]
  cases found with
  | none => rfl
  | some area =>
      have inside := fits area rfl
      have nonempty : before.drop area ≠ [] := by
        rw [ne_eq, List.drop_eq_nil_iff]
        omega
      rw [Option.filter_some, Option.filter_some, List.drop_append_of_le_length inside.le,
        isBoundary_append nonempty]

/-- The length of a colon and a cell at the start of a text. -/
def pairedLength : Text → Nat
  | ':' :: afterColon =>
      match WrittenCell.read? afterColon with
      | some (second, _) => second.text.length + 1
      | none => 0
  | _ => 0

theorem pairedLength_le (text : Text) : pairedLength text ≤ text.length := by
  unfold pairedLength
  split
  · next afterColon =>
      split
      · next second rest read =>
          have lengths := congrArg List.length (WrittenCell.eq_append_of_read? read)
          rw [List.length_append] at lengths
          rw [List.length_cons]
          omega
      · exact Nat.zero_le _
  · exact Nat.zero_le _

/-- A cell is an area, with the cell after it if a colon is between them. -/
theorem areaLength?_cell {cell : WrittenCell} (spelled : cell.WellSpelled) {after : Text}
    (stops : Stops Char.isDigit after) :
    Token.areaLength? (cell.text ++ after) = some (cell.text.length + pairedLength after) := by
  have cells : Token.cellsLength? (cell.text ++ after) =
      some (cell.text.length + pairedLength after) := by
    unfold Token.cellsLength?
    rw [spelled.read? stops]
    simp only [Option.bind_eq_bind, Option.bind_some]
    cases after with
    | nil => rfl
    | cons next afterNext =>
        by_cases isColon : next = ':'
        · subst isColon
          cases read : WrittenCell.read? afterNext with
          | none => simp [pairedLength, read]
          | some found => simp [pairedLength, read, Nat.add_assoc, Nat.add_comm 1]
        · simp [pairedLength, isColon]
  unfold Token.areaLength?
  rw [cells]
  rfl

theorem boundedAreaLength?_cell {cell : WrittenCell} (spelled : cell.WellSpelled) {after : Text}
    (stops : Stops Char.isDigit after) :
    boundedAreaLength? (cell.text ++ after) =
      if Token.isBoundary (after.drop (pairedLength after)) then
        some (cell.text.length + pairedLength after)
      else none := by
  unfold boundedAreaLength?
  rw [areaLength?_cell spelled stops, Option.filter_some, List.drop_length_add_append]

/-- After a colon, a part of a pair is the whole text before it, or it ends before the colon. -/
theorem pairLength?_colon_cases {part : Text → Option Nat}
    (stable : ∀ text rest, part (text ++ ':' :: rest) = part text)
    (fits : ∀ {text length}, part text = some length → length ≤ text.length) (front : Text) :
    (∀ rest, Token.pairLength? part (front ++ ':' :: rest) =
        (part rest).map (front.length + 1 + ·)) ∨
      ∀ rest, Token.pairLength? part (front ++ ':' :: rest) = Token.pairLength? part front := by
  unfold Token.pairLength?
  simp only [stable]
  cases found : part front with
  | none => exact .inr fun _ => rfl
  | some first =>
      simp only [Option.bind_eq_bind, Option.bind_some]
      have firstFits := fits found
      cases dropped : front.drop first with
      | nil =>
          rw [List.drop_eq_nil_iff] at dropped
          obtain rfl : first = front.length := Nat.le_antisymm firstFits dropped
          exact .inl fun rest => by
            rw [List.drop_left]
            rfl
      | cons next others =>
          right
          intro rest
          rw [List.drop_append_of_le_length firstFits, dropped, List.cons_append]
          by_cases isColon : next = ':'
          · subst isColon
            simp only [stable]
          · simp [isColon]

theorem stops_inCell_colon (rest : Text) : Stops WrittenCell.inCell (':' :: rest) :=
  Text.stops_cons.mpr rfl

/-- Cells in front of a colon are one cell and all of the text, or they end before the colon. -/
theorem cellsLength?_colon_cases (front : Text) :
    (∀ {cell : WrittenCell}, cell.WellSpelled → ∀ {after : Text}, Stops Char.isDigit after →
        Token.cellsLength? (front ++ ':' :: (cell.text ++ after)) =
          some (front.length + 1 + cell.text.length)) ∨
      ∀ rest, Token.cellsLength? (front ++ ':' :: rest) = Token.cellsLength? front := by
  unfold Token.cellsLength?
  simp only [WrittenCell.read?_append (stops_inCell_colon _)]
  cases read : WrittenCell.read? front with
  | none => exact .inr fun _ => rfl
  | some found =>
      obtain ⟨first, afterFirst⟩ := found
      simp only [Option.map_some, Option.bind_eq_bind, Option.bind_some]
      cases afterFirst with
      | nil =>
          left
          intro cell spelled after stops
          rw [List.nil_append, ← WrittenCell.text_of_whole read]
          simp only [spelled.read? stops]
      | cons next others =>
          right
          intro rest
          rw [List.cons_append]
          by_cases isColon : next = ':'
          · subst isColon
            simp only [WrittenCell.read?_append (stops_inCell_colon _)]
            cases WrittenCell.read? others <;> rfl
          · simp [isColon]

/-- The letters of a cell are no whole column, since its digits come next. -/
theorem columnLength?_cell {cell : WrittenCell} (spelled : cell.WellSpelled) (after : Text) :
    ∃ length, Token.columnLength? (cell.text ++ after) = some length ∧
      Token.isBoundary ((cell.text ++ after).drop length) = false := by
  refine ⟨cell.letters.length + if cell.columnAbsolute then 1 else 0, ?_, ?_⟩
  · rw [Token.columnLength?, spelled.splitMarker_text]
    dsimp only
    rw [spelled.letters_eq, if_neg spelled.letters_ne_nil]
  · have dropped : (cell.text ++ after).drop
        (cell.letters.length + if cell.columnAbsolute then 1 else 0) =
          (if cell.rowAbsolute then ['$'] else []) ++ (cell.digits ++ after) := by
      cases marked : cell.columnAbsolute <;> simp [WrittenCell.text, marked]
    rw [dropped]
    cases cell.rowAbsolute with
    | true => rfl
    | false =>
        obtain ⟨digit, digits, digitsEq⟩ := List.exists_cons_of_ne_nil spelled.digits_ne_nil
        have isDigit := spelled.digits_decimal digit (digitsEq ▸ List.mem_cons_self)
        simp [digitsEq, Token.isBoundary, Char.isAlphanum, isDigit]

/-- No row begins like a cell. -/
theorem rowLength?_cell {cell : WrittenCell} (spelled : cell.WellSpelled) (after : Text) :
    Token.rowLength? (cell.text ++ after) = none := by
  have stops : Stops Char.isDigit (cell.letters ++ ((if cell.rowAbsolute then ['$'] else []) ++
      (cell.digits ++ after))) :=
    WrittenCell.stops_run _ spelled.letters_ne_nil spelled.letters_alphabetic
      fun _ => not_isDigit_of_isAlpha
  rw [Token.rowLength?, spelled.splitMarker_text]
  dsimp only
  rw [← List.nil_append (cell.letters ++ _), Text.takeWhile_run (List.forall_mem_nil _) stops]
  rfl

theorem append_colon (front rest : Text) : front ++ [':'] ++ rest = front ++ ':' :: rest := by simp

/-- An area in front of a colon that is a cell makes the cell after the colon a corner. -/
theorem sameLength_corner {front : Text}
    (corner : ∀ {cell : WrittenCell}, cell.WellSpelled → ∀ {after : Text},
      Stops Char.isDigit after → Token.cellsLength? (front ++ ':' :: (cell.text ++ after)) =
        some (front.length + 1 + cell.text.length)) :
    exchange.SameLength boundedAreaLength? (front ++ [':']) := by
  have bounded {cell : WrittenCell} (spelled : cell.WellSpelled) :
      boundedAreaLength? (front ++ [':'] ++ (cell.text ++ exchange.after)) =
        if Token.isBoundary exchange.after then
          some ((front ++ [':']).length + cell.text.length)
        else none := by
    unfold boundedAreaLength? Token.areaLength?
    rw [append_colon, corner spelled exchange.stops, ← append_colon, ← List.length_singleton,
      ← List.length_append]
    show (some _).filter _ = _
    rw [Option.filter_some, List.drop_length_add_append, List.drop_left]
  unfold SameLength original replaced
  rw [bounded exchange.spelled, bounded exchange.otherSpelled]
  split
  · exact .some (.beyond (Nat.zero_le _))
  · exact .none

theorem areaLength?_colon {front : Text}
    (cells : ∀ rest, Token.cellsLength? (front ++ ':' :: rest) = Token.cellsLength? front)
    (rest : Text) :
    Token.areaLength? (front ++ [':'] ++ rest) = (Token.cellsLength? front).or
      ((Token.pairLength? Token.columnLength? (front ++ ':' :: rest)).or
        (Token.pairLength? Token.rowLength? (front ++ ':' :: rest))) := by
  rw [Token.areaLength?, append_colon, cells]
  simp only [Option.orElse_eq_orElse, Option.orElse_eq_or]

/-- A column in front of a colon makes the letters of the cell after it a column, too. -/
theorem sameLength_letters {front : Text}
    (cells : ∀ rest, Token.cellsLength? (front ++ ':' :: rest) = Token.cellsLength? front)
    (noCells : Token.cellsLength? front = none)
    (column : ∀ rest, Token.pairLength? Token.columnLength? (front ++ ':' :: rest) =
      (Token.columnLength? rest).map (front.length + 1 + ·)) :
    exchange.SameLength boundedAreaLength? (front ++ [':']) := by
  have unbounded {cell : WrittenCell} (spelled : cell.WellSpelled) :
      boundedAreaLength? (front ++ [':'] ++ (cell.text ++ exchange.after)) = none := by
    obtain ⟨length, found, ends⟩ := columnLength?_cell spelled exchange.after
    unfold boundedAreaLength?
    rw [areaLength?_colon cells, noCells, column, found, Option.map_some, Option.none_or,
      Option.some_or, Option.filter_some, append_colon, Nat.add_assoc, List.drop_length_add_append,
      Nat.add_comm 1, List.drop_succ_cons, ends]
    rfl
  unfold SameLength original replaced
  rw [unbounded exchange.spelled, unbounded exchange.otherSpelled]
  exact .none

theorem sameLength_boundedArea_colon (front : Text) :
    exchange.SameLength boundedAreaLength? (front ++ [':']) := by
  have inside {part : Text → Option Nat}
      (fits : ∀ {text length}, part text = some length → length ≤ text.length) :
      ∀ length ∈ part front, length < (front ++ [':']).length := fun length found => by
    rw [List.length_append, List.length_singleton]
    exact Nat.lt_succ_of_le (fits found)
  rcases cellsLength?_colon_cases front with corner | stableCells
  · exact sameLength_corner corner
  have areas := areaLength?_colon stableCells
  cases cells : Token.cellsLength? front with
  | some length =>
      refine sameLength_of_stableArea (fun _ => by rw [areas, cells]; rfl) ?_
      exact cells ▸ inside Token.cellsLength?_le
  | none =>
      have columnsStable (text rest : Text) : Token.columnLength? (text ++ ':' :: rest) = _ :=
        Token.columnLength?_append (stops_inCell_colon rest)
      have rowsStable (text rest : Text) : Token.rowLength? (text ++ ':' :: rest) = _ :=
        Token.rowLength?_append (stops_inCell_colon rest)
      rcases pairLength?_colon_cases columnsStable Token.columnLength?_le front with
        column | stableColumns
      · exact sameLength_letters stableCells cells column
      cases columns : Token.pairLength? Token.columnLength? front with
      | some length =>
          refine sameLength_of_stableArea
            (fun _ => by rw [areas, cells, stableColumns, columns]; rfl) ?_
          exact columns ▸ inside (Token.pairLength?_le Token.columnLength?_le)
      | none =>
          rcases pairLength?_colon_cases rowsStable Token.rowLength?_le front with row | stableRows
          · have noArea : ∀ length ∈ (none : Option Nat), length < (front ++ [':']).length := by simp
            refine sameLength_of_stableArea (fun spelled => ?_) noArea
            rw [areas, cells, stableColumns, columns, row, rowLength?_cell spelled]
            rfl
          · refine sameLength_of_stableArea (fun _ => ?_)
              (inside (Token.pairLength?_le Token.rowLength?_le))
            rw [areas, cells, stableColumns, columns, stableRows]
            rfl

theorem sameLength_boundedArea (exchange : Exchange) (apart : EndsApart before) :
    exchange.SameLength boundedAreaLength? before := by
  by_cases empty : before = []
  · subst empty
    unfold SameLength original replaced
    rw [List.nil_append, List.nil_append, boundedAreaLength?_cell exchange.spelled exchange.stops,
      boundedAreaLength?_cell exchange.otherSpelled exchange.stops]
    split
    · have whole : exchange.SameEnd [] _ _ := .beyond (pairedLength_le exchange.after)
      rw [List.length_nil, Nat.zero_add, Nat.zero_add] at whole
      exact .some whole
    · exact .none
  · obtain ⟨front, last, rfl, lastApart⟩ := apart.exists_last empty
    by_cases isColon : last = ':'
    · subst isColon
      exact sameLength_boundedArea_colon front
    · have outside : inArea last = false := by
        rw [inArea, ← WrittenCell.inCell, Bool.or_eq_false_iff, decide_eq_false_iff_not]
        have notCell := stops_last lastApart (fun _ => joinsCell_of_inCell) []
        exact ⟨Text.stops_cons.mp notCell, isColon⟩
      have inside : ∀ length ∈ Token.areaLength? front, length < (front ++ [last]).length :=
        fun length found => by
          rw [List.length_append, List.length_singleton]
          exact Nat.lt_succ_of_le (Token.areaLength?_le found)
      refine sameLength_of_stableArea (fun _ => ?_) inside
      rw [List.append_assoc, List.singleton_append]
      exact Token.areaLength?_append (Text.stops_cons.mpr outside)

/-! ## References -/

theorem sameLength_reference (exchange : Exchange) (apart : EndsApart before) (nonempty : before ≠ []) :
    exchange.SameLength Token.referenceLength? before := by
  unfold SameLength
  rw [referenceLength?_eq, referenceLength?_eq]
  rcases cases_of_rel (exchange.sameLength_qualifier apart nonempty) with
    ⟨absent, otherAbsent⟩ | ⟨length, other, found, otherFound, sameEnd⟩
  · have area := exchange.sameLength_boundedArea apart
    unfold SameLength at area
    simpa [absent, otherAbsent] using area
  · rw [found, otherFound, Option.getD_some, Option.getD_some]
    cases sameEnd with
    | within fits =>
        rw [drop_original fits, drop_replaced fits]
        rcases cases_of_rel (exchange.sameLength_boundedArea (apart.drop length)) with
          ⟨noArea, noOther⟩ | ⟨area, otherArea, areaFound, otherAreaFound, sameArea⟩
        · rw [noArea, noOther]
          exact .none
        · have sameEnd : exchange.SameEnd (before.take length ++ before.drop length) _ _ :=
            sameArea.add
          rw [List.take_append_drop, List.length_take_of_le fits] at sameEnd
          rw [areaFound, otherAreaFound]
          exact .some sameEnd
    | @beyond length fits =>
        rw [drop_original_beyond, drop_replaced_beyond]
        cases areaFound : boundedAreaLength? (exchange.after.drop length) with
        | none => exact .none
        | some area =>
            have areaFits : area ≤ (exchange.after.drop length).length :=
              Token.areaLength?_le (Option.mem_filter_iff.mp areaFound).1
            rw [List.length_drop] at areaFits
            have whole : length + area ≤ exchange.after.length := by omega
            have sameEnd : exchange.SameEnd before _ _ := .beyond whole
            rw [← Nat.add_assoc, ← Nat.add_assoc] at sameEnd
            exact .some sameEnd

/-! ## Tokens -/

/-- The first rule that recognises something does so in both texts. -/
theorem rel_findSome? {rules : List Token.Rule}
    (same : ∀ rule ∈ rules, exchange.SameRule rule before) :
    Option.Rel (exchange.SameToken before)
      (rules.findSome? fun rule => rule (exchange.original before))
      (rules.findSome? fun rule => rule (exchange.replaced before)) := by
  induction rules with
  | nil => exact .none
  | cons rule rules inductionHypothesis =>
      rw [List.forall_mem_cons] at same
      rw [List.findSome?_cons, List.findSome?_cons]
      rcases cases_of_rel same.1 with ⟨absent, otherAbsent⟩ | ⟨token, other, found, otherFound, sameToken⟩
      · rw [absent, otherAbsent]
        exact inductionHypothesis same.2
      · rw [found, otherFound]
        exact .some sameToken

/-- A token that begins in front of the cells is in both texts, with the same end. -/
theorem sameToken_classify {first : Char} {following : Text} (apart : EndsApart (first :: following))
    (notHash : first ≠ '#') :
    exchange.SameToken following (Token.classify first (exchange.original following))
      (Token.classify first (exchange.replaced following)) := by
  have nonempty : first :: following ≠ [] := List.cons_ne_nil _ _
  have rules : ∀ rule ∈ Token.rules, exchange.SameRule rule (first :: following) := by
    simp only [Token.rules, List.forall_mem_cons]
    exact ⟨sameRule_blank, sameRule_errorLiteral notHash, sameRule_string,
      sameRule_of_sameLength .reference (exchange.sameLength_reference apart nonempty),
      sameRule_of_sameLength .reference (exchange.sameLength_qualifier apart nonempty),
      sameRule_identifier apart nonempty, sameRule_number apart nonempty, sameRule_longOperator,
      List.forall_mem_nil _⟩
  have original : exchange.original (first :: following) = first :: exchange.original following := rfl
  have replaced : exchange.replaced (first :: following) = first :: exchange.replaced following := rfl
  unfold Token.classify
  rcases cases_of_rel (rel_findSome? rules) with
    ⟨absent, otherAbsent⟩ | ⟨token, other, found, otherFound, sameKind, sameEnd⟩
  · rw [← original, ← replaced, absent, otherAbsent]
    exact ⟨rfl, .within (Nat.zero_le _)⟩
  · rw [← original, ← replaced, found, otherFound]
    exact ⟨sameKind, sameEnd.tail⟩

end Exchange

end Draft

end SheetEditor
