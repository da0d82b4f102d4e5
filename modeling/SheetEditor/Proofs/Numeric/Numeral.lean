import Mathlib.Data.List.Infix
import SheetEditor.Numeric.Decimal
import SheetEditor.Proofs.Text.Run

/-!
Contract: the parts of a numeral at the start of a text.

Owns: the characters of a numeral, its exponent part and how long it is, the
fraction after a point, and all of them with more text after them.

Does not own: the value of a numeral (`SheetEditor.Proofs.Numeric.ReadBack`).
-/

namespace SheetEditor.Decimal

open Text (Stops)

variable {text rest : Text}

/-! ## The characters of a numeral -/

/-- Whether a numeral can have a character in it. -/
def inNumeral (character : Char) : Bool :=
  character.isDigit || ['.', 'e', 'E', '+', '-'].contains character

theorem inNumeral_of_isDigit {character : Char} (isDigit : character.isDigit = true) :
    inNumeral character = true := by
  rw [inNumeral, isDigit, Bool.true_or]

/-- Whether a character could be read with the digits before it. -/
def continuesDigits (character : Char) : Bool :=
  character.isDigit || ['.', 'e', 'E'].contains character

theorem inNumeral_of_continuesDigits {character : Char} (continues : continuesDigits character = true) :
    inNumeral character = true := by
  simp only [continuesDigits, Bool.or_eq_true, List.contains_iff_mem, List.mem_cons,
    List.not_mem_nil, or_false] at continues
  rcases continues with isDigit | rfl | rfl | rfl
  · exact inNumeral_of_isDigit isDigit
  · rfl
  · rfl
  · rfl

theorem stops_digit (stops : Stops continuesDigits rest) : Stops Char.isDigit rest :=
  stops.mono fun _ isDigit => by rw [continuesDigits, isDigit, Bool.true_or]

/-! ## Exponents -/

/-- The exponent part of a numeral: a mark, an optional sign, and digits. -/
inductive IsExponent : Text → Prop where
  | intro {mark : Char} {sign digits : Text} (marked : mark = 'e' ∨ mark = 'E')
      (signed : sign = [] ∨ sign = ['+'] ∨ sign = ['-']) (nonempty : digits ≠ [])
      (isDigits : ∀ digit ∈ digits, digit.isDigit = true) : IsExponent (mark :: (sign ++ digits))

/-- The number of signs at the start of a text, at most one. -/
def signLength (text : Text) : Nat :=
  if text.head?.any (fun next => next = '+' || next = '-') then 1 else 0

theorem exponentLength_cons {mark : Char} (marked : mark = 'e' ∨ mark = 'E') (text : Text) :
    exponentLength (mark :: text) =
      if (text.drop (signLength text)).takeWhile Char.isDigit = [] then 0
      else 1 + signLength text + ((text.drop (signLength text)).takeWhile Char.isDigit).length := by
  have isMark : (decide (mark = 'e') || decide (mark = 'E')) = true := by simpa using marked
  rw [exponentLength, if_pos isMark]
  rfl

theorem signLength_append {sign digits : Text} (signed : sign = [] ∨ sign = ['+'] ∨ sign = ['-'])
    (stops : Stops (fun next => next = '+' || next = '-') digits) :
    signLength (sign ++ digits) = sign.length := by
  rcases signed with rfl | rfl | rfl
  · cases digits with
    | nil => rfl
    | cons next others =>
        have unsigned := Text.stops_cons.mp stops
        simp [signLength, unsigned]
  · rfl
  · rfl

theorem take_signLength (text : Text) :
    text.take (signLength text) = [] ∨ text.take (signLength text) = ['+'] ∨
      text.take (signLength text) = ['-'] := by
  cases text with
  | nil => exact .inl rfl
  | cons next others =>
      unfold signLength
      split
      · next isSign =>
          simp only [List.head?_cons, Option.any_some, Bool.or_eq_true, decide_eq_true_eq] at isSign
          rcases isSign with rfl | rfl
          · exact .inr (.inl rfl)
          · exact .inr (.inr rfl)
      · exact .inl rfl

/-- What can be read as an exponent is an exponent part or nothing. -/
theorem isExponent_of_readExponent? {exponent : Int} (read : readExponent? text = some exponent) :
    text = [] ∨ IsExponent text := by
  cases text with
  | nil => exact .inl rfl
  | cons mark following =>
      by_cases marked : mark = 'e' ∨ mark = 'E'
      · right
        obtain ⟨sign, signed, followingEq⟩ : ∃ sign,
            (sign = [] ∨ sign = ['+'] ∨ sign = ['-']) ∧
              following = sign ++ (splitSign following).2 := by
          unfold splitSign
          split
          · exact ⟨['-'], .inr (.inr rfl), rfl⟩
          · exact ⟨['+'], .inr (.inl rfl), rfl⟩
          · exact ⟨[], .inl rfl, rfl⟩
        rw [readExponent?, if_pos (by simpa using marked)] at read
        dsimp only at read
        split at read
        · next isDigits =>
            simp only [Bool.and_eq_true, decide_eq_true_eq, List.all_eq_true] at isDigits
            rw [followingEq]
            exact .intro marked signed isDigits.1 isDigits.2
        · cases read
      · rw [readExponent?, if_neg (by simpa using marked)] at read
        cases read

/-- An exponent part is as long as its digits reach. -/
theorem exponentLength_append_of_isExponent (exponent : IsExponent text)
    (stops : Stops Char.isDigit rest) : exponentLength (text ++ rest) = text.length := by
  cases exponent with
  | @intro mark sign digits marked signed nonempty isDigits =>
      have unsigned : Stops (fun next => next = '+' || next = '-') (digits ++ rest) := by
        obtain ⟨first, others, rfl⟩ := List.exists_cons_of_ne_nil nonempty
        have isDigit := isDigits first List.mem_cons_self
        rw [List.cons_append, Text.stops_cons]
        by_contra isSign
        simp only [Bool.not_eq_false, Bool.or_eq_true, decide_eq_true_eq] at isSign
        rcases isSign with rfl | rfl <;> cases isDigit
      rw [List.cons_append, List.append_assoc, exponentLength_cons marked,
        signLength_append signed unsigned, List.drop_left, Text.takeWhile_run isDigits stops,
        if_neg nonempty, List.length_cons, List.length_append]
      omega

/-- A text has an exponent part in front, or its exponent length is zero. -/
theorem exponent_cases (text : Text) :
    exponentLength text = 0 ∨
      ∃ exponent rest, text = exponent ++ rest ∧ IsExponent exponent ∧ Stops Char.isDigit rest := by
  cases text with
  | nil => exact .inl rfl
  | cons mark following =>
      by_cases marked : mark = 'e' ∨ mark = 'E'
      · by_cases empty : (following.drop (signLength following)).takeWhile Char.isDigit = []
        · left
          rw [exponentLength_cons marked, if_pos empty]
        · right
          have digitsFirst := List.prefix_append_drop
            (List.takeWhile_prefix (l := following.drop (signLength following)) Char.isDigit)
          refine ⟨_, _, ?_, .intro marked (take_signLength following) empty
            fun digit => List.mem_takeWhile_imp,
            Text.stops_drop_takeWhile (following.drop (signLength following))⟩
          rw [List.cons_append, List.append_assoc, ← digitsFirst, List.take_append_drop]
      · left
        have notMark : ¬((decide (mark = 'e') || decide (mark = 'E')) = true) := by
          simpa using marked
        rw [exponentLength, if_neg notMark]

theorem exponentLength_le (text : Text) : exponentLength text ≤ text.length := by
  rcases exponent_cases text with zero | ⟨exponent, rest, rfl, isExponent, stops⟩
  · rw [zero]
    exact Nat.zero_le _
  · rw [exponentLength_append_of_isExponent isExponent stops, List.length_append]
    exact Nat.le_add_right _ _

theorem inNumeral_of_isExponent (exponent : IsExponent text) :
    ∀ character ∈ text, inNumeral character = true := by
  cases exponent with
  | @intro mark sign digits marked signed nonempty isDigits =>
      rw [List.forall_mem_cons, List.forall_mem_append]
      refine ⟨?_, ?_, fun digit member => inNumeral_of_isDigit (isDigits digit member)⟩
      · rcases marked with rfl | rfl <;> rfl
      · rw [← List.all_eq_true]
        rcases signed with rfl | rfl | rfl <;> decide

theorem inNumeral_of_mem_exponent (text : Text) :
    ∀ character ∈ text.take (exponentLength text), inNumeral character = true := by
  rcases exponent_cases text with zero | ⟨exponent, rest, rfl, isExponent, stops⟩
  · simp [zero]
  · rw [exponentLength_append_of_isExponent isExponent stops, List.take_left]
    exact inNumeral_of_isExponent isExponent

theorem exponentLength_eq_zero (stops : Stops continuesDigits rest) : exponentLength rest = 0 := by
  rcases exponent_cases rest with zero | ⟨exponent, after, rfl, isExponent, _⟩
  · exact zero
  · cases isExponent with
    | intro marked _ _ _ =>
        have outside := Text.stops_cons.mp stops
        rcases marked with rfl | rfl <;> cases outside

/-- An exponent part does not reach into what has no digits in front, not even after a sign. -/
theorem exponentLength_append_of_noDigits (stops : Stops continuesDigits rest)
    (noDigits : Stops Char.isDigit (rest.drop (signLength rest))) :
    exponentLength (text ++ rest) = exponentLength text := by
  cases text with
  | nil => exact exponentLength_eq_zero stops
  | cons mark following =>
      by_cases marked : mark = 'e' ∨ mark = 'E'
      · have sameDigits : ((following ++ rest).drop (signLength (following ++ rest))).takeWhile
            Char.isDigit = (following.drop (signLength following)).takeWhile Char.isDigit := by
          cases following with
          | nil =>
              rw [List.nil_append, ← List.nil_append (rest.drop _), Text.takeWhile_append noDigits]
              rfl
          | cons next others =>
              have signFits : signLength (next :: others) ≤ (next :: others).length := by
                unfold signLength
                split <;> simp
              have sameSign : signLength (next :: others ++ rest) = signLength (next :: others) := rfl
              rw [sameSign, List.drop_append_of_le_length signFits,
                Text.takeWhile_append (stops_digit stops)]
        rw [List.cons_append, exponentLength_cons marked, exponentLength_cons marked, sameDigits]
        split
        · rfl
        · next nonempty =>
            cases following with
            | nil => exact absurd (by simp) nonempty
            | cons next others => rfl
      · have notMark : ¬((decide (mark = 'e') || decide (mark = 'E')) = true) := by
          simpa using marked
        rw [List.cons_append, exponentLength, exponentLength, if_neg notMark, if_neg notMark]

theorem exponentLength_append (stops : Stops inNumeral rest) :
    exponentLength (text ++ rest) = exponentLength text := by
  have digitsStop := stops.mono fun _ => inNumeral_of_continuesDigits
  have unsigned : Stops (fun next => next = '+' || next = '-') rest :=
    stops.mono fun next isSign => by
      simp only [Bool.or_eq_true, decide_eq_true_eq] at isSign
      rcases isSign with rfl | rfl <;> rfl
  have noSign : signLength rest = 0 := signLength_append (.inl rfl) unsigned
  refine exponentLength_append_of_noDigits digitsStop ?_
  rw [noSign]
  exact stops_digit digitsStop

/-! ## Fractions -/

/-- A text is its point, if it begins with one, the digits after that, and the rest. -/
theorem splitFraction_eq (text : Text) :
    text = (if text.head? = some '.' then ['.'] else []) ++
      ((splitFraction text).1 ++ (splitFraction text).2) := by
  cases text with
  | nil => rfl
  | cons first following =>
      by_cases isPoint : first = '.'
      · subst isPoint
        simp [splitFraction, List.span_eq_takeWhile_dropWhile]
      · simp [splitFraction, isPoint]

theorem isDigit_of_mem_fraction (text : Text) :
    ∀ digit ∈ (splitFraction text).1, digit.isDigit = true := by
  unfold splitFraction
  split
  · rw [List.span_eq_takeWhile_dropWhile]
    exact fun digit => List.mem_takeWhile_imp
  · simp

theorem length_splitFraction (text : Text) :
    (if text.head? = some '.' then 1 else 0) + (splitFraction text).1.length +
      (splitFraction text).2.length = text.length := by
  have lengths := congrArg List.length (splitFraction_eq text)
  rw [List.length_append, List.length_append] at lengths
  split at lengths
  · next isPoint =>
      rw [if_pos isPoint, lengths, List.length_singleton, Nat.add_assoc]
  · next noPoint =>
      rw [if_neg noPoint, lengths, List.length_nil, Nat.add_assoc]

/-- Whether a point comes next does not depend on what follows. -/
theorem point_append (stops : Stops continuesDigits rest) :
    ((text ++ rest).head? = some '.') = (text.head? = some '.') := by
  cases text with
  | nil =>
      cases rest with
      | nil => rfl
      | cons next others =>
          have notPoint : next ≠ '.' := by
            rintro rfl
            exact absurd (Text.stops_cons.mp stops) (by decide)
          simp [notPoint]
  | cons first following => rfl

theorem splitFraction_append (stops : Stops continuesDigits rest) :
    splitFraction (text ++ rest) = ((splitFraction text).1, (splitFraction text).2 ++ rest) := by
  cases text with
  | nil =>
      cases rest with
      | nil => rfl
      | cons next others =>
          have notPoint : next ≠ '.' := by
            rintro rfl
            exact absurd (Text.stops_cons.mp stops) (by decide)
          simp [splitFraction, notPoint]
  | cons first following =>
      by_cases isPoint : first = '.'
      · subst isPoint
        simp only [List.cons_append, splitFraction, List.span_eq_takeWhile_dropWhile,
          Text.takeWhile_append (stops_digit stops), Text.dropWhile_append (stops_digit stops)]
      · simp [splitFraction, isPoint]

/-! ## Numerals -/

/-- Number of characters of digits, a point, digits and an exponent at the start of a text. -/
def numeralLength (text : Text) : Nat :=
  let afterWhole := text.drop (text.takeWhile Char.isDigit).length
  (text.takeWhile Char.isDigit).length + (if afterWhole.head? = some '.' then 1 else 0) +
    (splitFraction afterWhole).1.length + exponentLength (splitFraction afterWhole).2

theorem inNumeral_of_mem_numeral (text : Text) :
    ∀ character ∈ text.take (numeralLength text), inNumeral character = true := by
  have wholeFirst := List.prefix_append_drop (List.takeWhile_prefix (l := text) Char.isDigit)
  unfold numeralLength
  dsimp only
  have fractionFirst := splitFraction_eq (text.drop (text.takeWhile Char.isDigit).length)
  have wholeDigits : ∀ digit ∈ text.takeWhile Char.isDigit, inNumeral digit = true :=
    fun digit member => inNumeral_of_isDigit (List.mem_takeWhile_imp member)
  generalize text.takeWhile Char.isDigit = whole at *
  generalize text.drop whole.length = afterWhole at *
  have fractionDigits : ∀ digit ∈ (splitFraction afterWhole).1, inNumeral digit = true :=
    fun digit member => inNumeral_of_isDigit (isDigit_of_mem_fraction afterWhole digit member)
  have exponent := inNumeral_of_mem_exponent (splitFraction afterWhole).2
  have tail : ∀ character ∈ afterWhole.take ((if afterWhole.head? = some '.' then 1 else 0) +
      ((splitFraction afterWhole).1.length + exponentLength (splitFraction afterWhole).2)),
      inNumeral character = true := by
    generalize (splitFraction afterWhole).1 = fraction at *
    generalize (splitFraction afterWhole).2 = afterFraction at *
    by_cases isPoint : afterWhole.head? = some '.'
    · rw [if_pos isPoint] at fractionFirst ⊢
      rw [fractionFirst, List.singleton_append, Nat.add_comm 1, List.take_succ_cons,
        List.take_length_add_append, List.forall_mem_cons, List.forall_mem_append]
      exact ⟨rfl, fractionDigits, exponent⟩
    · rw [if_neg isPoint] at fractionFirst ⊢
      rw [fractionFirst, List.nil_append, Nat.zero_add, List.take_length_add_append,
        List.forall_mem_append]
      exact ⟨fractionDigits, exponent⟩
  rw [wholeFirst, Nat.add_assoc, Nat.add_assoc, List.take_length_add_append,
    List.forall_mem_append]
  exact ⟨wholeDigits, tail⟩

/-- A numeral that is read has digits, and after its fraction at most an exponent part. -/
theorem parts_of_read? {decimal : Decimal} (read : read? text = some decimal) :
    text.takeWhile Char.isDigit ++
        (splitFraction (text.drop (text.takeWhile Char.isDigit).length)).1 ≠ [] ∧
      ((splitFraction (text.drop (text.takeWhile Char.isDigit).length)).2 = [] ∨
        IsExponent (splitFraction (text.drop (text.takeWhile Char.isDigit).length)).2) := by
  unfold read? at read
  rw [List.span_eq_takeWhile_dropWhile, Text.dropWhile_eq_drop] at read
  dsimp only at read
  split at read
  · cases read
  · next nonempty =>
      obtain ⟨value, exponentRead, _⟩ := Option.map_eq_some_iff.mp read
      exact ⟨nonempty, isExponent_of_readExponent? exponentRead⟩

/-- A numeral that can be read as a whole is found as a whole. -/
theorem numeralLength_append_of_read? {decimal : Decimal} (read : read? text = some decimal)
    (stops : Stops continuesDigits rest) : numeralLength (text ++ rest) = text.length := by
  obtain ⟨_, exponent⟩ := parts_of_read? read
  have wholeFits := Text.length_takeWhile_le Char.isDigit text
  have lengths := length_splitFraction (text.drop (text.takeWhile Char.isDigit).length)
  rw [List.length_drop] at lengths
  unfold numeralLength
  simp only [Text.takeWhile_append (stops_digit stops), List.drop_append_of_le_length wholeFits,
    splitFraction_append stops, point_append stops]
  rcases exponent with empty | isExponent
  · rw [empty, List.length_nil] at lengths
    rw [empty, List.nil_append, exponentLength_eq_zero stops]
    omega
  · rw [exponentLength_append_of_isExponent isExponent (stops_digit stops)]
    omega

theorem inNumeral_of_read? {decimal : Decimal} (read : read? text = some decimal) :
    ∀ character ∈ text, inNumeral character = true := by
  have whole : numeralLength (text ++ []) = text.length :=
    numeralLength_append_of_read? read Text.stops_nil
  have inside := inNumeral_of_mem_numeral text
  rwa [← List.append_nil text, whole, List.append_nil, List.take_length] at inside

/-- A numeral begins with a digit or a point. -/
theorem begins_of_read? {decimal : Decimal} (read : read? text = some decimal) :
    ∃ first following, text = first :: following ∧ (first.isDigit = true ∨ first = '.') := by
  obtain ⟨nonempty, _⟩ := parts_of_read? read
  cases text with
  | nil => exact absurd rfl nonempty
  | cons first following =>
      refine ⟨first, following, rfl, ?_⟩
      by_contra neither
      rw [not_or] at neither
      apply nonempty
      simp [neither.1, splitFraction, neither.2]

/-- After the digits in front of a numeral comes its point, its exponent or nothing. -/
theorem continuesDigits_of_read? {decimal : Decimal} (read : read? text = some decimal) :
    ∀ next ∈ (text.drop (text.takeWhile Char.isDigit).length).head?, continuesDigits next = true := by
  obtain ⟨_, exponent⟩ := parts_of_read? read
  generalize text.drop (text.takeWhile Char.isDigit).length = afterWhole at exponent ⊢
  cases afterWhole with
  | nil => simp
  | cons first following =>
      rintro next ⟨⟩
      by_cases isPoint : first = '.'
      · rw [isPoint]
        rfl
      · have noFraction : splitFraction (first :: following) = ([], first :: following) := by
          simp [splitFraction, isPoint]
        rw [noFraction] at exponent
        rcases exponent with empty | isExponent
        · cases empty
        · cases isExponent with
          | intro marked _ _ _ => rcases marked with rfl | rfl <;> rfl

end SheetEditor.Decimal
