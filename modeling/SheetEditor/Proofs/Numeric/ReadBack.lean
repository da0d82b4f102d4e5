import Mathlib.Data.List.TakeWhile
import Mathlib.Data.Nat.Cast.Field
import SheetEditor.Numeric.Decimal
import SheetEditor.Proofs.Numeric.Shortest
import SheetEditor.Proofs.Text.Digits
import SheetEditor.Text.Blank

/-!
Contract: the positional text of a number reads back as the number.

Owns: zeros around a run of digits, the reading of unsigned literals with and
without a point, the value of a literal near a finite number, and the reading of
the texts that the printer writes.

Does not own: runs of digits (`SheetEditor.Proofs.Text.Digits`) and the text of a
cell (`SheetEditor.Proofs.Workbook.CellText`).
-/

namespace SheetEditor

namespace Text

/-! ## Zeros around a run of digits -/

theorem digitsValue_append_zeros (digits : Text) (count : Nat) :
    digitsValue (digits ++ List.replicate count '0') = digitsValue digits * 10 ^ count := by
  rw [digitsValue_eq_ofDigitChars, Nat.ofDigitChars_append, Nat.ofDigitChars_replicate_zero,
    Nat.mul_comm]
  rfl

theorem digitsValue_zeros_append (digits : Text) (count : Nat) :
    digitsValue (List.replicate count '0' ++ digits) = digitsValue digits := by
  rw [digitsValue_eq_ofDigitChars, Nat.ofDigitChars_append, Nat.ofDigitChars_replicate_zero,
    Nat.mul_zero]
  rfl

theorem isDigits_zeros (count : Nat) : IsDigits (List.replicate count '0') := by
  intro character member
  rw [List.eq_of_mem_replicate member]
  rfl

end Text

namespace Decimal

/-! ## Unsigned literals -/

/-- The number that a decimal stands for. -/
def value (decimal : Decimal) : ℚ := decimal.coefficient * (10 : ℚ) ^ decimal.exponent

theorem read?_digits {digits : Text} (all : digits.IsDigits) (nonempty : digits ≠ []) :
    read? digits = some ⟨digits.digitsValue, 0⟩ := by
  unfold read?
  rw [all.span_nil]
  simp [splitFraction, readExponent?, nonempty]

theorem read?_point {whole fraction : Text} (wholeDigits : whole.IsDigits)
    (fractionDigits : fraction.IsDigits) (nonempty : whole ++ fraction ≠ []) :
    read? (whole ++ '.' :: fraction) =
      some ⟨(whole ++ fraction).digitsValue, -(fraction.length : Int)⟩ := by
  unfold read?
  rw [wholeDigits.span_point]
  simp only [splitFraction, fractionDigits.span_nil]
  rw [if_neg nonempty]
  simp [readExponent?]

/-- Positional text is a run of digits with zeros behind it, or two runs with a point between
them of which the first is not empty. -/
theorem positional_cases (digits : Nat) (power : Int) :
    (∃ places : Nat, power = places ∧
      Binary64.positional digits power = Nat.toDigits 10 digits ++ List.replicate places '0') ∨
    (∃ whole fraction : Text, whole.IsDigits ∧ fraction.IsDigits ∧ whole ≠ [] ∧
      power = -(fraction.length : Int) ∧ (whole ++ fraction).digitsValue = digits ∧
      Binary64.positional digits power = whole ++ '.' :: fraction) := by
  unfold Binary64.positional
  dsimp only
  by_cases nonnegative : 0 ≤ power
  · rw [if_pos nonnegative]
    exact .inl ⟨power.toNat, by omega, rfl⟩
  · rw [if_neg nonnegative]
    obtain ⟨places, rfl⟩ : ∃ places : Nat, power = -(places : Int) :=
      ⟨(-power).toNat, by omega⟩
    rw [neg_neg, Int.toNat_natCast]
    generalize countEq : places + 1 - (Nat.toDigits 10 digits).length = count
    have all := (Text.isDigits_zeros count).append (Text.isDigits_toDigits digits)
    have valueEq := Text.digitsValue_zeros_append (Nat.toDigits 10 digits) count
    have long : places + 1 ≤ (List.replicate count '0' ++ Nat.toDigits 10 digits).length := by
      rw [List.length_append, List.length_replicate]
      omega
    rw [Text.digitsValue_toDigits] at valueEq
    generalize List.replicate count '0' ++ Nat.toDigits 10 digits = padded at *
    refine .inr ⟨padded.take (padded.length - places), padded.drop (padded.length - places),
      fun _ member => all _ (List.mem_of_mem_take member),
      fun _ member => all _ (List.mem_of_mem_drop member), ?_, ?_, ?_, rfl⟩
    · exact List.ne_nil_of_length_pos (by rw [List.length_take]; omega)
    · rw [List.length_drop]
      omega
    · rw [List.take_append_drop]
      exact valueEq

/-- The positional text of a decimal reads as that decimal's value. -/
theorem read?_positional (digits : Nat) (power : Int) :
    ∃ decimal, read? (Binary64.positional digits power) = some decimal ∧
      decimal.value = digits * (10 : ℚ) ^ power := by
  cases positional_cases digits power with
  | inl run =>
      obtain ⟨places, rfl, textEq⟩ := run
      rw [textEq]
      have all := (Text.isDigits_toDigits digits).append (Text.isDigits_zeros places)
      refine ⟨_, read?_digits all (by simp [Nat.toDigits_ne_nil]), ?_⟩
      rw [value, Text.digitsValue_append_zeros, Text.digitsValue_toDigits]
      simp
  | inr runs =>
      obtain ⟨whole, fraction, wholeDigits, fractionDigits, nonempty, rfl, valueEq, textEq⟩ := runs
      rw [textEq]
      refine ⟨_, read?_point wholeDigits fractionDigits (by simp [nonempty]), ?_⟩
      rw [value, valueEq]

/-! ## Literals near a number -/

private theorem two_pow_le_ten_pow (count : Nat) : (2 : ℚ) ^ (3 * count) ≤ 10 ^ count := by
  rw [pow_mul]
  exact pow_le_pow_left₀ (by norm_num) (by norm_num) count

/-- A decimal lies between the powers of ten around its leading digit. -/
private theorem value_encloses {decimal : Decimal} (positive : 0 < decimal.coefficient) :
    (10 : ℚ) ^ (decimal.exponent + (Nat.toDigits 10 decimal.coefficient).length - 1) ≤
        decimal.value ∧
      decimal.value < 10 ^ (decimal.exponent + (Nat.toDigits 10 decimal.coefficient).length) := by
  obtain ⟨places, lengthEq⟩ := Nat.exists_eq_succ_of_ne_zero
    (Nat.length_toDigits_pos (b := 10) (n := decimal.coefficient)).ne'
  have upper : decimal.coefficient < 10 ^ (places + 1) :=
    (Nat.length_toDigits_le_iff (by decide) (Nat.succ_pos places)).mp lengthEq.le
  have lower : 10 ^ places ≤ decimal.coefficient := by
    cases places with
    | zero => exact positive
    | succ shorter =>
        by_contra small
        have := (Nat.length_toDigits_le_iff (by decide) (Nat.succ_pos shorter)).mpr
          (not_le.mp small)
        omega
  have upperRat : (decimal.coefficient : ℚ) < 10 ^ (places + 1) := by exact_mod_cast upper
  have lowerRat : (10 : ℚ) ^ places ≤ decimal.coefficient := by exact_mod_cast lower
  have unitPositive : (0 : ℚ) < 10 ^ decimal.exponent := by positivity
  have nonzero : (10 : ℚ) ≠ 0 := by norm_num
  have split (count : Nat) :
      (10 : ℚ) ^ (decimal.exponent + count) = 10 ^ count * 10 ^ decimal.exponent := by
    rw [zpow_add₀ nonzero, zpow_natCast, mul_comm]
  rw [lengthEq, value, split]
  constructor
  · rw [Nat.succ_eq_add_one, Nat.cast_add_one, ← add_assoc, add_sub_cancel_right, split]
    exact mul_le_mul_of_nonneg_right lowerRat unitPositive.le
  · exact mul_lt_mul_of_pos_right upperRat unitPositive

/-- A power of ten above a value within the range of the format is not too small. -/
private theorem underflowExponent_le {leading : Int} {value : ℚ}
    (low : (2 : ℚ) ^ (-1075 : Int) ≤ value) (above : value < 10 ^ leading) :
    underflowExponent ≤ leading := by
  by_contra small
  have tiny : (10 : ℚ) ^ leading ≤ 10 ^ (-((401 : Nat) : Int)) :=
    zpow_le_zpow_right₀ (by norm_num) (by rw [underflowExponent] at small; omega)
  have least : (10 : ℚ) ^ (-((401 : Nat) : Int)) ≤ 2 ^ (-1075 : Int) := by
    calc (10 : ℚ) ^ (-((401 : Nat) : Int)) = (10 ^ 401)⁻¹ := by rw [zpow_neg, zpow_natCast]
      _ ≤ (2 ^ (3 * 401))⁻¹ := inv_anti₀ (by positivity) (two_pow_le_ten_pow 401)
      _ = (2 : ℚ) ^ (-((3 * 401 : Nat) : Int)) := by rw [zpow_neg, zpow_natCast]
      _ ≤ 2 ^ (-1075 : Int) := zpow_le_zpow_right₀ (by norm_num) (by norm_num)
  exact absurd (low.trans_lt above) (not_lt.mpr (tiny.trans least))

/-- A power of ten below a value within the range of the format is not too great. -/
private theorem le_overflowExponent {leading : Int} {value : ℚ}
    (below : (10 : ℚ) ^ (leading - 1) ≤ value) (high : value < 2 ^ (1024 : Int)) :
    leading ≤ overflowExponent := by
  by_contra large
  have huge : (10 : ℚ) ^ ((400 : Nat) : Int) ≤ 10 ^ (leading - 1) :=
    zpow_le_zpow_right₀ (by norm_num) (by rw [overflowExponent] at large; omega)
  have greatest : (2 : ℚ) ^ (1024 : Int) ≤ 10 ^ ((400 : Nat) : Int) := by
    calc (2 : ℚ) ^ (1024 : Int) ≤ 2 ^ ((3 * 400 : Nat) : Int) :=
          zpow_le_zpow_right₀ (by norm_num) (by norm_num)
      _ ≤ 10 ^ ((400 : Nat) : Int) := by
          rw [zpow_natCast, zpow_natCast]
          exact two_pow_le_ten_pow 400
  exact absurd (below.trans_lt high) (not_lt.mpr (greatest.trans huge))

/-- A decimal within the range of the double-precision numbers is rounded from its exact value. -/
theorem pattern_eq_nearestPattern {decimal : Decimal}
    (positive : 0 < decimal.coefficient)
    (low : (2 : ℚ) ^ (-1075 : Int) ≤ decimal.value)
    (high : decimal.value < (2 : ℚ) ^ (1024 : Int)) :
    decimal.pattern = BinaryFormat.binary64.nearestPattern
      (decimal.coefficient * 10 ^ decimal.exponent.toNat) (10 ^ (-decimal.exponent).toNat) := by
  obtain ⟨below, above⟩ := value_encloses positive
  unfold pattern
  dsimp only
  generalize decimal.exponent + ((Nat.toDigits 10 decimal.coefficient).length : Int) = leading at *
  have inRange : ¬ (decide (decimal.coefficient = 0) || decide (leading < underflowExponent)) =
      true := by
    simp only [Bool.or_eq_true, decide_eq_true_eq, not_or]
    exact ⟨positive.ne', not_lt.mpr (underflowExponent_le low above)⟩
  rw [if_neg inRange, if_neg (not_lt.mpr (le_overflowExponent below high))]

/-- What rounds to a finite number other than zero is within the range of the format. -/
private theorem nearest_inRange {number : Binary64} {value : ℚ} (finite : number.isFinite = true)
    (nonzero : number.magnitudePattern ≠ 0)
    (nearest : BinaryFormat.binary64.Nearest number.magnitude.1 number.magnitude.2 value) :
    (2 : ℚ) ^ (-1075 : Int) ≤ value ∧ value < (2 : ℚ) ^ (1024 : Int) := by
  have magnitude := Binary64.isMagnitude_magnitude nonzero
  have exponentHigh := Binary64.magnitude_exponent_le finite nonzero
  have exponentLow : (-1074 : Int) ≤ number.magnitude.2 := magnitude.exponentBound
  have significandLow : (1 : ℚ) ≤ number.magnitude.1 := by exact_mod_cast magnitude.positive
  have significandHigh : (number.magnitude.1 : ℚ) + 1 ≤ 2 ^ 53 := by
    exact_mod_cast magnitude.width
  constructor
  · calc (2 : ℚ) ^ (-1075 : Int) = (1 / 2) * 2 ^ (-1074 : Int) := by
          rw [show (-1075 : Int) = -1074 - 1 by norm_num, zpow_sub_one₀ two_ne_zero]
          ring
      _ ≤ ((number.magnitude.1 : ℚ) - 1 / 2) * 2 ^ number.magnitude.2 :=
          mul_le_mul (by linarith) (zpow_le_zpow_right₀ (by norm_num) exponentLow)
            (by positivity) (by linarith)
      _ ≤ value := nearest.low
  · calc value ≤ ((number.magnitude.1 : ℚ) + 1 / 2) * 2 ^ number.magnitude.2 := nearest.high
      _ < 2 ^ 53 * 2 ^ number.magnitude.2 :=
          mul_lt_mul_of_pos_right (by linarith) (by positivity)
      _ ≤ 2 ^ 53 * 2 ^ (971 : Int) :=
          mul_le_mul_of_nonneg_left (zpow_le_zpow_right₀ (by norm_num) exponentHigh)
            (by positivity)
      _ = (2 : ℚ) ^ (1024 : Int) := by
          rw [← zpow_natCast, ← zpow_add₀ two_ne_zero]
          norm_num

/-- A decimal among those that round to a finite number has that number's pattern. -/
theorem pattern_eq_magnitudePattern {decimal : Decimal} {number : Binary64}
    (finite : number.isFinite = true)
    (nonzero : number.magnitudePattern ≠ 0)
    (covers : (RoundingInterval.around number).Covers decimal.value) :
    decimal.pattern = number.magnitudePattern := by
  have nearest := RoundingInterval.nearest_of_covers nonzero covers
  obtain ⟨low, high⟩ := nearest_inRange finite nonzero nearest
  have positive : 0 < decimal.coefficient := by
    by_contra zero
    have valueZero : decimal.value = 0 := by
      rw [value, Nat.eq_zero_of_not_pos zero, Nat.cast_zero, zero_mul]
    have : (0 : ℚ) < 2 ^ (-1075 : Int) := by positivity
    linarith
  have ratio : ((decimal.coefficient * 10 ^ decimal.exponent.toNat : Nat) : ℚ) /
      (10 ^ (-decimal.exponent).toNat : Nat) = decimal.value := by
    rw [value, ← Nat.cast_ofNat (R := ℚ), ← pow_toNat_div_pow_toNat 10 decimal.exponent]
    push_cast
    rw [mul_div_assoc]
  rw [pattern_eq_nearestPattern positive low high]
  refine Binary64.nearestPattern_eq_magnitudePattern finite nonzero (Nat.pow_pos (by decide)) ?_
  rw [ratio]
  exact nearest

end Decimal

namespace Text

/-! ## Numerals -/

/-- A text of digits and points that begins with a digit. -/
structure IsNumeral (text : Text) : Prop where
  leading : ∃ first rest, text = first :: rest ∧ first.isDigit = true
  characters : ∀ character ∈ text, character.isDigit = true ∨ character = '.'

theorem IsDigits.isNumeral {digits : Text} (all : digits.IsDigits) (nonempty : digits ≠ []) :
    digits.IsNumeral := by
  obtain ⟨first, rest, rfl⟩ := List.exists_cons_of_ne_nil nonempty
  exact ⟨⟨first, rest, rfl, all first List.mem_cons_self⟩, fun character member =>
    .inl (all character member)⟩

theorem isNumeral_point {whole fraction : Text} (wholeDigits : whole.IsDigits)
    (fractionDigits : fraction.IsDigits) (nonempty : whole ≠ []) :
    IsNumeral (whole ++ '.' :: fraction) := by
  obtain ⟨first, rest, rfl⟩ := List.exists_cons_of_ne_nil nonempty
  refine ⟨⟨first, rest ++ '.' :: fraction, rfl, wholeDigits first List.mem_cons_self⟩, ?_⟩
  intro character member
  cases List.mem_append.mp member with
  | inl inWhole => exact .inl (wholeDigits character inWhole)
  | inr after =>
      cases List.mem_cons.mp after with
      | inl isPoint => exact .inr isPoint
      | inr inFraction => exact .inl (fractionDigits character inFraction)

/-- Neither digits, nor points, nor minus signs are blank. -/
theorem IsNumeral.isBlank_eq_false {text : Text} (numeral : text.IsNumeral) (negative : Bool) :
    ∀ character ∈ (if negative then '-' :: text else text), isBlank character = false := by
  have solid (character : Char) (member : character ∈ text) : isBlank character = false := by
    cases numeral.characters character member with
    | inl digit =>
        unfold Char.isDigit at digit
        rw [Bool.and_eq_true, decide_eq_true_eq, decide_eq_true_eq, ge_iff_le,
          UInt32.le_iff_toNat_le, UInt32.le_iff_toNat_le] at digit
        have low : 48 ≤ character.toNat := digit.1
        have high : character.toNat ≤ 57 := digit.2
        simp only [isBlank, Bool.or_eq_false_iff, Bool.and_eq_false_iff, decide_eq_false_iff_not]
        omega
    | inr point => exact point ▸ rfl
  cases negative with
  | true =>
      intro character member
      cases List.mem_cons.mp member with
      | inl sign => exact sign ▸ rfl
      | inr later => exact solid character later
  | false => exact solid

/-- A numeral begins with a digit or its sign. -/
theorem IsNumeral.head?_ne {text : Text} (numeral : text.IsNumeral) (negative : Bool)
    {character : Char} (noDigit : character.isDigit = false) (noSign : character ≠ '-') :
    (if negative then '-' :: text else text).head? ≠ some character := by
  cases negative with
  | true => exact fun equal => noSign (Option.some.inj equal).symm
  | false =>
      obtain ⟨first, rest, rfl, digit⟩ := numeral.leading
      intro equal
      rw [← Option.some.inj equal, digit] at noDigit
      cases noDigit

end Text

namespace Binary64

/-! ## Reading numerals -/

/-- The words for numbers begin with a letter, numerals with a digit. -/
theorem wordPattern?_numeral {text : Text} (numeral : text.IsNumeral) :
    wordPattern? text = none := by
  obtain ⟨first, rest, rfl, digit⟩ := numeral.leading
  have notLetter (letter : Char) (remaining : Text) (other : letter.isDigit = false) :
      Text.upper (first :: rest) ≠ letter :: remaining := by
    intro equal
    rw [Text.upper, List.map_cons, toUpper_of_isDigit digit, List.cons.injEq] at equal
    rw [← equal.1, digit] at other
    cases other
  have notInfinity := notLetter 'I' "NF".toList rfl
  have notLongInfinity := notLetter 'I' "NFINITY".toList rfl
  have notNaN := notLetter 'N' "AN".toList rfl
  unfold wordPattern?
  simp_all

/-- A numeral with an optional minus sign reads as the rounded decimal with that sign. -/
theorem read?_signed {text : Text} (numeral : text.IsNumeral) (negative : Bool) :
    read? (if negative then '-' :: text else text) =
      (Decimal.read? text).map fun decimal => ofPattern negative decimal.pattern := by
  have word := wordPattern?_numeral numeral
  have unsigned : Decimal.splitSign text = (false, text) := by
    obtain ⟨first, rest, rfl, digit⟩ := numeral.leading
    have notMinus : first ≠ '-' := by
      rintro rfl
      cases digit
    have notPlus : first ≠ '+' := by
      rintro rfl
      cases digit
    simp [Decimal.splitSign, notMinus, notPlus]
  cases negative with
  | true => simp [read?, Decimal.splitSign, word]
  | false => simp [read?, unsigned, word]

theorem isNumeral_positional (digits : Nat) (power : Int) :
    (positional digits power).IsNumeral := by
  cases Decimal.positional_cases digits power with
  | inl run =>
      obtain ⟨places, rfl, textEq⟩ := run
      rw [textEq]
      exact ((Text.isDigits_toDigits digits).append (Text.isDigits_zeros places)).isNumeral
        (by simp [Nat.toDigits_ne_nil])
  | inr runs =>
      obtain ⟨whole, fraction, wholeDigits, fractionDigits, nonempty, -, -, textEq⟩ := runs
      rw [textEq]
      exact Text.isNumeral_point wholeDigits fractionDigits nonempty

/-- The shortest text of a finite number other than zero, as its sign and a numeral. -/
theorem shortestText_eq {number : Binary64} (finite : number.isFinite = true)
    (nonzero : number.magnitudePattern ≠ 0) :
    number.shortestText = if number.isNegative then
        '-' :: positional number.shortestDecimal.1 number.shortestDecimal.2
      else positional number.shortestDecimal.1 number.shortestDecimal.2 := by
  simp [shortestText, isNaN_eq_false finite, finite, nonzero]

/-- The shortest text of a finite number other than zero reads back as the number. -/
theorem read?_shortestText {number : Binary64} (finite : number.isFinite = true)
    (nonzero : number.magnitudePattern ≠ 0) :
    read? number.shortestText = some number := by
  obtain ⟨decimal, found, valueEq⟩ :=
    Decimal.read?_positional number.shortestDecimal.1 number.shortestDecimal.2
  have covers := (shortestDecimal_covers nonzero).2
  rw [← valueEq] at covers
  rw [shortestText_eq finite nonzero, read?_signed (isNumeral_positional _ _), found,
    Option.map_some, Decimal.pattern_eq_magnitudePattern finite nonzero covers,
    ofPattern_magnitudePattern]

/-! ## Whole numbers -/

/-- A whole number is its significand in units of its last binary place. -/
theorem wholeMagnitude?_eq_some {number : Binary64} {size : Nat}
    (whole : number.wholeMagnitude? = some size) :
    number.isFinite = true ∧ (size : ℚ) = number.magnitude.1 * 2 ^ number.magnitude.2 := by
  unfold wholeMagnitude? at whole
  split at whole
  · next finite =>
      dsimp only at whole
      split at whole
      · next divides =>
          refine ⟨finite, ?_⟩
          have unit : 2 ^ (-number.magnitude.2).toNat ∣ number.magnitude.1 :=
            Nat.dvd_of_mod_eq_zero divides
          rw [← Option.some.inj whole, Nat.cast_div (Dvd.dvd.mul_right unit _) (by positivity),
            ← Nat.cast_ofNat (R := ℚ) (n := 2), ← pow_toNat_div_pow_toNat 2 number.magnitude.2]
          push_cast
          rw [mul_div_assoc]
      · cases whole
  · cases whole

theorem wholeMagnitude_ne_zero {number : Binary64} {size : Nat}
    (whole : number.wholeMagnitude? = some size) (nonzero : number.magnitudePattern ≠ 0) :
    size ≠ 0 := by
  have sizeEq := (wholeMagnitude?_eq_some whole).2
  have positive : (0 : ℚ) < number.magnitude.1 * 2 ^ number.magnitude.2 :=
    mul_pos (by exact_mod_cast (isMagnitude_magnitude nonzero).positive) (by positivity)
  rintro rfl
  rw [Nat.cast_zero] at sizeEq
  exact positive.ne sizeEq

/-- The digits of a whole number other than zero read back as the number. -/
theorem read?_wholeText {number : Binary64} {size : Nat}
    (whole : number.wholeMagnitude? = some size) (nonzero : number.magnitudePattern ≠ 0) :
    read? (if number.isNegative then '-' :: Nat.toDigits 10 size else Nat.toDigits 10 size) =
      some number := by
  obtain ⟨finite, sizeEq⟩ := wholeMagnitude?_eq_some whole
  have covers := RoundingInterval.covers_self nonzero
  have valueEq : (⟨size, 0⟩ : Decimal).value = number.magnitude.1 * 2 ^ number.magnitude.2 := by
    rw [← sizeEq, Decimal.value, zpow_zero, mul_one]
  rw [← valueEq] at covers
  have all := Text.isDigits_toDigits size
  rw [read?_signed (all.isNumeral Nat.toDigits_ne_nil),
    Decimal.read?_digits all Nat.toDigits_ne_nil, Text.digitsValue_toDigits, Option.map_some,
    Decimal.pattern_eq_magnitudePattern finite nonzero covers, ofPattern_magnitudePattern]

end Binary64

end SheetEditor
