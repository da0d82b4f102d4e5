import SheetEditor.Numeric.Shortest
import SheetEditor.Proofs.Numeric.Rounding

/-!
Contract: the decimal chosen for a number lies among the rationals that round to
the number.

Owns: the interval of a number read over the rational numbers, the search for a
grid point inside it, and the bounds of the chosen decimal.

Does not own: the positional text of the decimal and its reading
(`SheetEditor.Proofs.Numeric.ReadBack`).
-/

namespace SheetEditor

namespace Binary64

/-! ## Patterns -/

/-- A number is its sign and its magnitude pattern. -/
theorem ofPattern_magnitudePattern (number : Binary64) :
    ofPattern number.isNegative number.magnitudePattern = number := by
  obtain ⟨bits⟩ := number
  have bound := bits.toNat_lt
  have weight : BinaryFormat.binary64.signWeight = 2 ^ 63 := rfl
  simp only [ofPattern, isNegative, magnitudePattern, weight]
  congr 1
  rw [← UInt64.toNat_inj, UInt64.toNat_ofNat']
  simp only [decide_eq_true_eq]
  split
  · omega
  · omega

/-- A finite number is not NaN. -/
theorem isNaN_eq_false {number : Binary64} (finite : number.isFinite = true) :
    number.isNaN = false := by
  have bound : number.magnitudePattern < BinaryFormat.binary64.infinityPattern :=
    of_decide_eq_true finite
  exact decide_eq_false (not_lt.mpr bound.le)

/-- A finite number equals itself. -/
theorem numericallyEqual_self {number : Binary64} (finite : number.isFinite = true) :
    number.numericallyEqual number = true := by
  simp [numericallyEqual, isNaN_eq_false finite]

theorem isMagnitude_magnitude {number : Binary64} (nonzero : number.magnitudePattern ≠ 0) :
    BinaryFormat.binary64.IsMagnitude number.magnitude.1 number.magnitude.2 :=
  BinaryFormat.isMagnitude_magnitudeOf _ nonzero

/-- Rounding any value near a finite number gives back its magnitude pattern. -/
theorem nearestPattern_eq_magnitudePattern
    {number : Binary64} {numerator denominator : Nat}
    (finite : number.isFinite = true)
    (nonzero : number.magnitudePattern ≠ 0)
    (denominatorPositive : 0 < denominator)
    (nearest : BinaryFormat.binary64.Nearest number.magnitude.1 number.magnitude.2
      ((numerator : ℚ) / denominator)) :
    BinaryFormat.binary64.nearestPattern numerator denominator = number.magnitudePattern := by
  rw [BinaryFormat.nearestPattern_eq denominatorPositive (isMagnitude_magnitude nonzero) nearest,
    magnitude, BinaryFormat.pattern_eq_magnitudeOf]
  exact min_eq_left (of_decide_eq_true finite).le

/-- The last binary place of a finite number is at most that of the largest one. -/
theorem magnitude_exponent_le {number : Binary64}
    (finite : number.isFinite = true) (nonzero : number.magnitudePattern ≠ 0) :
    number.magnitude.2 ≤ 971 := by
  have bound : number.magnitudePattern < BinaryFormat.binary64.infinityPattern :=
    of_decide_eq_true finite
  have written : (number.magnitude.2 - BinaryFormat.binary64.leastExponent).toNat * 2 ^ 52 +
      number.magnitude.1 = number.magnitudePattern :=
    BinaryFormat.pattern_eq_magnitudeOf BinaryFormat.binary64 number.magnitudePattern
  have filled : number.magnitude.2 = BinaryFormat.binary64.leastExponent ∨
      2 ^ 52 ≤ number.magnitude.1 := (isMagnitude_magnitude nonzero).filled
  have infinity : BinaryFormat.binary64.infinityPattern = 2047 * 2 ^ 52 := rfl
  have least : BinaryFormat.binary64.leastExponent = -1074 := rfl
  rw [infinity] at bound
  rw [least] at written filled
  omega

end Binary64

namespace RoundingInterval

/-! ## The interval over the rational numbers -/

/-- Whether a rational lies in the interval. -/
def Covers (interval : RoundingInterval) (value : ℚ) : Prop :=
  if interval.closed then
    interval.low * (2 : ℚ) ^ interval.exponent ≤ value ∧
      value ≤ interval.high * (2 : ℚ) ^ interval.exponent
  else
    interval.low * (2 : ℚ) ^ interval.exponent < value ∧
      value < interval.high * (2 : ℚ) ^ interval.exponent

theorem Covers.between {interval : RoundingInterval} {value : ℚ} (covers : interval.Covers value) :
    interval.low * (2 : ℚ) ^ interval.exponent ≤ value ∧
      value ≤ interval.high * (2 : ℚ) ^ interval.exponent := by
  unfold Covers at covers
  split at covers
  · exact covers
  · exact ⟨covers.1.le, covers.2.le⟩

theorem contains_iff_covers (interval : RoundingInterval) (numerator : Nat) {denominator : Nat}
    (positive : 0 < denominator) :
    interval.contains numerator denominator = true ↔
      interval.Covers ((numerator : ℚ) / denominator * 2 ^ interval.exponent) := by
  have positiveRat : (0 : ℚ) < denominator := by exact_mod_cast positive
  have powerPositive : (0 : ℚ) < 2 ^ interval.exponent := by positivity
  unfold contains Covers
  split
  · rw [Bool.and_eq_true, decide_eq_true_eq, decide_eq_true_eq,
      mul_le_mul_iff_left₀ powerPositive, mul_le_mul_iff_left₀ powerPositive,
      le_div_iff₀ positiveRat, div_le_iff₀ positiveRat]
    norm_cast
  · rw [Bool.and_eq_true, decide_eq_true_eq, decide_eq_true_eq,
      mul_lt_mul_iff_left₀ powerPositive, mul_lt_mul_iff_left₀ powerPositive,
      lt_div_iff₀ positiveRat, div_lt_iff₀ positiveRat]
    norm_cast

theorem around_inner {number : Binary64} (nonzero : number.magnitudePattern ≠ 0) :
    (around number).low < (around number).center ∧
      (around number).center < (around number).high := by
  have positive := (Binary64.isMagnitude_magnitude nonzero).positive
  simp only [around]
  constructor
  · split
    · omega
    · omega
  · omega

/-- A quarter of the unit in the last place of a number is the unit of its interval. -/
private theorem around_unit (number : Binary64) :
    (2 : ℚ) ^ (around number).exponent = 2 ^ number.magnitude.2 / 4 := by
  simp only [around]
  rw [zpow_sub₀ two_ne_zero]
  norm_num

/-- The lower end is at most half a unit in the last place away. -/
private theorem around_low {number : Binary64} (nonzero : number.magnitudePattern ≠ 0) :
    ((number.magnitude.1 : ℚ) - 1 / 2) * 2 ^ number.magnitude.2 ≤
      (around number).low * 2 ^ (around number).exponent := by
  have positive := (Binary64.isMagnitude_magnitude nonzero).positive
  have powerPositive : (0 : ℚ) < 2 ^ number.magnitude.2 := by positivity
  rw [around_unit, ← mul_div_assoc, mul_div_right_comm]
  refine mul_le_mul_of_nonneg_right ?_ powerPositive.le
  simp only [around]
  split
  · rw [Nat.cast_sub (by omega)]
    push_cast
    linarith
  · rw [Nat.cast_sub (by omega)]
    push_cast
    linarith

/-- Above a power of two the lower end is a quarter of a unit in the last place away. -/
private theorem around_low_of_doubling {number : Binary64}
    (power : number.magnitude.1 = 2 ^ 52)
    (notLeast : number.magnitude.2 ≠ BinaryFormat.binary64.leastExponent) :
    ((around number).low : ℚ) * 2 ^ (around number).exponent =
      ((number.magnitude.1 : ℚ) - 1 / 4) * 2 ^ number.magnitude.2 := by
  have doubling : (number.magnitude.1 = 2 ^ 52 &&
      number.magnitude.2 ≠ BinaryFormat.binary64.leastExponent) = true := by
    simpa using ⟨power, notLeast⟩
  have low : (around number).low = 4 * number.magnitude.1 - 1 := if_pos doubling
  rw [around_unit, low, Nat.cast_sub (by omega)]
  push_cast
  ring

/-- The upper end is half a unit in the last place away. -/
private theorem around_high (number : Binary64) :
    ((around number).high : ℚ) * 2 ^ (around number).exponent =
      ((number.magnitude.1 : ℚ) + 1 / 2) * 2 ^ number.magnitude.2 := by
  rw [around_unit]
  simp only [around]
  push_cast
  ring

/-- What the interval of a number covers is nearest to the number. -/
theorem nearest_of_covers {number : Binary64} {value : ℚ}
    (nonzero : number.magnitudePattern ≠ 0)
    (covers : (around number).Covers value) :
    BinaryFormat.binary64.Nearest number.magnitude.1 number.magnitude.2 value := by
  have lowEnd := around_low nonzero
  have highEnd := around_high number
  obtain ⟨aboveLow, belowHigh⟩ := covers.between
  -- The ends belong to the interval only if the significand is even.
  have tieEven
      (atEnd : value = ((number.magnitude.1 : ℚ) - 1 / 2) * 2 ^ number.magnitude.2 ∨
        value = ((number.magnitude.1 : ℚ) + 1 / 2) * 2 ^ number.magnitude.2) :
      number.magnitude.1 % 2 = 0 := by
    by_contra odd
    have isOpen : ¬ (around number).closed = true := by simpa [around] using odd
    unfold Covers at covers
    rw [if_neg isOpen, highEnd] at covers
    cases atEnd with
    | inl atLow => exact absurd (lowEnd.trans_lt covers.1) (by rw [atLow]; exact lt_irrefl _)
    | inr atHigh => exact absurd covers.2 (by rw [atHigh]; exact lt_irrefl _)
  exact {
    low := lowEnd.trans aboveLow
    high := belowHigh.trans_eq highEnd
    tieLow := fun atLow => tieEven (.inl atLow)
    tieHigh := fun atHigh => tieEven (.inr atHigh)
    doubling := fun power notLeast => (around_low_of_doubling power notLeast).symm.trans_le aboveLow }

/-- A number lies in its own interval. -/
theorem covers_self {number : Binary64} (nonzero : number.magnitudePattern ≠ 0) :
    (around number).Covers ((number.magnitude.1 : ℚ) * 2 ^ number.magnitude.2) := by
  have inner := around_inner nonzero
  have center : (number.magnitude.1 : ℚ) * 2 ^ number.magnitude.2 =
      (around number).center * 2 ^ (around number).exponent := by
    rw [around_unit]
    simp only [around]
    push_cast
    ring
  have powerPositive : (0 : ℚ) < 2 ^ (around number).exponent := by positivity
  have below : ((around number).low : ℚ) < (around number).center := by exact_mod_cast inner.1
  have above : ((around number).center : ℚ) < (around number).high := by exact_mod_cast inner.2
  rw [center]
  unfold Covers
  split
  · exact ⟨(mul_lt_mul_of_pos_right below powerPositive).le,
      (mul_lt_mul_of_pos_right above powerPositive).le⟩
  · exact ⟨mul_lt_mul_of_pos_right below powerPositive,
      mul_lt_mul_of_pos_right above powerPositive⟩

/-! ## The search -/

/-- Counted in units `2 ^ exponent`, the spacing of the grid of `10 ^ power` is a quotient of the
two whole numbers with which the search computes. -/
private theorem grid_spacing (exponent power : Int) :
    ((2 ^ (-exponent).toNat * 10 ^ power.toNat : Nat) : ℚ) /
        (2 ^ exponent.toNat * 10 ^ (-power).toNat : Nat) * 2 ^ exponent = 10 ^ power := by
  have binary := pow_toNat_div_pow_toNat 2 exponent
  have decimal := pow_toNat_div_pow_toNat 10 power
  push_cast at binary decimal ⊢
  rw [← binary, ← decimal]
  field_simp

/-- A hit on a grid is a positive multiple inside the interval. -/
theorem covers_of_nearestMultiple? {interval : RoundingInterval} {power : Int} {multiple : Nat}
    (found : interval.nearestMultiple? power = some multiple) :
    0 < multiple ∧ interval.Covers ((multiple : ℚ) * 10 ^ power) := by
  have spacing := grid_spacing interval.exponent power
  unfold nearestMultiple? at found
  dsimp only at found
  generalize scaleEq : 2 ^ (-interval.exponent).toNat * 10 ^ power.toNat = scale at *
  generalize unitEq : 2 ^ interval.exponent.toNat * 10 ^ (-power).toNat = unit at *
  have unitPositive : 0 < unit := by
    rw [← unitEq]
    positivity
  have inside (count : Nat) (contained : interval.contains (count * scale) unit = true) :
      interval.Covers ((count : ℚ) * 10 ^ power) := by
    have covers := (contains_iff_covers interval (count * scale) unitPositive).mp contained
    rw [Nat.cast_mul, mul_div_assoc, mul_assoc, spacing] at covers
    exact covers
  split at found
  · next belowChosen =>
      obtain rfl := Option.some.inj found
      simp only [Bool.and_eq_true, decide_eq_true_eq] at belowChosen
      exact ⟨belowChosen.1.1, inside _ belowChosen.1.2⟩
  · split at found
    · next aboveInside =>
        obtain rfl := Option.some.inj found
        exact ⟨Nat.succ_pos _, inside _ aboveInside⟩
    · cases found

/-- The search hits the grid on which the center lies. -/
theorem nearestMultiple?_isSome_of_dvd {interval : RoundingInterval} {power : Int}
    (inner : interval.low < interval.center ∧ interval.center < interval.high)
    (onGrid : 2 ^ (-interval.exponent).toNat * 10 ^ power.toNat ∣
      interval.center * (2 ^ interval.exponent.toNat * 10 ^ (-power).toNat)) :
    (interval.nearestMultiple? power).isSome = true := by
  unfold nearestMultiple?
  dsimp only
  have scalePositive : 0 < 2 ^ (-interval.exponent).toNat * 10 ^ power.toNat := by positivity
  have unitPositive : 0 < 2 ^ interval.exponent.toNat * 10 ^ (-power).toNat := by positivity
  generalize 2 ^ (-interval.exponent).toNat * 10 ^ power.toNat = scale at *
  generalize 2 ^ interval.exponent.toNat * 10 ^ (-power).toNat = unit at *
  obtain ⟨count, multiple⟩ := onGrid
  rw [multiple, Nat.mul_div_cancel_left count scalePositive, Nat.mul_mod_right]
  have countPositive : 0 < count := by
    have : 0 < interval.center * unit := Nat.mul_pos (by omega) unitPositive
    exact Nat.pos_of_mul_pos_left (multiple ▸ this)
  have inside : interval.contains (count * scale) unit = true := by
    have low := Nat.mul_lt_mul_of_pos_right inner.1 unitPositive
    have high := Nat.mul_lt_mul_of_pos_right inner.2 unitPositive
    rw [Nat.mul_comm count scale, ← multiple]
    unfold contains
    split
    · simp [low.le, high.le]
    · simp [low, high]
  simp [inside, countPositive, scalePositive]

/-- The result of the search is a hit on one of its grids. -/
theorem covers_of_firstMultiple? {interval : RoundingInterval} {count : Nat} {start : Int}
    {decimal : Nat × Int} (found : interval.firstMultiple? count start = some decimal) :
    0 < decimal.1 ∧ interval.Covers ((decimal.1 : ℚ) * 10 ^ decimal.2) := by
  induction count generalizing start with
  | zero => cases found
  | succ count inductionHypothesis =>
      unfold firstMultiple? at found
      split at found
      · next multiple hit =>
          obtain rfl := Option.some.inj found
          exact covers_of_nearestMultiple? hit
      · exact inductionHypothesis found

/-- The search succeeds if one of its grids has a hit. -/
theorem firstMultiple?_isSome {interval : RoundingInterval} {count : Nat} {start power : Int}
    (hit : (interval.nearestMultiple? power).isSome = true)
    (fromStart : power ≤ start)
    (reached : start < power + count) :
    (interval.firstMultiple? count start).isSome = true := by
  induction count generalizing start with
  | zero => omega
  | succ count inductionHypothesis =>
      unfold firstMultiple?
      split
      · rfl
      · next missed =>
          have later : power ≠ start := by
            rintro rfl
            rw [missed] at hit
            cases hit
          exact inductionHypothesis (by omega) (by push_cast at reached; omega)

/-- The center lies on the decimal grid of the interval's own binary place. -/
private theorem center_onGrid (interval : RoundingInterval) :
    2 ^ (-interval.exponent).toNat * 10 ^ (min interval.exponent 0).toNat ∣
      interval.center *
        (2 ^ interval.exponent.toNat * 10 ^ (-min interval.exponent 0).toNat) := by
  have whole : (min interval.exponent 0).toNat = 0 := by omega
  have places : (-min interval.exponent 0).toNat = (-interval.exponent).toNat := by omega
  rw [whole, places, pow_zero, Nat.mul_one]
  exact Dvd.dvd.mul_left (Dvd.dvd.mul_left (pow_dvd_pow_of_dvd (by decide) _) _) _

end RoundingInterval

namespace Binary64

/-! ## The chosen decimal -/

/-- The shortest decimal of a number is positive and rounds to the number. -/
theorem shortestDecimal_covers {number : Binary64} (nonzero : number.magnitudePattern ≠ 0) :
    0 < number.shortestDecimal.1 ∧
      (RoundingInterval.around number).Covers
        ((number.shortestDecimal.1 : ℚ) * 10 ^ number.shortestDecimal.2) := by
  have onGrid := RoundingInterval.nearestMultiple?_isSome_of_dvd
    (RoundingInterval.around_inner nonzero)
    (RoundingInterval.center_onGrid (RoundingInterval.around number))
  unfold shortestDecimal
  dsimp only
  generalize RoundingInterval.around number = interval at *
  generalize startEq : (if 0 ≤ interval.exponent then
      ((Nat.toDigits 10 (interval.high * 2 ^ interval.exponent.toNat)).length : Int)
    else (Nat.toDigits 10 (interval.high / 2 ^ (-interval.exponent).toNat)).length) = start
  have startNonnegative : 0 ≤ start := by
    rw [← startEq]
    split
    · exact Int.natCast_nonneg _
    · exact Int.natCast_nonneg _
  have reached : start < min interval.exponent 0 +
      ((start - min interval.exponent 0).toNat + 1 : Nat) := by omega
  have succeeds := RoundingInterval.firstMultiple?_isSome onGrid (by omega) reached
  obtain ⟨decimal, found⟩ := Option.isSome_iff_exists.mp succeeds
  rw [found]
  exact RoundingInterval.covers_of_firstMultiple? found

end Binary64

end SheetEditor
