import Mathlib.Algebra.Order.Field.Power
import Mathlib.Data.Rat.Cast.Order
import Mathlib.Tactic.FieldSimp
import Mathlib.Tactic.Linarith
import Mathlib.Tactic.Positivity
import Mathlib.Tactic.Ring
import SheetEditor.Numeric.BinaryFormat

/-!
Contract: rounding into a binary format, read over the rational numbers.

Owns: the laws of half-even division, scaling and the binary exponent, the normal
form of the magnitudes of a format, and the theorem that every rational between
the midpoints around a number of the format rounds to that number.

Does not own: the decimal text of a number (`SheetEditor.Proofs.Numeric.Shortest`).
-/

namespace SheetEditor

/-! ## Division to the nearest whole number -/

/-- A whole number within half a unit of a quotient is its rounding; at exactly half a unit it has
to be even. -/
private theorem roundHalfEven_eq_of_bounds
    {numerator denominator value : Nat}
    (positive : 0 < denominator)
    (low : 2 * value * denominator ≤ 2 * numerator + denominator)
    (high : 2 * numerator ≤ 2 * value * denominator + denominator)
    (tieLow : 2 * value * denominator = 2 * numerator + denominator → value % 2 = 0)
    (tieHigh : 2 * numerator = 2 * value * denominator + denominator → value % 2 = 0) :
    roundHalfEven numerator denominator = value := by
  have division := Nat.div_add_mod numerator denominator
  have remainderBound := Nat.mod_lt numerator positive
  unfold roundHalfEven
  generalize numerator / denominator = quotient at *
  generalize numerator % denominator = remainder at *
  subst division
  simp only [Bool.or_eq_true, Bool.and_eq_true, decide_eq_true_eq]
  -- Only the quotient and its successor are within half a unit.
  have notBelow : ¬ value < quotient := by
    intro below
    have := Nat.mul_le_mul_right denominator below
    linarith
  have notAbove : ¬ quotient + 1 < value := by
    intro above
    have := Nat.mul_le_mul_right denominator above
    linarith
  obtain rfl | rfl : value = quotient ∨ value = quotient + 1 := by omega
  · have atMostHalf : 2 * remainder ≤ denominator := by linarith
    have evenAtHalf : 2 * remainder = denominator → value % 2 = 0 := fun equal =>
      tieHigh (by linarith)
    rw [if_pos (by omega)]
  · have atLeastHalf : denominator ≤ 2 * remainder := by linarith
    have oddAtHalf : 2 * remainder = denominator → (quotient + 1) % 2 = 0 := fun equal =>
      tieLow (by linarith)
    rw [if_neg (by omega)]

/-- The same over the rational numbers. -/
theorem roundHalfEven_eq_of_abs_sub_le
    {numerator denominator value : Nat}
    (positive : 0 < denominator)
    (near : |(numerator : ℚ) / denominator - value| ≤ 1 / 2)
    (tie : |(numerator : ℚ) / denominator - value| = 1 / 2 → value % 2 = 0) :
    roundHalfEven numerator denominator = value := by
  have positiveRat : (0 : ℚ) < denominator := by exact_mod_cast positive
  have scaled : (numerator : ℚ) = (numerator / denominator : ℚ) * denominator :=
    (div_mul_cancel₀ _ positiveRat.ne').symm
  obtain ⟨lowNear, highNear⟩ := abs_le.mp near
  apply roundHalfEven_eq_of_bounds positive
  · have low := mul_le_mul_of_nonneg_right lowNear positiveRat.le
    have lowRat : (2 * value * denominator : ℚ) ≤ 2 * numerator + denominator := by linarith
    exact_mod_cast lowRat
  · have high := mul_le_mul_of_nonneg_right highNear positiveRat.le
    have highRat : (2 * numerator : ℚ) ≤ 2 * value * denominator + denominator := by linarith
    exact_mod_cast highRat
  · intro equal
    have equalRat : (2 * value * denominator : ℚ) = 2 * numerator + denominator := by
      exact_mod_cast equal
    have half : (numerator : ℚ) / denominator - value = -(1 / 2) := by
      field_simp
      linarith
    exact tie (by rw [half, abs_neg, abs_of_nonneg (by norm_num)])
  · intro equal
    have equalRat : (2 * numerator : ℚ) = 2 * value * denominator + denominator := by
      exact_mod_cast equal
    have half : (numerator : ℚ) / denominator - value = 1 / 2 := by
      field_simp
      linarith
    exact tie (by rw [half, abs_of_nonneg (by norm_num)])

/-! ## Scaling and the binary exponent -/

/-- A power with an integer exponent as the quotient of two powers with natural exponents. -/
theorem pow_toNat_div_pow_toNat (base : Nat) (exponent : Int) :
    (base : ℚ) ^ exponent.toNat / (base : ℚ) ^ (-exponent).toNat = (base : ℚ) ^ exponent := by
  cases le_total 0 exponent with
  | inl nonnegative =>
      obtain ⟨places, rfl⟩ := Int.eq_ofNat_of_zero_le nonnegative
      simp
  | inr nonpositive =>
      obtain ⟨places, rfl⟩ : ∃ places : Nat, exponent = -(places : Int) :=
        ⟨(-exponent).toNat, by omega⟩
      simp

theorem scaleDown_ratio (base : Nat) (positive : 0 < base) (exponent : Int)
    (numerator denominator : Nat) :
    ((scaleDown base exponent numerator denominator).1 : ℚ) /
        (scaleDown base exponent numerator denominator).2 =
      (numerator : ℚ) / denominator / (base : ℚ) ^ exponent := by
  have baseNonzero : (base : ℚ) ≠ 0 := by exact_mod_cast positive.ne'
  unfold scaleDown
  cases le_total 0 exponent with
  | inl nonnegative =>
      obtain ⟨places, rfl⟩ := Int.eq_ofNat_of_zero_le nonnegative
      simp [div_div]
  | inr nonpositive =>
      obtain ⟨places, rfl⟩ : ∃ places : Nat, exponent = -(places : Int) :=
        ⟨(-exponent).toNat, by omega⟩
      simp [div_eq_mul_inv, mul_right_comm]

theorem scaleDown_positive (base : Nat) (positive : 0 < base) (exponent : Int)
    (numerator : Nat) {denominator : Nat} (denominatorPositive : 0 < denominator) :
    0 < (scaleDown base exponent numerator denominator).2 :=
  Nat.mul_pos denominatorPositive (Nat.pow_pos positive)

/-- A quotient lies less than a factor of two away from the quotient of the leading bits. -/
private theorem log2_brackets {numerator denominator : Nat}
    (numeratorPositive : 0 < numerator) (denominatorPositive : 0 < denominator) :
    (2 : ℚ) ^ ((numerator.log2 : Int) - denominator.log2 - 1) ≤ (numerator : ℚ) / denominator ∧
      (numerator : ℚ) / denominator < (2 : ℚ) ^ ((numerator.log2 : Int) - denominator.log2 + 1) := by
  have denominatorRat : (0 : ℚ) < denominator := by exact_mod_cast denominatorPositive
  have numeratorLow : (2 : ℚ) ^ numerator.log2 ≤ numerator := by
    exact_mod_cast Nat.log2_self_le numeratorPositive.ne'
  have numeratorHigh : (numerator : ℚ) < 2 ^ (numerator.log2 + 1) := by
    exact_mod_cast Nat.lt_log2_self
  have denominatorLow : (2 : ℚ) ^ denominator.log2 ≤ denominator := by
    exact_mod_cast Nat.log2_self_le denominatorPositive.ne'
  have denominatorHigh : (denominator : ℚ) < 2 ^ (denominator.log2 + 1) := by
    exact_mod_cast Nat.lt_log2_self
  constructor
  · rw [le_div_iff₀ denominatorRat]
    calc (2 : ℚ) ^ ((numerator.log2 : Int) - denominator.log2 - 1) * denominator
        ≤ 2 ^ ((numerator.log2 : Int) - denominator.log2 - 1) * 2 ^ (denominator.log2 + 1) := by
          gcongr
      _ = 2 ^ numerator.log2 := by
          rw [← zpow_natCast, ← zpow_natCast, ← zpow_add₀ two_ne_zero]
          congr 1
          push_cast
          ring
      _ ≤ numerator := numeratorLow
  · rw [div_lt_iff₀ denominatorRat]
    calc (numerator : ℚ) < 2 ^ (numerator.log2 + 1) := numeratorHigh
      _ = 2 ^ ((numerator.log2 : Int) - denominator.log2 + 1) * 2 ^ denominator.log2 := by
          rw [← zpow_natCast, ← zpow_natCast, ← zpow_add₀ two_ne_zero]
          congr 1
          push_cast
          ring
      _ ≤ 2 ^ ((numerator.log2 : Int) - denominator.log2 + 1) * denominator := by
          gcongr

/-- The exponent of a quotient is the one whose power of two and the next one enclose it. -/
theorem binaryExponent_encloses {numerator denominator : Nat}
    (numeratorPositive : 0 < numerator) (denominatorPositive : 0 < denominator) :
    (2 : ℚ) ^ binaryExponent numerator denominator ≤ (numerator : ℚ) / denominator ∧
      (numerator : ℚ) / denominator < (2 : ℚ) ^ (binaryExponent numerator denominator + 1) := by
  obtain ⟨low, high⟩ := log2_brackets numeratorPositive denominatorPositive
  unfold binaryExponent
  generalize (numerator.log2 : Int) - denominator.log2 = estimate at *
  have below : (scaleDown 2 estimate numerator denominator).1 <
      (scaleDown 2 estimate numerator denominator).2 ↔
      (numerator : ℚ) / denominator < 2 ^ estimate := by
    have ratio := scaleDown_ratio 2 (by decide) estimate numerator denominator
    have scaledPositive : (0 : ℚ) < (scaleDown 2 estimate numerator denominator).2 := by
      exact_mod_cast scaleDown_positive 2 (by decide) estimate numerator
        denominatorPositive
    have powerPositive : (0 : ℚ) < (2 : Nat) ^ estimate := by positivity
    rw [← Nat.cast_lt (α := ℚ), ← div_lt_one scaledPositive, ratio, div_lt_one powerPositive]
    norm_cast
  by_cases small : (numerator : ℚ) / denominator < 2 ^ estimate
  · rw [if_pos (below.mpr small), sub_add_cancel]
    exact ⟨low, small⟩
  · rw [if_neg (mt below.mp small)]
    exact ⟨not_lt.mp small, high⟩

namespace BinaryFormat

/-! ## Magnitudes of a format -/

/-- A magnitude `significand · 2 ^ exponent` other than zero as the format writes it: except at
the least exponent the significand fills its places. -/
structure IsMagnitude (format : BinaryFormat) (significand : Nat) (exponent : Int) : Prop where
  positive : 0 < significand
  width : significand < 2 * 2 ^ format.fractionBits
  exponentBound : format.leastExponent ≤ exponent
  filled : exponent = format.leastExponent ∨ 2 ^ format.fractionBits ≤ significand

theorem isMagnitude_magnitudeOf (format : BinaryFormat) {pattern : Nat} (nonzero : pattern ≠ 0) :
    format.IsMagnitude (format.magnitudeOf pattern).1 (format.magnitudeOf pattern).2 := by
  have unitPositive : 0 < 2 ^ format.fractionBits := Nat.two_pow_pos _
  have fractionBound := Nat.mod_lt pattern unitPositive
  have division := Nat.div_add_mod pattern (2 ^ format.fractionBits)
  by_cases subnormal : pattern / 2 ^ format.fractionBits = 0
  · simp only [magnitudeOf, if_pos subnormal]
    rw [subnormal] at division
    exact ⟨by omega, by omega, le_rfl, .inl rfl⟩
  · simp only [magnitudeOf, if_neg subnormal]
    exact ⟨by omega, by omega, by omega, .inr (by omega)⟩

/-- A pattern counts the exponent in units of the fraction field, plus the significand. -/
theorem pattern_eq_magnitudeOf (format : BinaryFormat) (pattern : Nat) :
    ((format.magnitudeOf pattern).2 - format.leastExponent).toNat * 2 ^ format.fractionBits +
      (format.magnitudeOf pattern).1 = pattern := by
  have division := Nat.div_add_mod pattern (2 ^ format.fractionBits)
  by_cases subnormal : pattern / 2 ^ format.fractionBits = 0
  · simp only [magnitudeOf, if_pos subnormal]
    rw [subnormal] at division
    simpa using division
  · simp only [magnitudeOf, if_neg subnormal]
    obtain ⟨predecessor, field⟩ := Nat.exists_eq_succ_of_ne_zero subnormal
    rw [field] at division ⊢
    rw [add_sub_cancel_left, Int.toNat_natCast, Nat.succ_eq_add_one, Nat.add_sub_cancel,
      ← Nat.add_assoc, ← Nat.succ_mul, Nat.mul_comm]
    exact division

/-! ## The interval that rounds to a number -/

/-- The rationals between the midpoints around a magnitude. A midpoint belongs to it only if the
significand is even; below a power of two the midpoint is twice as near. -/
structure Nearest (format : BinaryFormat) (significand : Nat) (exponent : Int) (value : ℚ) :
    Prop where
  low : ((significand : ℚ) - 1 / 2) * 2 ^ exponent ≤ value
  high : value ≤ ((significand : ℚ) + 1 / 2) * 2 ^ exponent
  tieLow : value = ((significand : ℚ) - 1 / 2) * 2 ^ exponent → significand % 2 = 0
  tieHigh : value = ((significand : ℚ) + 1 / 2) * 2 ^ exponent → significand % 2 = 0
  doubling : significand = 2 ^ format.fractionBits → exponent ≠ format.leastExponent →
    ((significand : ℚ) - 1 / 4) * 2 ^ exponent ≤ value

/-- The exponent at which a quotient is rounded. -/
private theorem roundingExponent_eq {format : BinaryFormat} {numerator denominator : Nat}
    {exponent : Int}
    (numeratorPositive : 0 < numerator) (denominatorPositive : 0 < denominator)
    (bound : format.leastExponent ≤ exponent)
    (low : exponent = format.leastExponent ∨
      (2 : ℚ) ^ (exponent + format.fractionBits) ≤ (numerator : ℚ) / denominator)
    (high : (numerator : ℚ) / denominator < 2 ^ (exponent + format.fractionBits + 1)) :
    max (binaryExponent numerator denominator - format.fractionBits) format.leastExponent =
      exponent := by
  obtain ⟨below, above⟩ := binaryExponent_encloses numeratorPositive denominatorPositive
  have upper := (zpow_lt_zpow_iff_right₀ (by norm_num : (1 : ℚ) < 2)).mp (below.trans_lt high)
  cases low with
  | inl least => omega
  | inr low =>
      have lower := (zpow_lt_zpow_iff_right₀ (by norm_num : (1 : ℚ) < 2)).mp (low.trans_lt above)
      omega

/-- Rounding at a known exponent. -/
private theorem nearestPattern_of_exponent {format : BinaryFormat}
    {numerator denominator significand : Nat} {exponent : Int}
    (numeratorPositive : 0 < numerator) (denominatorPositive : 0 < denominator)
    (rounding : max (binaryExponent numerator denominator - format.fractionBits)
      format.leastExponent = exponent)
    (near : |(numerator : ℚ) / denominator / 2 ^ exponent - significand| ≤ 1 / 2)
    (tie : |(numerator : ℚ) / denominator / 2 ^ exponent - significand| = 1 / 2 →
      significand % 2 = 0) :
    format.nearestPattern numerator denominator =
      min ((exponent - format.leastExponent).toNat * 2 ^ format.fractionBits + significand)
        format.infinityPattern := by
  have ratio := scaleDown_ratio 2 (by decide) exponent numerator denominator
  have rounded : roundHalfEven (scaleDown 2 exponent numerator denominator).1
      (scaleDown 2 exponent numerator denominator).2 = significand := by
    refine roundHalfEven_eq_of_abs_sub_le
      (scaleDown_positive 2 (by decide) exponent numerator denominatorPositive) ?_ ?_
    · rw [ratio]
      exact near
    · rw [ratio]
      exact tie
  rw [nearestPattern, if_neg numeratorPositive.ne']
  simp only [rounding, rounded]

/-- A value at least as large as the power of two at the leading place, or any value at the least
exponent, is rounded in units of the magnitude itself. -/
private theorem nearestPattern_aligned {format : BinaryFormat}
    {numerator denominator significand : Nat} {exponent : Int}
    (numeratorPositive : 0 < numerator) (denominatorPositive : 0 < denominator)
    (magnitude : format.IsMagnitude significand exponent)
    (nearest : format.Nearest significand exponent ((numerator : ℚ) / denominator))
    (aligned : exponent = format.leastExponent ∨
      (2 : ℚ) ^ (exponent + format.fractionBits) ≤ (numerator : ℚ) / denominator) :
    format.nearestPattern numerator denominator =
      min ((exponent - format.leastExponent).toNat * 2 ^ format.fractionBits + significand)
        format.infinityPattern := by
  have powerPositive : (0 : ℚ) < 2 ^ exponent := by positivity
  have significandHigh : (significand : ℚ) + 1 ≤ 2 * 2 ^ format.fractionBits := by
    exact_mod_cast magnitude.width
  have high : (numerator : ℚ) / denominator < 2 ^ (exponent + format.fractionBits + 1) := by
    calc (numerator : ℚ) / denominator ≤ ((significand : ℚ) + 1 / 2) * 2 ^ exponent :=
          nearest.high
      _ < (2 * 2 ^ format.fractionBits) * 2 ^ exponent :=
          mul_lt_mul_of_pos_right (by linarith) powerPositive
      _ = 2 ^ (exponent + format.fractionBits + 1) := by
          rw [zpow_add_one₀ two_ne_zero, zpow_add₀ two_ne_zero, zpow_natCast]
          ring
  have scaledLow := (le_div_iff₀ powerPositive).mpr nearest.low
  have scaledHigh := (div_le_iff₀ powerPositive).mpr nearest.high
  refine nearestPattern_of_exponent numeratorPositive denominatorPositive
    (roundingExponent_eq numeratorPositive denominatorPositive magnitude.exponentBound
      aligned high) (abs_le.mpr ⟨by linarith, by linarith⟩) ?_
  intro half
  cases (abs_eq (by norm_num : (0 : ℚ) ≤ 1 / 2)).mp half with
  | inl above => exact nearest.tieHigh ((div_eq_iff powerPositive.ne').mp (by linarith))
  | inr below => exact nearest.tieLow ((div_eq_iff powerPositive.ne').mp (by linarith))

/-- A value a little below a power of two is rounded in half units, up to that power. -/
private theorem nearestPattern_below_power {format : BinaryFormat}
    {numerator denominator : Nat} {exponent : Int}
    (numeratorPositive : 0 < numerator) (denominatorPositive : 0 < denominator)
    (exponentBound : format.leastExponent < exponent)
    (close : ((2 : ℚ) ^ format.fractionBits - 1 / 4) * 2 ^ exponent ≤
      (numerator : ℚ) / denominator)
    (small : (numerator : ℚ) / denominator < 2 ^ format.fractionBits * 2 ^ exponent) :
    format.nearestPattern numerator denominator =
      min ((exponent - format.leastExponent).toNat * 2 ^ format.fractionBits +
        2 ^ format.fractionBits) format.infinityPattern := by
  have powerPositive : (0 : ℚ) < 2 ^ exponent := by positivity
  have unit : (1 : ℚ) ≤ 2 ^ format.fractionBits := one_le_pow₀ (by norm_num)
  have half : (2 : ℚ) ^ (exponent - 1) = 2 ^ exponent / 2 := zpow_sub_one₀ two_ne_zero _
  have halfSplit : (2 : ℚ) ^ (exponent - 1 + format.fractionBits) =
      2 ^ format.fractionBits * 2 ^ exponent / 2 := by
    rw [zpow_add₀ two_ne_zero, half, zpow_natCast]
    ring
  have low : (2 : ℚ) ^ (exponent - 1 + format.fractionBits) ≤ (numerator : ℚ) / denominator := by
    rw [halfSplit, mul_div_right_comm]
    exact (mul_le_mul_of_nonneg_right (by linarith) powerPositive.le).trans close
  have high : (numerator : ℚ) / denominator < 2 ^ (exponent - 1 + format.fractionBits + 1) := by
    rw [zpow_add_one₀ two_ne_zero, halfSplit, div_mul_cancel₀ _ two_ne_zero]
    exact small
  have near : |(numerator : ℚ) / denominator / 2 ^ (exponent - 1) -
      (2 * 2 ^ format.fractionBits : Nat)| ≤ 1 / 2 := by
    have scaledLow := (le_div_iff₀ powerPositive).mpr close
    have scaledHigh := (div_lt_iff₀ powerPositive).mpr small
    have doubled : (numerator : ℚ) / denominator / (2 ^ exponent / 2) =
        2 * ((numerator : ℚ) / denominator / 2 ^ exponent) := by
      field_simp
    rw [half, doubled, abs_le]
    push_cast
    constructor
    · linarith
    · linarith
  have rounding := roundingExponent_eq numeratorPositive denominatorPositive
    (show format.leastExponent ≤ exponent - 1 by omega) (.inr low) high
  rw [nearestPattern_of_exponent numeratorPositive denominatorPositive rounding near
    (fun _ => by omega)]
  obtain ⟨steps, rfl⟩ : ∃ steps : Nat, exponent = format.leastExponent + 1 + steps :=
    ⟨(exponent - format.leastExponent - 1).toNat, by omega⟩
  have before : (format.leastExponent + 1 + (steps : Int) - 1 - format.leastExponent).toNat =
      steps := by omega
  have after : (format.leastExponent + 1 + (steps : Int) - format.leastExponent).toNat =
      steps + 1 := by omega
  rw [before, after]
  congr 1
  ring

/-- Everything between the midpoints around a magnitude rounds to it. -/
theorem nearestPattern_eq {format : BinaryFormat}
    {numerator denominator significand : Nat} {exponent : Int}
    (denominatorPositive : 0 < denominator)
    (magnitude : format.IsMagnitude significand exponent)
    (nearest : format.Nearest significand exponent ((numerator : ℚ) / denominator)) :
    format.nearestPattern numerator denominator =
      min ((exponent - format.leastExponent).toNat * 2 ^ format.fractionBits + significand)
        format.infinityPattern := by
  have powerPositive : (0 : ℚ) < 2 ^ exponent := by positivity
  have significandLow : (1 : ℚ) ≤ significand := by exact_mod_cast magnitude.positive
  have numeratorPositive : 0 < numerator := by
    have valuePositive : (0 : ℚ) < (numerator : ℚ) / denominator :=
      lt_of_lt_of_le (mul_pos (by linarith) powerPositive) nearest.low
    by_contra notPositive
    rw [Nat.eq_zero_of_not_pos notPositive, Nat.cast_zero, zero_div] at valuePositive
    exact lt_irrefl _ valuePositive
  by_cases aligned : exponent = format.leastExponent ∨
      (2 : ℚ) ^ (exponent + format.fractionBits) ≤ (numerator : ℚ) / denominator
  · exact nearestPattern_aligned numeratorPositive denominatorPositive magnitude nearest aligned
  · rw [not_or, not_le, zpow_add₀ two_ne_zero, zpow_natCast, mul_comm] at aligned
    obtain ⟨notLeast, small⟩ := aligned
    -- Only the significand of a power of two reaches below that power.
    have power : significand = 2 ^ format.fractionBits := by
      refine le_antisymm ?_ (magnitude.filled.resolve_left notLeast)
      have bound := (mul_lt_mul_iff_left₀ powerPositive).mp (nearest.low.trans_lt small)
      have boundSucc : (significand : ℚ) < 2 ^ format.fractionBits + 1 := by linarith
      exact Nat.lt_succ_iff.mp (by exact_mod_cast boundSucc)
    have close := nearest.doubling power notLeast
    rw [power] at close ⊢
    push_cast at close
    exact nearestPattern_below_power numeratorPositive denominatorPositive
      (lt_of_le_of_ne magnitude.exponentBound (Ne.symm notLeast)) close small

end BinaryFormat

end SheetEditor
