import Mathlib.Data.Nat.Log
import SheetEditor.Proofs.Numeric.ReadBack

/-!
Contract: whole numbers are numbers exactly.

Owns: the number that a whole number below two to the power of 53 is, and that its digits read as it.
-/

namespace SheetEditor.Binary64

-- `^` is the power of the core library here, whatever else is imported.
attribute [local instance (2000)] instPowNat

variable {size : Nat}

/-- The exponent of the leading bit of a whole number, and its bits moved up to the full length of a
significand. -/
theorem exists_significand (positive : 0 < size) (small : size < 2 ^ 53) :
    ∃ exponent ≤ 52, 2 ^ 52 ≤ size * 2 ^ (52 - exponent) ∧ size * 2 ^ (52 - exponent) < 2 ^ 53 := by
  have low := Nat.pow_log_le_self 2 positive.ne'
  have high := Nat.lt_pow_succ_log_self (Nat.one_lt_two) size
  have bound : Nat.log 2 size < 53 := Nat.log_lt_of_lt_pow positive.ne' small
  refine ⟨Nat.log 2 size, Nat.le_of_lt_succ bound, ?_, ?_⟩
  · calc 2 ^ 52 = 2 ^ Nat.log 2 size * 2 ^ (52 - Nat.log 2 size) := by
          rw [← Nat.pow_add, Nat.add_sub_cancel' (Nat.le_of_lt_succ bound)]
      _ ≤ size * 2 ^ (52 - Nat.log 2 size) := Nat.mul_le_mul_right _ low
  · calc size * 2 ^ (52 - Nat.log 2 size)
        < 2 ^ (Nat.log 2 size + 1) * 2 ^ (52 - Nat.log 2 size) :=
          Nat.mul_lt_mul_of_pos_right high (Nat.two_pow_pos _)
      _ = 2 ^ 53 := by
          rw [← Nat.pow_add]
          congr 1
          omega

/-- Every whole number from one on that has at most 53 bits is a number. -/
theorem exists_wholeMagnitude (positive : 0 < size) (small : size < 2 ^ 53) :
    ∃ number : Binary64, number.wholeMagnitude? = some size ∧ number.magnitudePattern ≠ 0 ∧
      number.isNegative = false := by
  obtain ⟨exponent, atMost, low, high⟩ := exists_significand positive small
  generalize significandEq : size * 2 ^ (52 - exponent) = significand at low high
  obtain ⟨pattern, patternEq⟩ : ∃ pattern, pattern = (exponent + 1023) * 2 ^ 52 +
      (significand - 2 ^ 52) := ⟨_, rfl⟩
  have inRange : pattern < 2047 * 2 ^ 52 := by omega
  have bits : (ofPattern false pattern).bits.toNat = pattern := by
    show (UInt64.ofNat pattern).toNat = pattern
    rw [UInt64.toNat_ofNat']
    omega
  have same : (ofPattern false pattern).magnitudePattern = pattern := by
    rw [magnitudePattern, bits]
    show pattern % 2 ^ 63 = pattern
    omega
  have magnitudeEq : (ofPattern false pattern).magnitude = (significand, (exponent : Int) - 52) := by
    rw [magnitude, same]
    have field : pattern / 2 ^ 52 = exponent + 1023 := by omega
    have fraction : pattern % 2 ^ 52 = significand - 2 ^ 52 := by omega
    show (if pattern / 2 ^ 52 = 0 then _ else (2 ^ 52 + pattern % 2 ^ 52,
      (-1074 : Int) + (pattern / 2 ^ 52 - 1 : Nat))) = _
    rw [field, fraction, if_neg (Nat.succ_ne_zero _)]
    exact Prod.ext (by omega) (by simp only []; omega)
  refine ⟨ofPattern false pattern, ?_, ?_, ?_⟩
  · have finite : (ofPattern false pattern).isFinite = true := by
      rw [isFinite, same, decide_eq_true_iff]
      exact inRange
    have upward : (-((exponent : Int) - 52)).toNat = 52 - exponent := by omega
    have downward : ((exponent : Int) - 52).toNat = 0 := by omega
    simp only [wholeMagnitude?, finite, magnitudeEq, upward, downward, ← significandEq, if_true]
    rw [Nat.mul_mod_left, if_pos rfl, Nat.pow_zero, Nat.mul_one,
      Nat.mul_div_cancel _ (Nat.two_pow_pos _)]
  · rw [same]
    omega
  · rw [isNegative, bits, decide_eq_false_iff_not]
    show ¬2 ^ 63 ≤ pattern
    omega

/-- The digits of a whole number read as that number. -/
theorem exists_read?_toDigits (positive : 0 < size) (small : size < 2 ^ 53) :
    ∃ number, read? (Nat.toDigits 10 size) = some number ∧ number.wholeNumber? = some (size : Int) := by
  obtain ⟨number, whole, nonzero, notNegative⟩ := exists_wholeMagnitude positive small
  have read := read?_wholeText whole nonzero
  rw [notNegative] at read
  exact ⟨number, read, by rw [wholeNumber?, whole, notNegative]; rfl⟩

end SheetEditor.Binary64
