import Mathlib.Data.List.TakeDrop
import Mathlib.Data.List.TakeWhile
import SheetEditor.Proofs.Text.Letter
import SheetEditor.Text.Basic

/-!
Contract: runs of digits, and how numbers are written with them.

Owns: the value of a run of digits, where a scan for digits ends, and that a number
is written with digits that have its value and no zeros in front.
-/

namespace SheetEditor.Text

/-! ## Runs of digits -/

theorem digitsValue_eq_ofDigitChars (digits : Text) :
    digitsValue digits = Nat.ofDigitChars 10 digits 0 := rfl

theorem digitsValue_toDigits (number : Nat) : digitsValue (Nat.toDigits 10 number) = number :=
  Nat.ofDigitChars_ten_toDigits

/-- A text of decimal digits alone. -/
def IsDigits (text : Text) : Prop := ∀ character ∈ text, character.isDigit = true

theorem isDigits_toDigits (number : Nat) : IsDigits (Nat.toDigits 10 number) :=
  fun _ member => Nat.isDigit_of_mem_toDigits (by decide) (by decide) member

theorem IsDigits.append {first second : Text} (left : IsDigits first) (right : IsDigits second) :
    IsDigits (first ++ second) := fun character member =>
  (List.mem_append.mp member).elim (left character) (right character)

theorem IsDigits.span_nil {digits : Text} (all : IsDigits digits) :
    digits.span Char.isDigit = (digits, []) := by
  rw [List.span_eq_takeWhile_dropWhile, List.takeWhile_eq_self_iff.mpr all,
    List.dropWhile_eq_nil_iff.mpr all]

theorem IsDigits.span_point {digits : Text} (all : IsDigits digits) (rest : Text) :
    (digits ++ '.' :: rest).span Char.isDigit = (digits, '.' :: rest) := by
  rw [List.span_eq_takeWhile_dropWhile, List.takeWhile_append_of_pos all,
    List.dropWhile_append_of_pos all]
  simp

/-! ## Digits without leading zeros -/

theorem value_lt_of_isDigit {digit : Char} (isDigit : digit.isDigit = true) :
    digit.toNat - '0'.toNat < 10 := by
  obtain ⟨-, high⟩ := isDigit_iff.mp isDigit
  have zero : '0'.toNat = 48 := rfl
  omega

theorem digitChar_of_isDigit {digit : Char} (isDigit : digit.isDigit = true) :
    Nat.digitChar (digit.toNat - '0'.toNat) = digit := by
  obtain ⟨low, -⟩ := isDigit_iff.mp isDigit
  have small := value_lt_of_isDigit isDigit
  have zero : '0'.toNat = 48 := rfl
  have code : (Nat.digitChar (digit.toNat - '0'.toNat)).toNat = digit.toNat := by
    rw [Nat.toNat_digitChar_of_lt_ten small]
    omega
  exact Char.ext (UInt32.toNat_inj.mp code)

/-- Digits after a number that is not zero are the last digits of the longer number. -/
theorem toDigits_append {number : Nat} (positive : 0 < number) {digits : Text}
    (decimal : digits.IsDigits) :
    Nat.toDigits 10 number ++ digits = Nat.toDigits 10 (Nat.ofDigitChars 10 digits number) := by
  induction digits generalizing number with
  | nil => exact List.append_nil _
  | cons digit digits inductionHypothesis =>
      obtain ⟨isDigit, others⟩ := List.forall_mem_cons.mp decimal
      have small := value_lt_of_isDigit isDigit
      have next : Nat.toDigits 10 number ++ [digit] =
          Nat.toDigits 10 (10 * number + (digit.toNat - '0'.toNat)) := by
        rw [← Nat.toDigits_append_toDigits (by decide) positive small,
          Nat.toDigits_of_lt_base small, digitChar_of_isDigit isDigit]
      rw [Nat.ofDigitChars_cons, ← inductionHypothesis (by omega) others, ← next,
        List.append_assoc, List.singleton_append]

/-- A number is written without the zeros in front of its digits. -/
theorem toDigits_digitsValue {digits : Text} (decimal : digits.IsDigits)
    (positive : 0 < digitsValue digits) :
    Nat.toDigits 10 (digitsValue digits) = digits.dropWhile (· = '0') := by
  induction digits with
  | nil => exact absurd positive (Nat.lt_irrefl 0)
  | cons digit digits inductionHypothesis =>
      obtain ⟨isDigit, others⟩ := List.forall_mem_cons.mp decimal
      by_cases zero : digit = '0'
      · subst zero
        have same : digitsValue ('0' :: digits) = digitsValue digits := rfl
        rw [same] at positive ⊢
        rw [inductionHypothesis others positive, List.dropWhile_cons_of_pos (by decide)]
      · have small := value_lt_of_isDigit isDigit
        have nonzero : 0 < digit.toNat - '0'.toNat := by
          obtain ⟨low, -⟩ := isDigit_iff.mp isDigit
          have code : '0'.toNat = 48 := rfl
          have other : digit.toNat ≠ '0'.toNat := fun same =>
            zero (Char.ext (UInt32.toNat_inj.mp same))
          omega
        have value : digitsValue (digit :: digits) =
            Nat.ofDigitChars 10 digits (digit.toNat - '0'.toNat) := by
          rw [digitsValue_eq_ofDigitChars, Nat.ofDigitChars_cons, Nat.mul_zero, Nat.zero_add]
        rw [value, ← toDigits_append nonzero others, Nat.toDigits_of_lt_base small,
          digitChar_of_isDigit isDigit, List.dropWhile_cons_of_neg (by simpa using zero),
          List.singleton_append]

/-- Only the number zero is written with a zero in front. -/
theorem toDigits_eq_cons {number : Nat} (positive : 0 < number) :
    ∃ first others, Nat.toDigits 10 number = first :: others ∧ first ≠ '0' := by
  have value := digitsValue_toDigits number
  -- The digits are those of their own value, which are written without zeros in front.
  have noZeros := toDigits_digitsValue (isDigits_toDigits number) (value.symm ▸ positive)
  rw [value] at noZeros
  cases written : Nat.toDigits 10 number with
  | nil =>
      rw [written] at value
      exact absurd value.symm (Nat.ne_of_gt positive)
  | cons first others =>
      refine ⟨first, others, rfl, ?_⟩
      rintro rfl
      rw [written, List.dropWhile_cons_of_pos (by decide)] at noZeros
      have shorter := (List.dropWhile_suffix (fun digit : Char => decide (digit = '0'))
        (l := others)).length_le
      rw [← noZeros, List.length_cons] at shorter
      omega

end SheetEditor.Text
