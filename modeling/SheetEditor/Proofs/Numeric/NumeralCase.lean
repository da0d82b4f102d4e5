import SheetEditor.Proofs.Numeric.Numeral
import SheetEditor.Proofs.Text.UpperCase

/-!
Contract: numerals in any letter case.

Owns: that the letter case of an exponent mark, or of a word in place of digits, changes neither where
a numeral ends nor the number that it denotes.

Does not own: identifiers in any letter case (`SheetEditor.Proofs.Formula.LetterCase`).
-/

namespace SheetEditor

namespace Decimal

/-! ## Exponents -/

/-- Capital and small letters mark an exponent alike. -/
theorem marks_toUpper (mark : Char) :
    mark.toUpper = 'e' ∨ mark.toUpper = 'E' ↔ mark = 'e' ∨ mark = 'E' := by
  unfold Char.toUpper
  split
  · next isLower =>
      have codes : 'A'.val.toNat = 65 ∧ 'E'.val.toNat = 69 ∧ 'a'.val.toNat = 97 ∧
          'e'.val.toNat = 101 ∧ 'z'.val.toNat = 122 := ⟨rfl, rfl, rfl, rfl, rfl⟩
      simp only [Char.ext_iff, UInt32.le_iff_toNat_le, ← UInt32.toNat_inj, UInt32.toNat_add,
        UInt32.toNat_sub] at isLower ⊢
      omega
  · rfl

theorem splitSign_upper (text : Text) :
    splitSign text.upper = ((splitSign text).1, Text.upper (splitSign text).2) := by
  rw [splitSign.eq_def text]
  split
  · rfl
  · rfl
  · next notMinus notPlus =>
      rw [splitSign]
      · exact Text.upper_ne_cons rfl notMinus
      · exact Text.upper_ne_cons rfl notPlus

theorem readExponent?_upper (text : Text) : readExponent? text.upper = readExponent? text := by
  cases text with
  | nil => rfl
  | cons mark rest =>
      simp only [Text.upper_cons, readExponent?, Bool.or_eq_true, decide_eq_true_eq, marks_toUpper,
        splitSign_upper]
      generalize (splitSign rest).1 = negative
      generalize (splitSign rest).2 = digits
      by_cases isNumeral : ∀ digit ∈ digits, digit.isDigit = true
      · rw [Text.upper_digits isNumeral]
      · have noNumeral : digits.all Char.isDigit = false := by
          rwa [← Bool.not_eq_true, List.all_eq_true]
        simp only [Text.all_upper isDigit_toUpper, noNumeral, Bool.and_false,
          Bool.false_eq_true, if_false]

theorem signLength_upper (text : Text) : signLength text.upper = signLength text := by
  have isSign (next : Char) : (decide (next.toUpper = '+') || decide (next.toUpper = '-')) =
      (decide (next = '+') || decide (next = '-')) := by
    have plus : next.toUpper = '+' ↔ next = '+' := toUpper_eq_iff rfl
    have minus : next.toUpper = '-' ↔ next = '-' := toUpper_eq_iff rfl
    simp only [plus, minus]
  unfold signLength
  rw [Text.head?_upper_any isSign]

theorem exponentLength_upper (text : Text) : exponentLength text.upper = exponentLength text := by
  cases text with
  | nil => rfl
  | cons mark rest =>
      rw [Text.upper_cons]
      by_cases marked : mark = 'e' ∨ mark = 'E'
      · rw [exponentLength_cons ((marks_toUpper mark).mpr marked), exponentLength_cons marked,
          signLength_upper, Text.drop_upper, Text.takeWhile_upper isDigit_toUpper,
          Text.upper_digits fun _ => List.mem_takeWhile_imp]
      · simp only [exponentLength, Bool.or_eq_true, decide_eq_true_eq, marks_toUpper, if_neg marked]

/-! ## Numerals -/

theorem splitFraction_upper (text : Text) :
    splitFraction text.upper = ((splitFraction text).1, Text.upper (splitFraction text).2) := by
  rw [splitFraction.eq_def text]
  split
  · next rest =>
      change (Text.upper rest).span Char.isDigit = _
      rw [List.span_eq_takeWhile_dropWhile, List.span_eq_takeWhile_dropWhile,
        Text.takeWhile_upper isDigit_toUpper, Text.dropWhile_upper isDigit_toUpper,
        Text.upper_digits fun _ => List.mem_takeWhile_imp]
  · next notPoint =>
      rw [splitFraction]
      exact Text.upper_ne_cons rfl notPoint

theorem read?_upper (text : Text) : read? text.upper = read? text := by
  simp only [read?, List.span_eq_takeWhile_dropWhile, Text.takeWhile_upper isDigit_toUpper,
    Text.dropWhile_upper isDigit_toUpper, Text.upper_digits fun _ => List.mem_takeWhile_imp,
    splitFraction_upper, readExponent?_upper]

end Decimal

namespace Binary64

theorem wordPattern?_upper (word : Text) : wordPattern? word.upper = wordPattern? word := by
  simp only [wordPattern?, Text.upper_upper]

theorem read?_upper (text : Text) : read? text.upper = read? text := by
  simp only [read?, Decimal.splitSign_upper, wordPattern?_upper, Decimal.read?_upper]

end Binary64

end SheetEditor
