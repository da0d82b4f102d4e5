import Mathlib.Tactic.ByContra
import SheetEditor.Text.Blank

/-!
Contract: letters and digits by their codes.

Owns: the codes of ASCII letters and digits, that no character is of two of the
classes of letters, digits and blanks, and what upper case does to a character.
-/

namespace SheetEditor

variable {character : Char}

/-! ## Codes -/

theorem between_iff (low high : Char) : low.val ≤ character.val ∧ character.val ≤ high.val ↔
    low.toNat ≤ character.toNat ∧ character.toNat ≤ high.toNat := by
  rw [UInt32.le_iff_toNat_le, UInt32.le_iff_toNat_le]
  rfl

theorem isUpper_iff :
    character.isUpper = true ↔ 65 ≤ character.toNat ∧ character.toNat ≤ 90 :=
  decide_eq_true_iff.trans (between_iff 'A' 'Z')

theorem isLower_iff :
    character.isLower = true ↔ 97 ≤ character.toNat ∧ character.toNat ≤ 122 :=
  (Bool.and_eq_true_iff.trans (and_congr decide_eq_true_iff decide_eq_true_iff)).trans
    (between_iff 'a' 'z')

theorem isDigit_iff :
    character.isDigit = true ↔ 48 ≤ character.toNat ∧ character.toNat ≤ 57 :=
  (Bool.and_eq_true_iff.trans (and_congr decide_eq_true_iff decide_eq_true_iff)).trans
    (between_iff '0' '9')

theorem isAlpha_iff : character.isAlpha = true ↔
    65 ≤ character.toNat ∧ character.toNat ≤ 90 ∨ 97 ≤ character.toNat ∧ character.toNat ≤ 122 := by
  rw [← isUpper_iff, ← isLower_iff, ← Bool.or_eq_true]
  rfl

/-! ## Classes apart -/

theorem not_isAlpha_of_isDigit (isDigit : character.isDigit = true) :
    character.isAlpha = false := by
  by_contra isAlpha
  rw [Bool.not_eq_false, isAlpha_iff] at isAlpha
  rw [isDigit_iff] at isDigit
  omega

theorem not_isDigit_of_isAlpha (isAlpha : character.isAlpha = true) :
    character.isDigit = false := by
  by_contra isDigit
  rw [not_isAlpha_of_isDigit (by simpa using isDigit)] at isAlpha
  cases isAlpha

/-- No letter and no digit is blank. -/
theorem isBlank_of_isAlphanum (isAlphanum : character.isAlphanum = true) :
    isBlank character = false := by
  have codes : character.isAlpha = true ∨ character.isDigit = true := by
    rwa [← Bool.or_eq_true]
  rw [isAlpha_iff, isDigit_iff] at codes
  simp only [isBlank, Bool.or_eq_false_iff, Bool.and_eq_false_iff, decide_eq_false_iff_not]
  omega

/-! ## Letter case -/

/-- Only letters change in upper case, and they become capital letters. -/
theorem isAlpha_of_toUpper_ne (changed : character.toUpper ≠ character) :
    character.isAlpha = true ∧ character.toUpper.isUpper = true := by
  rw [isAlpha_iff, isUpper_iff]
  unfold Char.toUpper at changed ⊢
  split
  · next isLower =>
      have bounds : 'A'.val.toNat = 65 ∧ 'a'.val.toNat = 97 ∧ 'z'.val.toNat = 122 := ⟨rfl, rfl, rfl⟩
      simp only [Char.toNat, UInt32.le_iff_toNat_le, UInt32.toNat_add, UInt32.toNat_sub]
        at isLower ⊢
      omega
  · next notLower => exact absurd (dif_neg notLower) changed

/-- A class with all letters or none of them does not depend on letter case. -/
theorem class_toUpper {inside : Char → Bool}
    (letters : ∀ first second : Char, first.isAlpha = true → second.isAlpha = true →
      inside first = inside second) (character : Char) :
    inside character.toUpper = inside character := by
  by_cases same : character.toUpper = character
  · rw [same]
  · obtain ⟨isAlpha, isUpper⟩ := isAlpha_of_toUpper_ne same
    have upperAlpha : character.toUpper.isAlpha = true := Bool.or_eq_true_iff.mpr (.inl isUpper)
    exact letters _ _ upperAlpha isAlpha

@[simp] theorem isAlpha_toUpper (character : Char) :
    character.toUpper.isAlpha = character.isAlpha :=
  class_toUpper (fun _ _ first second => first.trans second.symm) character

@[simp] theorem isDigit_toUpper (character : Char) :
    character.toUpper.isDigit = character.isDigit := by
  have none (character : Char) (isAlpha : character.isAlpha = true) : character.isDigit = false := by
    by_contra isDigit
    rw [not_isAlpha_of_isDigit (by simpa using isDigit)] at isAlpha
    cases isAlpha
  exact class_toUpper (fun first second firstAlpha secondAlpha =>
    (none first firstAlpha).trans (none second secondAlpha).symm) character

@[simp] theorem isAlphanum_toUpper (character : Char) :
    character.toUpper.isAlphanum = character.isAlphanum := by
  simp [Char.isAlphanum]

/-- A character that is no letter is one character in any letter case. -/
theorem toUpper_eq_iff {mark : Char} (notLetter : mark.isAlpha = false) :
    character.toUpper = mark ↔ character = mark := by
  have none (character : Char) (isAlpha : character.isAlpha = true) :
      decide (character = mark) = false := by
    rw [decide_eq_false_iff_not]
    rintro rfl
    rw [notLetter] at isAlpha
    cases isAlpha
  have same : decide (character.toUpper = mark) = decide (character = mark) :=
    class_toUpper (fun first second firstAlpha secondAlpha =>
      (none first firstAlpha).trans (none second secondAlpha).symm) character
  simpa using same

theorem toUpper_of_isDigit (isDigit : character.isDigit = true) : character.toUpper = character := by
  by_contra changed
  have isAlpha := (isAlpha_of_toUpper_ne changed).1
  rw [not_isAlpha_of_isDigit isDigit] at isAlpha
  cases isAlpha

@[simp] theorem toUpper_toUpper (character : Char) : character.toUpper.toUpper = character.toUpper := by
  by_cases same : character.toUpper = character
  · exact congrArg Char.toUpper same
  · have isUpper := isUpper_iff.mp (isAlpha_of_toUpper_ne same).2
    refine dif_neg fun isLower => ?_
    have codes := (between_iff 'a' 'z').mp isLower
    have low : 'a'.toNat = 97 := rfl
    omega

theorem toLower_of_isDigit (isDigit : character.isDigit = true) :
    character.toLower = character := by
  rw [isDigit_iff] at isDigit
  refine dif_neg fun isUpper => ?_
  have codes := (between_iff 'A' 'Z').mp isUpper
  have low : 'A'.toNat = 65 := rfl
  omega

end SheetEditor
