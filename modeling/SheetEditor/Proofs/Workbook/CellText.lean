import SheetEditor.Draft.Closing
import SheetEditor.Proofs.Draft.Closing
import SheetEditor.Proofs.Numeric.ReadBack
import SheetEditor.Proofs.Text.Trim
import SheetEditor.Workbook.CellValue

/-!
Contract: a cell's text in the editor stands for the cell's value again.

Owns: the values that entering text without an apostrophe leaves in a cell, the
value that a commit makes of the text of each of them, and the effect of closing
parentheses on it.

Does not own: the session around it (`SheetEditor.Proofs.Session.Recommit`).
-/

namespace SheetEditor

namespace CellValue

/-! ## Values that entering leaves -/

/-- The values that entering a text without an apostrophe leaves in a cell: finite numbers, truth
values, formulas with a body that is not blank, and the texts that stand for nothing else. -/
def IsPlain : CellValue → Prop
  | .empty => False
  | .text content => ∃ input : Text, input.head? ≠ some '\'' ∧ ofInput input = .text content
  | .number value => value.isFinite = true
  | .boolean _ => True
  | .formula body => body.trim ≠ []

/-- A value read from plain input is empty, a finite number, a truth value or the input. -/
private theorem ofPlainInput_cases (input : Text) :
    ofPlainInput input = .empty ∨
      (∃ value, value.isFinite = true ∧ ofPlainInput input = .number value) ∨
      (∃ value, ofPlainInput input = .boolean value) ∨ ofPlainInput input = .text input := by
  unfold ofPlainInput
  dsimp only
  split
  · exact .inl rfl
  · split
    · next value numeral =>
        exact .inr (.inl ⟨value, (Option.filter_eq_some_iff.mp numeral).2, rfl⟩)
    · split
      · exact .inr (.inr (.inl ⟨true, rfl⟩))
      · split
        · exact .inr (.inr (.inl ⟨false, rfl⟩))
        · exact .inr (.inr (.inr rfl))

/-- A text that is neither a formula nor marked as plain text is read as plain input. -/
theorem ofInput_eq_ofPlainInput {input : Text}
    (noFormula : input.head? ≠ some '=') (notMarked : input.head? ≠ some '\'') :
    ofInput input = ofPlainInput input := by
  unfold ofInput
  split
  · simp at noFormula
  · simp at notMarked
  · rfl

/-- Entering a text without an apostrophe clears the cell or leaves a plain value. -/
theorem isPlain_ofInput {input : Text} (notMarked : input.head? ≠ some '\'') :
    ofInput input = .empty ∨ (ofInput input).IsPlain := by
  by_cases isFormula : input.head? = some '='
  · obtain ⟨body, rfl⟩ := List.head?_eq_some_iff.mp isFormula
    right
    by_cases blank : Text.trim body = []
    · have standsForItself : ofInput ('=' :: body) = .text ('=' :: body) := if_pos blank
      rw [standsForItself]
      exact ⟨'=' :: body, notMarked, standsForItself⟩
    · have isBody : ofInput ('=' :: body) = .formula body := if_neg blank
      rw [isBody]
      exact blank
  · have plain := ofInput_eq_ofPlainInput isFormula notMarked
    obtain empty | ⟨value, finite, number⟩ | ⟨value, boolean⟩ | text := ofPlainInput_cases input
    · exact .inl (plain.trans empty)
    · rw [plain, number]
      exact .inr finite
    · rw [plain, boolean]
      exact .inr trivial
    · right
      rw [plain, text]
      exact ⟨input, notMarked, plain.trans text⟩

/-- A text that entering left without an apostrophe stands for itself. -/
theorem ofInput_of_isPlain_text {content : Text} (plain : (CellValue.text content).IsPlain) :
    content.head? ≠ some '\'' ∧ ofInput content = .text content := by
  obtain ⟨input, notMarked, entered⟩ := plain
  have isInput : input = content := by
    by_cases isFormula : input.head? = some '='
    · obtain ⟨body, rfl⟩ := List.head?_eq_some_iff.mp isFormula
      rw [ofInput] at entered
      split at entered
      · exact CellValue.text.inj entered
      · cases entered
    · rw [ofInput_eq_ofPlainInput isFormula notMarked] at entered
      obtain empty | ⟨value, finite, number⟩ | ⟨value, boolean⟩ | text := ofPlainInput_cases input
      · cases empty.symm.trans entered
      · cases number.symm.trans entered
      · cases boolean.symm.trans entered
      · exact CellValue.text.inj (text.symm.trans entered)
  subst isInput
  exact ⟨notMarked, entered⟩

/-! ## Numbers -/

/-- The text of a finite number other than zero is an optional minus sign and a numeral, and it
reads back as the number. -/
private theorem numberText_nonzero {value : Binary64}
    (finite : value.isFinite = true) (nonzero : value.magnitudePattern ≠ 0) :
    ∃ numeral : Text, numeral.IsNumeral ∧
      numberText value = (if value.isNegative then '-' :: numeral else numeral) ∧
      Binary64.read? (numberText value) = some value := by
  have shortest (textEq : numberText value = value.shortestText) :
      ∃ numeral : Text, numeral.IsNumeral ∧
        numberText value = (if value.isNegative then '-' :: numeral else numeral) ∧
        Binary64.read? (numberText value) = some value := by
    rw [textEq]
    exact ⟨_, Binary64.isNumeral_positional _ _, Binary64.shortestText_eq finite nonzero,
      Binary64.read?_shortestText finite nonzero⟩
  cases whole : value.wholeMagnitude? with
  | none => exact shortest (by simp only [numberText, whole])
  | some size =>
      by_cases small : size < wholeTextLimit
      · have sizeNonzero := Binary64.wholeMagnitude_ne_zero whole nonzero
        have textEq : numberText value = if value.isNegative then
            '-' :: Nat.toDigits 10 size else Nat.toDigits 10 size := by
          simp [numberText, whole, small, sizeNonzero]
        rw [textEq]
        exact ⟨_, (Text.isDigits_toDigits size).isNumeral Nat.toDigits_ne_nil, rfl,
          Binary64.read?_wholeText whole nonzero⟩
      · exact shortest (by simp only [numberText, whole, if_neg small])

/-- The text of a finite number is an optional minus sign and a numeral, and it reads back as an
equal number. The negative zero is written without its sign and reads back as zero. -/
theorem numberText_readsBack {value : Binary64} (finite : value.isFinite = true) :
    ∃ (negative : Bool) (numeral : Text) (number : Binary64), numeral.IsNumeral ∧
      numberText value = (if negative then '-' :: numeral else numeral) ∧
      Binary64.read? (numberText value) = some number ∧
      number.isFinite = true ∧ value.numericallyEqual number = true := by
  by_cases zero : value.magnitudePattern = 0
  · have digit : Text.IsNumeral ['0'] := (Text.isDigits_zeros 1).isNumeral (by simp)
    have whole : value.wholeMagnitude? = some 0 := by
      simp [Binary64.wholeMagnitude?, finite, Binary64.magnitude, zero, BinaryFormat.magnitudeOf]
    have textEq : numberText value = ['0'] := by
      simp [numberText, whole, wholeTextLimit]
    have read : Binary64.read? ['0'] = some (Binary64.ofPattern false 0) := by rfl
    refine ⟨false, ['0'], Binary64.ofPattern false 0, digit, textEq, textEq ▸ read, rfl, ?_⟩
    have same : (Binary64.ofPattern false 0).magnitudePattern = 0 := rfl
    simp [Binary64.numericallyEqual, zero, same, Binary64.isNaN]
  · obtain ⟨numeral, isNumeral, textEq, read⟩ := numberText_nonzero finite zero
    exact ⟨value.isNegative, numeral, value, isNumeral, textEq, read, finite,
      Binary64.numericallyEqual_self finite⟩

/-- The text of a finite number stands for an equal number. -/
theorem ofInput_numberText {value : Binary64} (finite : value.isFinite = true) :
    ∃ number, ofInput (numberText value) = .number number ∧
      value.numericallyEqual number = true := by
  obtain ⟨negative, numeral, number, isNumeral, textEq, read, readFinite, equal⟩ :=
    numberText_readsBack finite
  refine ⟨number, ?_, equal⟩
  have trimmed : (numberText value).trim = numberText value := by
    rw [textEq]
    exact Text.trim_eq_self (isNumeral.isBlank_eq_false negative)
  have nonempty : numberText value ≠ [] := by
    intro empty
    rw [empty] at read
    cases read
  rw [ofInput_eq_ofPlainInput (textEq ▸ isNumeral.head?_ne negative rfl (by decide))
    (textEq ▸ isNumeral.head?_ne negative rfl (by decide)), ofPlainInput, trimmed, read,
    Option.filter_some, if_pos readFinite]
  exact if_neg nonempty

/-! ## Truth values and formulas -/

theorem ofInput_booleanText (value : Bool) : ofInput (booleanText value) = .boolean value := by
  cases value with
  | true => rfl
  | false => rfl

/-! ## Opening and committing -/

/-- The value with its open parentheses closed, if it is a formula and the setting says so. -/
def closed (closing : Bool) : CellValue → CellValue
  | .formula body =>
      if closing then
        .formula (body ++ List.replicate (Draft.openDepth (Draft.Token.scanAll body)) ')')
      else .formula body
  | value => value

/-- A formula without open parentheses is closed already. -/
theorem closed_formula_eq_self {body : Text}
    (balanced : Draft.openDepth (Draft.Token.scanAll body) = 0) (closing : Bool) :
    (CellValue.formula body).closed closing = .formula body := by
  simp [closed, balanced]

/-- Closing parentheses changes no text that stands for itself: if it begins with an equals sign, only
blanks follow. -/
private theorem closeParentheses_eq_self_of_text {content : Text}
    (standsForItself : ofInput content = .text content) :
    Draft.closeParentheses content = content := by
  by_cases isFormula : content.head? = some '='
  · obtain ⟨body, rfl⟩ := List.head?_eq_some_iff.mp isFormula
    rw [ofInput] at standsForItself
    split at standsForItself
    · next blank =>
        refine Draft.closeParentheses_eq_self fun opening => ?_
        cases List.mem_cons.mp opening with
        | inl atFirst => cases atFirst
        | inr inBody => cases Text.trim_eq_nil_iff.mp blank '(' inBody
    · cases standsForItself
  · exact Draft.closeParentheses_eq_self_of_head? isFormula

/-- The text of a plain value, committed as it stands, leaves the value, up to closing its
parentheses. -/
theorem ofInput_editText_agrees {value : CellValue} (plain : value.IsPlain) (closing : Bool) :
    (value.closed closing).agreesWith (ofInput
      (if closing then Draft.closeParentheses value.editText else value.editText)) = true := by
  cases value with
  | empty => exact plain.elim
  | text content =>
      obtain ⟨notMarked, standsForItself⟩ := ofInput_of_isPlain_text plain
      have committed := closeParentheses_eq_self_of_text standsForItself
      simp [closed, editText, committed, standsForItself, agreesWith]
  | number value =>
      obtain ⟨number, read, equal⟩ := ofInput_numberText plain
      obtain ⟨negative, numeral, _, isNumeral, textEq, _⟩ := numberText_readsBack plain
      have committed : Draft.closeParentheses (numberText value) = numberText value :=
        Draft.closeParentheses_eq_self_of_head?
          (textEq ▸ isNumeral.head?_ne negative rfl (by decide))
      simp [closed, editText, committed, read, agreesWith, equal]
  | boolean value =>
      have committed : Draft.closeParentheses (booleanText value) = booleanText value := by
        cases value with
        | true => rfl
        | false => rfl
      simp [closed, editText, committed, ofInput_booleanText, agreesWith]
  | formula body =>
      cases closing with
      | false => simp [closed, editText, ofInput, agreesWith, show body.trim ≠ [] from plain]
      | true =>
          have notBlank (closers : Text) : (body ++ closers).trim ≠ [] := by
            intro blank
            refine plain (Text.trim_eq_nil_iff.mpr fun character member => ?_)
            exact Text.trim_eq_nil_iff.mp blank character (List.mem_append_left closers member)
          simp [closed, editText, Draft.closeParentheses, ofInput, agreesWith, notBlank]

/-- What agrees with a plain value is stored. -/
theorem isEmpty_eq_false_of_agrees {value kept : CellValue} {closing : Bool}
    (plain : value.IsPlain) (agrees : (value.closed closing).agreesWith kept = true) :
    kept.isEmpty = false := by
  cases kept with
  | empty =>
      cases value with
      | empty => exact plain.elim
      | formula body =>
          cases closing with
          | true => cases agrees
          | false => cases agrees
      | text content => cases agrees
      | number value => cases agrees
      | boolean value => cases agrees
  | text | number | boolean | formula => rfl

end CellValue

end SheetEditor
