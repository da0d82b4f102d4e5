import SheetEditor.Formula.Token
import SheetEditor.Proofs.Text.UpperCase

/-!
Contract: identifiers of a formula in any letter case.

Owns: that letter case changes neither where an identifier ends nor what it is, a
cell of the sheet or a name.

Does not own: the letter case of sheet names, which their keys ignore
(`SheetEditor.Workbook.SheetName`).
-/

namespace SheetEditor

/-! ## Cells -/

/-- Column letters mean the same in any letter case. -/
theorem Column.number?_upper (letters : Text) : number? letters.upper = number? letters := by
  simp [number?, lettersValue, Text.upper, List.foldl_map, Function.comp_def]

namespace WrittenCell

/-- The cell with its letters in upper case. -/
def upper (cell : WrittenCell) : WrittenCell := { cell with letters := Text.upper cell.letters }

theorem splitMarker_upper (text : Text) :
    splitMarker text.upper = ((splitMarker text).1, Text.upper (splitMarker text).2) := by
  rw [splitMarker.eq_def text]
  split
  · rfl
  · next unmarked =>
      rw [splitMarker]
      exact Text.upper_ne_cons rfl unmarked

theorem read?_upper (text : Text) :
    read? text.upper = (read? text).map fun (cell, rest) => (cell.upper, Text.upper rest) := by
  unfold read?
  rw [splitMarker_upper]
  obtain ⟨columnAbsolute, fromLetters⟩ := splitMarker text
  dsimp only
  rw [Text.take_upper, Text.takeWhile_upper isAlpha_toUpper, Text.length_upper, Text.drop_upper,
    splitMarker_upper]
  obtain ⟨rowAbsolute, fromDigits⟩ :=
    splitMarker (fromLetters.drop ((fromLetters.take 3).takeWhile Char.isAlpha).length)
  dsimp only
  rw [Text.takeWhile_upper isDigit_toUpper, Text.upper_digits fun _ => List.mem_takeWhile_imp,
    Text.drop_upper]
  simp only [Text.upper_eq_nil]
  split <;> rfl

theorem address?_upper (cell : WrittenCell) : cell.upper.address? = cell.address? := by
  rw [address?, upper, Column.number?_upper]
  rfl

end WrittenCell

/-! ## Identifiers -/

namespace Formula.Token

theorem identifierLength_upper (beforePoint : Bool) (text : Text) :
    identifierLength beforePoint text.upper = identifierLength beforePoint text := by
  induction text generalizing beforePoint with
  | nil => rfl
  | cons character rest inductionHypothesis =>
      have underscore : character.toUpper = '_' ↔ character = '_' := toUpper_eq_iff rfl
      have marker : character.toUpper = '$' ↔ character = '$' := toUpper_eq_iff rfl
      have point : character.toUpper = '.' ↔ character = '.' := toUpper_eq_iff rfl
      have next : (Text.upper rest).head?.any Char.isAlpha = rest.head?.any Char.isAlpha := by
        cases rest <;> simp [Text.upper]
      simp only [Text.upper, List.map_cons, identifierLength, isAlphanum_toUpper, underscore, marker,
        point]
      rw [← Text.upper, inductionHypothesis, inductionHypothesis, next]

/-- An identifier is the same in any letter case, or nothing in any. -/
theorem ofIdentifier_upper (identifier : Text) :
    (ofIdentifier identifier.upper).toOption = (ofIdentifier identifier).toOption := by
  have unmarked (character : Char) : decide (character.toUpper = '$') = decide (character = '$') :=
    decide_eq_decide.mpr (toUpper_eq_iff rfl)
  unfold ofIdentifier
  rw [WrittenCell.read?_upper, Text.contains_upper rfl, Text.dropWhile_upper unmarked,
    Column.number?_upper, Text.upper_upper]
  simp only [Option.bind_eq_bind, Option.bind_map, Function.comp_def, WrittenCell.address?_upper,
    Text.upper_eq_nil]
  dsimp only [WrittenCell.upper]
  split
  · rfl
  · split <;> rfl

/-- An identifier that is something in upper case is the same in any other letter case. -/
theorem ofIdentifier_upper_eq_ok_iff {identifier : Text} {token : Token} :
    ofIdentifier identifier.upper = .ok token ↔ ofIdentifier identifier = .ok token := by
  have isOk (found : Except ParseError Token) :
      found = .ok token ↔ found.toOption = some token := by
    cases found <;> simp [Except.toOption]
  rw [isOk, isOk, ofIdentifier_upper]

end Formula.Token

end SheetEditor
