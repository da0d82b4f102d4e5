import SheetEditor.Formula.ErrorLiteral
import SheetEditor.Proofs.Text.Outline
import SheetEditor.Proofs.Text.UpperCase

/-!
Contract: error values spelled out at the start of a text.

Owns: that an error value is recognised by its spelling, in capital or small
letters, and what the spellings have in common.
-/

namespace SheetEditor

variable {text following : Text} {first : Char}

namespace ErrorLiteral

/-! ## Spellings -/

theorem startOf?_eq_none (notHash : first ≠ '#') :
    startOf? (first :: following) = none := by
  have hashed : ∀ literal ∈ all, ∃ others, literal.spelling = '#' :: others := by
    intro literal _
    cases literal <;> exact ⟨_, rfl⟩
  unfold startOf?
  rw [List.find?_eq_none]
  intro literal member spelled
  obtain ⟨others, spelling⟩ := hashed literal member
  rw [decide_eq_true_eq, spelling, List.length_cons, List.take_succ_cons, Text.upper,
    List.map_cons, List.cons.injEq] at spelled
  apply notHash
  by_contra different
  have isCapital := (isAlpha_of_toUpper_ne
    (spelled.1.trans_ne (Ne.symm different))).2
  rw [spelled.1] at isCapital
  cases isCapital

theorem startOf?_upper (text : Text) : startOf? text.upper = startOf? text := by
  simp only [startOf?, Text.take_upper, Text.upper_upper]

/-- An error value is recognised by its spelling. -/
theorem startOf?_spelling {literal : ErrorLiteral} (found : startOf? text = some literal) :
    Text.upper (text.take literal.spelling.length) = literal.spelling := by
  have spelled := List.find?_some found
  simpa using spelled

theorem startOf?_le {literal : ErrorLiteral} (found : startOf? text = some literal) :
    literal.spelling.length ≤ text.length := by
  have spelled := congrArg List.length (startOf?_spelling found)
  rw [Text.length_upper, List.length_take] at spelled
  omega

/-- No text begins with two of the spellings. -/
theorem eq_of_spelled {literal other : ErrorLiteral}
    (spelled : Text.upper (text.take literal.spelling.length) = literal.spelling)
    (otherSpelled : Text.upper (text.take other.spelling.length) = other.spelling) :
    literal = other := by
  have begins : ∀ longer shorter : ErrorLiteral,
      longer.spelling.take shorter.spelling.length = shorter.spelling → longer = shorter := by
    intro longer shorter
    cases longer <;> cases shorter <;> decide
  rcases Nat.le_total other.spelling.length literal.spelling.length with le | le
  · apply begins
    rw [← spelled, Text.upper, ← List.map_take, List.take_take, Nat.min_eq_left le]
    exact otherSpelled
  · symm
    apply begins
    rw [← otherSpelled, Text.upper, ← List.map_take, List.take_take, Nat.min_eq_left le]
    exact spelled

theorem startOf?_eq_some_iff {literal : ErrorLiteral} :
    startOf? text = some literal ↔
      Text.upper (text.take literal.spelling.length) = literal.spelling := by
  refine ⟨startOf?_spelling, fun spelled => ?_⟩
  cases found : startOf? text with
  | none =>
      have listed : literal ∈ all := by cases literal <;> decide
      exact absurd spelled (by simpa using List.find?_eq_none.mp found literal listed)
  | some other => rw [eq_of_spelled (startOf?_spelling found) spelled]

/-- An error value is recognised whatever follows it. -/
theorem startOf?_take {literal : ErrorLiteral} (found : startOf? text = some literal)
    (rest : Text) : startOf? (text.take literal.spelling.length ++ rest) = some literal := by
  rw [startOf?_eq_some_iff,
    List.take_left' (List.length_take_of_le (startOf?_le found))]
  exact startOf?_spelling found

/-- An error value has no parentheses or quotes in it. -/
theorem isPlain_of_startOf? {literal : ErrorLiteral} (found : startOf? text = some literal) :
    ∀ character ∈ text.take literal.spelling.length, Text.isPlain character = true := by
  have spellings : literal.spelling.all Text.isPlain = true := by
    cases literal <;> decide
  intro character member
  have inUpper : character.toUpper ∈ literal.spelling := by
    rw [← startOf?_spelling found]
    exact List.mem_map_of_mem member
  have plain := List.all_eq_true.mp spellings _ inUpper
  by_cases same : character.toUpper = character
  · rwa [same] at plain
  · exact Text.isPlain_of_class (by decide) (isAlpha_of_toUpper_ne same).1

end ErrorLiteral

end SheetEditor
