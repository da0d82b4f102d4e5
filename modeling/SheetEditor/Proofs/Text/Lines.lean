import SheetEditor.Proofs.Text.Run
import SheetEditor.Text.Blank
import SheetEditor.Text.Lines

/-!
Contract: lines and the texts that they make up.

Owns: that joined lines are found again, and what trimming leaves of a line that is
indented.
-/

namespace SheetEditor.Text

variable {first : Char} {line rest : Text}

/-! ## Joined lines -/

theorem lines_of_noEnd (noEnd : '\n' ∉ line) : lines line = [line] := by
  induction line with
  | nil => rfl
  | cons character line inductionHypothesis =>
      rw [List.mem_cons, not_or] at noEnd
      rw [lines, if_neg (Ne.symm noEnd.1), inductionHypothesis noEnd.2]

theorem lines_ne_nil (text : Text) : lines text ≠ [] := by
  cases text with
  | nil => exact List.cons_ne_nil _ _
  | cons character rest =>
      rw [lines]
      split
      · exact List.cons_ne_nil _ _
      · cases lines rest <;> exact List.cons_ne_nil _ _

/-- A line end separates the lines before it from the lines after it. -/
theorem lines_append (text rest : Text) :
    lines (text ++ '\n' :: rest) = lines text ++ lines rest := by
  induction text with
  | nil => rfl
  | cons character text inductionHypothesis =>
      obtain ⟨line, others, written⟩ := List.exists_cons_of_ne_nil (lines_ne_nil text)
      rw [written] at inductionHypothesis
      rw [List.cons_append, lines, lines, inductionHypothesis, written]
      split <;> rfl

/-- Lines without line ends in them are the lines of the text that they make up. -/
theorem lines_joinLines {parts : List Text} (nonempty : parts ≠ [])
    (noEnds : ∀ line ∈ parts, '\n' ∉ line) : lines (joinLines parts) = parts := by
  induction parts with
  | nil => exact absurd rfl nonempty
  | cons line others inductionHypothesis =>
      obtain ⟨noEnd, noLaterEnds⟩ := List.forall_mem_cons.mp noEnds
      cases others with
      | nil => exact lines_of_noEnd noEnd
      | cons next others =>
          rw [joinLines, lines_append, lines_of_noEnd noEnd, List.singleton_append,
            inductionHypothesis (List.cons_ne_nil next others) noLaterEnds]
          exact List.cons_ne_nil next others

/-! ## Indented lines -/

/-- Trimming at the end stops at a character that is not blank. -/
theorem trimEnd_cons (solid : isBlank first = false) (rest : Text) :
    trimEnd (first :: rest) = first :: trimEnd rest := by
  have stops : Stops isBlank [first] := stops_cons.mpr solid
  rw [trimEnd, List.reverse_cons, dropWhile_append stops, List.reverse_append,
    List.reverse_singleton, List.singleton_append, trimEnd]

/-- Trimming removes the blanks in front of a line, up to its first character. -/
theorem trim_indented {indent : Text} (blank : ∀ character ∈ indent, isBlank character = true)
    (solid : isBlank first = false) (rest : Text) :
    (indent ++ first :: rest).trim = first :: trimEnd rest := by
  have stops : Stops isBlank (first :: rest) := stops_cons.mpr solid
  rw [trim, trimStart, dropWhile_append stops, List.dropWhile_eq_nil_iff.mpr blank, List.nil_append,
    trimEnd_cons solid]

end SheetEditor.Text
