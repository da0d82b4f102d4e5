import Mathlib.Data.List.TakeWhile
import SheetEditor.Text.Blank

/-!
Contract: what trimming removes.

Owns: the texts that trimming empties, and that a text without blanks is kept.
-/

namespace SheetEditor.Text

/-- Trimming leaves nothing of a text exactly when all its characters are blank. -/
theorem trim_eq_nil_iff {text : Text} :
    text.trim = [] ↔ ∀ character ∈ text, isBlank character = true := by
  unfold trim trimEnd trimStart
  rw [List.reverse_eq_nil_iff, List.dropWhile_eq_nil_iff]
  constructor
  · intro allBlank
    by_contra notBlank
    have remaining : text.dropWhile isBlank ≠ [] := mt List.dropWhile_eq_nil_iff.mp notBlank
    have positive := List.length_pos_iff.mpr remaining
    exact List.dropWhile_get_zero_not isBlank text positive
      (allBlank _ (List.mem_reverse.mpr (List.getElem_mem positive)))
  · intro allBlank character member
    exact allBlank character
      ((List.dropWhile_suffix isBlank).subset (List.mem_reverse.mp member))

/-- A text without blanks is its own trimmed text. -/
theorem trim_eq_self {text : Text} (solid : ∀ character ∈ text, isBlank character = false) :
    text.trim = text := by
  have started : text.trimStart = text :=
    trimStart_eq_self fun first found => solid first (List.mem_of_head? found)
  have ended : trimStart text.reverse = text.reverse :=
    trimStart_eq_self fun last found => solid last (List.mem_reverse.mp (List.mem_of_head? found))
  rw [trim, started]
  show (trimStart text.reverse).reverse = text
  rw [ended, List.reverse_reverse]

end SheetEditor.Text
