import SheetEditor.Draft.Closing
import SheetEditor.Proofs.Draft.Tiling

/-!
Contract: when closing the parentheses of a text changes nothing.

Owns: the characters of the tokens of a text, and the texts without an opening
parenthesis.
-/

namespace SheetEditor.Draft

/-- The characters of a token come from the text. -/
theorem Token.mem_of_mem_scanFrom {start : Nat} {body : Text} {token : Token} {character : Char}
    (scanned : token ∈ Token.scanFrom start body) (member : character ∈ token.text) :
    character ∈ body := by
  obtain ⟨-, before, after, placed, -⟩ := (Token.tiles_scanFrom start body).exists_around scanned
  rw [placed]
  exact List.mem_append_left _ (List.mem_append_right _ member)

/-- Tokens none of which opens a parenthesis leave none open. -/
theorem openDepth_eq_zero {tokens : List Token}
    (closed : ∀ token ∈ tokens, '(' ∉ token.text) : openDepth tokens = 0 := by
  unfold openDepth
  induction tokens with
  | nil => rfl
  | cons token rest inductionHypothesis =>
      have notOpening : token.text ≠ ['('] := fun equal =>
        closed token List.mem_cons_self (equal ▸ List.mem_singleton_self '(')
      have step : stepDepth 0 token = 0 := by
        unfold stepDepth
        rw [if_neg notOpening]
        exact ite_self 0
      rw [List.foldl_cons, step]
      exact inductionHypothesis fun later member => closed later (List.mem_cons_of_mem _ member)

/-- A text without an opening parenthesis is committed as it is. -/
theorem closeParentheses_eq_self {text : Text} (closed : '(' ∉ text) :
    closeParentheses text = text := by
  unfold closeParentheses
  split
  · next body =>
      have none : openDepth (Token.scanAll body) = 0 := openDepth_eq_zero fun token scanned opening =>
        closed (List.mem_cons_of_mem _ (Token.mem_of_mem_scanFrom scanned opening))
      rw [none, List.replicate_zero, List.append_nil]
  · rfl

/-- A text that is no formula is committed as it is. -/
theorem closeParentheses_eq_self_of_head? {text : Text} (plain : text.head? ≠ some '=') :
    closeParentheses text = text := by
  unfold closeParentheses
  split
  · simp at plain
  · rfl

end SheetEditor.Draft
