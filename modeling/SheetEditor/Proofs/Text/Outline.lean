import SheetEditor.Proofs.Text.Run
import SheetEditor.Workbook.SheetName

/-!
Contract: the outline of a text, its parentheses and commas outside quoted parts.

Owns: which parentheses and commas of a formula count, the strings and quoted
sheet names around the others, outlines whose parentheses pair up, and the commas
outside of these parentheses.

Does not own: how a text is cut into tokens. Both scanners are compared with this
reading of their text.
-/

namespace SheetEditor.Text

variable {text rest following outline : Text}

/-- Whether a character is no parenthesis, no comma and no quote. -/
def isPlain (character : Char) : Bool :=
  !(['(', ')', ',', '"', SheetName.quote].contains character)

/-- The characters of a class without parentheses, commas and quotes are plain. -/
theorem isPlain_of_class {inside : Char → Bool}
    (excluded : ['(', ')', ',', '"', SheetName.quote].any inside = false)
    {character : Char} (member : inside character = true) : isPlain character = true := by
  rw [isPlain, Bool.not_eq_true']
  by_contra special
  rw [Bool.not_eq_false, List.contains_iff_mem] at special
  rw [List.any_eq_false] at excluded
  exact excluded character special member

/-- The parentheses and commas of a text outside its strings and quoted sheet names, if every string
is closed and every quote that stands elsewhere begins a sheet name with an exclamation mark after
it. -/
inductive Outlines : Text → Text → Prop where
  | nil : Outlines [] []
  | kept {character : Char} {rest outline : Text}
      (isKept : character = '(' ∨ character = ')' ∨ character = ',')
      (outside : Outlines rest outline) : Outlines (character :: rest) (character :: outline)
  | plain {character : Char} {rest outline : Text} (plain : isPlain character = true)
      (outside : Outlines rest outline) : Outlines (character :: rest) outline
  | string {following content outline : Text} {count : Nat}
      (read : readQuoted? '"' following = some (content, count))
      (outside : Outlines (following.drop count) outline) :
      Outlines ('"' :: following) outline
  | name {following name rest outline : Text} {count : Nat}
      (read : readQuoted? SheetName.quote following = some (name, count)) (nonempty : name ≠ [])
      (marked : following.drop count = '!' :: rest) (outside : Outlines rest outline) :
      Outlines (SheetName.quote :: following) outline

theorem Outlines.append_plain (plain : ∀ character ∈ text, isPlain character = true)
    (outside : Outlines rest outline) : Outlines (text ++ rest) outline := by
  induction text with
  | nil => exact outside
  | cons first text inductionHypothesis =>
      rw [List.forall_mem_cons] at plain
      exact .plain plain.1 (inductionHypothesis plain.2)

theorem Outlines.of_plain {first : Char} (plain : isPlain first = true)
    (outlines : Outlines (first :: rest) outline) : Outlines rest outline := by
  cases outlines with
  | plain _ outside => exact outside
  | kept isKept _ => rcases isKept with rfl | rfl | rfl <;> cases plain
  | string | name => cases plain

theorem Outlines.of_append_plain (plain : ∀ character ∈ text, isPlain character = true)
    (outlines : Outlines (text ++ rest) outline) : Outlines rest outline := by
  induction text with
  | nil => exact outlines
  | cons first text inductionHypothesis =>
      rw [List.forall_mem_cons] at plain
      exact inductionHypothesis plain.2 (outlines.of_plain plain.1)

/-- Two texts have their outlines in a row, unless the second one begins with a quote, which could
double a quote that closes the first one. -/
theorem Outlines.append {later : Text} (outlines : Outlines text outline)
    (outside : Outlines rest later)
    (unquoted : Stops (fun next => next = '"' || next = SheetName.quote) rest) :
    Outlines (text ++ rest) (outline ++ later) := by
  have stopsString : Stops (· = '"') rest := unquoted.mono fun next same => by rw [same, Bool.true_or]
  have stopsName : Stops (· = SheetName.quote) rest :=
    unquoted.mono fun next same => by rw [same, Bool.or_true]
  induction outlines with
  | nil => exact outside
  | kept isKept _ inductionHypothesis => exact .kept isKept inductionHypothesis
  | plain plain _ inductionHypothesis => exact .plain plain inductionHypothesis
  | string read _ inductionHypothesis =>
      refine .string (readQuoted?_append read stopsString) ?_
      rwa [List.append_eq, List.drop_append_of_le_length (readQuoted?_length_le read)]
  | name read nonempty marked _ inductionHypothesis =>
      refine .name (readQuoted?_append read stopsName) nonempty ?_ inductionHypothesis
      rw [List.append_eq, List.drop_append_of_le_length (readQuoted?_length_le read), marked,
        List.cons_append]

/-! ## Paired parentheses -/

/-- Number of open parentheses after one more character of an outline. A closing parenthesis without
an opening one does not count below zero. -/
def stepParenthesis (depth : Nat) (character : Char) : Nat :=
  if character = '(' then depth + 1 else if character = ')' then depth - 1 else depth

/-- Number of commas in an outline outside of its parentheses, below which `depth` others are
open. -/
def outerCommas : Nat → Text → Nat
  | _, [] => 0
  | depth, character :: later =>
      (if character = ',' && depth = 0 then 1 else 0) +
        outerCommas (stepParenthesis depth character) later

/-- Outlines whose parentheses pair up, with the number of commas outside of them. -/
inductive Nested : Text → Nat → Prop where
  | nil : Nested [] 0
  | comma {later : Text} {commas : Nat} (nested : Nested later commas) :
      Nested (',' :: later) (commas + 1)
  | group {inside later : Text} {inner commas : Nat} (enclosed : Nested inside inner)
      (nested : Nested later commas) : Nested ('(' :: (inside ++ ')' :: later)) commas

theorem Nested.append {first second : Text} {before after : Nat} (left : Nested first before)
    (right : Nested second after) : Nested (first ++ second) (before + after) := by
  induction left with
  | nil => simpa using right
  | @comma later commas _ inductionHypothesis =>
      rw [Nat.add_right_comm]
      exact .comma inductionHypothesis
  | group enclosed _ _ inductionHypothesis =>
      rw [List.cons_append, List.append_assoc, List.cons_append]
      exact .group enclosed inductionHypothesis

theorem Nested.enclose {inside : Text} {inner : Nat} (nested : Nested inside inner) :
    Nested ('(' :: (inside ++ [')'])) 0 :=
  .group nested .nil

/-- Parentheses that pair up leave as many open as there were. -/
theorem Nested.foldl_stepParenthesis {commas : Nat} (nested : Nested outline commas) (depth : Nat) :
    outline.foldl stepParenthesis depth = depth := by
  induction nested generalizing depth with
  | nil => rfl
  | comma _ inductionHypothesis => exact inductionHypothesis depth
  | group _ _ insideHypothesis laterHypothesis =>
      rw [List.foldl_cons, List.foldl_append, insideHypothesis, List.foldl_cons]
      exact laterHypothesis depth

theorem Nested.outerCommas_append {commas : Nat} (nested : Nested outline commas) (depth : Nat)
    (later : Text) :
    outerCommas depth (outline ++ later) =
      (if depth = 0 then commas else 0) + outerCommas depth later := by
  induction nested generalizing depth later with
  | nil => simp
  | comma _ inductionHypothesis =>
      have kept : stepParenthesis depth ',' = depth := rfl
      rw [List.cons_append, outerCommas, kept, inductionHypothesis]
      by_cases outside : depth = 0
      · simp [outside]
        omega
      · simp [outside]
  | @group inside others _ _ _ _ insideHypothesis laterHypothesis =>
      have opened : stepParenthesis depth '(' = depth + 1 := rfl
      have closed : stepParenthesis (depth + 1) ')' = depth := rfl
      rw [List.cons_append, List.append_assoc, List.cons_append, outerCommas, opened,
        insideHypothesis, outerCommas, closed, laterHypothesis]
      simp

theorem Nested.outerCommas_eq {commas : Nat} (nested : Nested outline commas) :
    outerCommas 0 outline = commas := by
  have counted := nested.outerCommas_append 0 []
  simpa [outerCommas] using counted

end SheetEditor.Text
