import SheetEditor.Proofs.Formula.Contents
import SheetEditor.Proofs.Formula.ErrorLiteral
import SheetEditor.Proofs.Formula.LetterCase
import SheetEditor.Proofs.Formula.Separation
import SheetEditor.Proofs.Numeric.NumeralCase

/-!
Contract: a formula's body in upper case.

Owns: that the strict scan cuts a body in upper case where it cuts the body, and finds the same tokens
there, with strings and sheet names in upper case; and that the expression is the same, with its
strings and sheet names in upper case.

A failure may name another text in upper case, so that only outcomes without one are compared.
-/

namespace SheetEditor.Formula

namespace Token

variable (position : Nat) (first : Char) (following : Text)

/-! ## One step -/

/-- What a step finds, with its contents in upper case. -/
abbrev raised : Option Token × Nat → Option Token × Nat :=
  Prod.map (Option.map (mapContents Text.upper)) id

theorem scanLess_upper : Tracks raised (scanLess following) (scanLess following.upper) := by
  rw [scanLess.eq_def following]
  split
  · exact .of_eq rfl
  · exact .of_eq rfl
  · next notEqual notGreater =>
      rw [scanLess]
      · exact .of_eq rfl
      · exact Text.upper_ne_cons rfl notEqual
      · exact Text.upper_ne_cons rfl notGreater

theorem scanGreater_upper : Tracks raised (scanGreater following) (scanGreater following.upper) := by
  rw [scanGreater.eq_def following]
  split
  · exact .of_eq rfl
  · next notEqual =>
      rw [scanGreater]
      · exact .of_eq rfl
      · exact Text.upper_ne_cons rfl notEqual

theorem scanError_upper :
    Tracks raised (scanError position '#' following) (scanError position '#' following.upper) := by
  have sameStart : ErrorLiteral.startOf? ('#' :: following.upper) =
      ErrorLiteral.startOf? ('#' :: following) := ErrorLiteral.startOf?_upper ('#' :: following)
  unfold scanError
  rw [sameStart]
  cases ErrorLiteral.startOf? ('#' :: following) with
  | none => exact .failed _ _
  | some literal => exact .of_eq rfl

theorem scanString_upper :
    Tracks raised (scanString position following) (scanString position following.upper) := by
  unfold scanString
  rw [Text.readQuoted?_upper rfl]
  cases Text.readQuoted? '"' following with
  | none => exact .failed _ _
  | some read => exact .of_eq rfl

theorem scanQuotedName_upper :
    Tracks raised (scanQuotedName position following)
      (scanQuotedName position following.upper) := by
  unfold scanQuotedName
  rw [Text.readQuoted?_upper rfl]
  cases Text.readQuoted? SheetName.quote following with
  | none => exact .failed _ _
  | some read =>
      obtain ⟨name, count⟩ := read
      simp only [Option.map_some, Prod.map, id, Text.drop_upper]
      cases following.drop count with
      | nil => exact .failed _ _
      | cons next rest =>
          by_cases isMark : next = '!'
          · subst isMark
            exact .of_eq rfl
          · have stillNoMark : next.toUpper ≠ '!' := fun same =>
              isMark ((toUpper_eq_iff rfl).mp same)
            simp only [Text.upper_cons]
            exact .failed _ _

theorem scanNumber_upper :
    Tracks raised (scanNumber first following) (scanNumber first.toUpper following.upper) := by
  have inDigits (character : Char) :
      (character.toUpper.isDigit || decide (character.toUpper = '.')) =
        (character.isDigit || decide (character = '.')) := by
    have point : character.toUpper = '.' ↔ character = '.' := toUpper_eq_iff rfl
    simp only [isDigit_toUpper, point]
  simp only [scanNumber]
  rw [Text.takeWhile_upper inDigits, Text.length_upper, Text.drop_upper,
    Decimal.exponentLength_upper, Text.take_upper, ← Text.upper_cons, Binary64.read?_upper]
  split
  · exact .of_eq rfl
  · exact .failed _ _

/-- An identifier is the same token in any letter case, and that has no contents. -/
theorem ofIdentifier_tracks (identifier : Text) :
    Tracks (mapContents Text.upper) (ofIdentifier identifier) (ofIdentifier identifier.upper) := by
  rw [Tracks.iff_toOption_eq, ofIdentifier_upper]
  cases named : ofIdentifier identifier with
  | error failure => rfl
  | ok token =>
      rcases ofIdentifier_cases named with ⟨_, _, _, _, rfl⟩ | ⟨_, _, rfl⟩
      · rfl
      · rfl

theorem scanIdentifier_upper :
    Tracks raised (scanIdentifier first following) (scanIdentifier first.toUpper following.upper) := by
  simp only [scanIdentifier]
  rw [identifierLength_upper, Text.drop_upper, Text.take_upper, ← Text.upper_cons]
  split
  · next rest marked =>
      rw [marked]
      exact .of_eq rfl
  · next unmarked =>
      split
      · exact (Text.upper_ne_cons rfl unmarked _ ‹_›).elim
      · exact (ofIdentifier_tracks _).map fun token => rfl

theorem scan_upper :
    Tracks raised (scan position first following) (scan position first.toUpper following.upper) := by
  by_cases same : first.toUpper = first
  · rw [same]
    unfold scan
    -- One case for each character that a step looks for, and one for all other characters.
    split
    case h_20 => exact scanLess_upper following
    case h_21 => exact scanGreater_upper following
    case h_22 => exact scanError_upper position following
    case h_23 => exact scanString_upper position following
    case h_24 => exact scanQuotedName_upper position following
    case h_25 =>
      split
      · have number := scanNumber_upper first following
        rwa [same] at number
      · split
        · have identifier := scanIdentifier_upper first following
          rwa [same] at identifier
        · exact .failed _ _
    all_goals exact .of_eq rfl
  · -- Only a letter becomes another character, and with a letter an identifier begins.
    have isAlpha : first.isAlpha = true := (isAlpha_of_toUpper_ne same).1
    rw [scan_of_beginsIdentifier position (by simp [beginsIdentifier, isAlpha]),
      scan_of_beginsIdentifier position (by simp [beginsIdentifier, isAlpha])]
    exact scanIdentifier_upper first following

/-! ## All steps -/

theorem scanFrom_upper (position : Nat) (text : Text) :
    Tracks (List.map (mapContents Text.upper)) (scanFrom position text)
      (scanFrom position text.upper) := by
  induction position, text using scanFrom.induct with
  | case1 position =>
      rw [scanFrom, Text.upper_eq_nil.mpr rfl, scanFrom]
      exact .done []
  | case2 position first following inductionHypothesis =>
      rw [Text.upper_cons, scanFrom, scanFrom]
      refine (scan_upper position first following).bind fun found => ?_
      obtain ⟨token, count⟩ := found
      simp only [Prod.map, id, Text.drop_upper]
      refine (inductionHypothesis count).bind fun rest => .of_eq ?_
      rw [List.map_append]
      cases token <;> rfl

theorem scanAll_upper (body : Text) :
    Tracks (List.map (mapContents Text.upper)) (scanAll body) (scanAll body.upper) :=
  scanFrom_upper 0 body

end Token

/-! ## Formulas -/

/-- A body in upper case is a formula if the body is one, and then the same formula with its strings
and sheet names in upper case. -/
theorem parse_upper (body : Text) :
    (parse body.upper).toOption = (parse body).toOption.map (Expr.mapContents Text.upper) := by
  rw [← Tracks.iff_toOption_eq]
  unfold parse
  rw [Text.length_upper]
  split
  · exact .failed _ _
  · refine (Token.scanAll_upper body).bind fun tokens => ?_
    simp only [List.map_eq_nil_iff, isShallow_mapContents]
    split
    · exact .failed _ _
    · split
      · exact .failed _ _
      · exact parseTokens_mapContents tokens

end SheetEditor.Formula
