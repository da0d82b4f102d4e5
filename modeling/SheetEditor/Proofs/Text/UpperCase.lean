import SheetEditor.Proofs.Text.Letter
import SheetEditor.Proofs.Text.Run

/-!
Contract: parts of a text in upper case.

Owns: that cutting a text, and reading quoted text at its start, goes on as before in upper case, as
long as no letter decides where to cut.

Does not own: the case tables that sheet names are compared with
(`SheetEditor.Text.CaseTable`).
-/

namespace SheetEditor.Text

@[simp] theorem upper_cons (first : Char) (following : Text) :
    upper (first :: following) = first.toUpper :: following.upper := rfl

theorem upper_append (text rest : Text) : upper (text ++ rest) = text.upper ++ rest.upper :=
  List.map_append

@[simp] theorem upper_eq_nil {text : Text} : text.upper = [] ↔ text = [] := List.map_eq_nil_iff

@[simp] theorem upper_upper (text : Text) : text.upper.upper = text.upper := by
  simp [upper]

/-- A character that is no letter does not come first in upper case if it did not. -/
theorem upper_ne_cons {mark : Char} {text : Text} (notLetter : mark.isAlpha = false)
    (notFirst : ∀ rest, text = mark :: rest → False) (rest : Text) : text.upper ≠ mark :: rest := by
  intro same
  cases text with
  | nil => cases same
  | cons first following =>
      obtain ⟨isMark, -⟩ := List.cons.inj same
      exact notFirst following (by rw [(toUpper_eq_iff notLetter).mp isMark])

/-- Digits have no letter case. -/
theorem upper_digits {digits : Text} (isDigits : ∀ digit ∈ digits, digit.isDigit = true) :
    upper digits = digits :=
  (List.map_congr_left fun digit member => toUpper_of_isDigit (isDigits digit member)).trans
    (List.map_id' digits)

/-- A character that is no letter is in a text if it is in the text in upper case. -/
theorem contains_upper {mark : Char} (notLetter : mark.isAlpha = false) (text : Text) :
    text.upper.contains mark = text.contains mark := by
  rw [Bool.eq_iff_iff, List.contains_iff_mem, List.contains_iff_mem, upper, List.mem_map]
  constructor
  · rintro ⟨character, member, same⟩
    rwa [← (toUpper_eq_iff notLetter).mp same]
  · exact fun member => ⟨mark, member, (toUpper_eq_iff notLetter).mpr rfl⟩

/-! ## Cuts -/

theorem take_upper (text : Text) (count : Nat) :
    text.upper.take count = Text.upper (text.take count) := List.map_take.symm

theorem drop_upper (text : Text) (count : Nat) :
    text.upper.drop count = Text.upper (text.drop count) := List.map_drop.symm

section Classes

variable {inside : Char → Bool}
  (keeps : ∀ character : Char, inside character.toUpper = inside character) (text : Text)

include keeps

theorem takeWhile_upper : text.upper.takeWhile inside = Text.upper (text.takeWhile inside) := by
  rw [upper, List.takeWhile_map, upper]
  congr 2
  exact funext keeps

theorem dropWhile_upper : text.upper.dropWhile inside = Text.upper (text.dropWhile inside) := by
  rw [upper, List.dropWhile_map, upper]
  congr 2
  exact funext keeps

theorem all_upper : text.upper.all inside = text.all inside := by
  rw [upper, List.all_map]
  congr 1
  exact funext keeps

theorem head?_upper_any : text.upper.head?.any inside = text.head?.any inside := by
  cases text with
  | nil => rfl
  | cons first following => exact keeps first

end Classes

/-! ## Quoted text -/

section Quotes

variable {quote : Char} (notLetter : quote.isAlpha = false)

include notLetter

theorem doubleQuotes_upper (text : Text) :
    doubleQuotes quote text.upper = upper (doubleQuotes quote text) := by
  induction text with
  | nil => rfl
  | cons character text inductionHypothesis =>
      have sameQuote : quote.toUpper = quote := (toUpper_eq_iff notLetter).mpr rfl
      simp only [upper_cons, doubleQuotes, toUpper_eq_iff notLetter, inductionHypothesis]
      split <;> simp only [upper_cons, sameQuote]

theorem readQuoted?_upper (text : Text) :
    readQuoted? quote text.upper = (readQuoted? quote text).map (Prod.map upper id) := by
  rcases quoted_cases quote text with ⟨content, rfl⟩ | ⟨content, rest, rfl, stops⟩
  · rw [← doubleQuotes_upper notLetter, readQuoted?_open, readQuoted?_open]
    rfl
  · have stopsUpper : Stops (· = quote) (upper rest) := by
      cases rest with
      | nil => exact stops_nil
      | cons next others => simpa [toUpper_eq_iff notLetter] using stops
    rw [upper_append, ← doubleQuotes_upper notLetter, upper_cons,
      (toUpper_eq_iff notLetter).mpr rfl, readQuoted?_closed _ stopsUpper,
      readQuoted?_closed _ stops, doubleQuotes_upper notLetter, length_upper]
    rfl

end Quotes

end SheetEditor.Text
