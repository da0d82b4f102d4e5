import SheetEditor.Text.Basic

/-!
Contract: the blank characters and trimming.

Owns: the class of characters with the Unicode property `White_Space`, the removal
of blanks at both ends of a text, and that nothing is left to remove then.
-/

namespace SheetEditor

/-- The characters with the property `White_Space`: the ASCII controls from tab to carriage
return, the space, and the blanks of Latin-1, Ogham, general punctuation and CJK. -/
def isBlank (character : Char) : Bool :=
  let code := character.toNat
  (0x09 ≤ code && code ≤ 0x0D) || code = 0x20 || code = 0x85 || code = 0xA0 ||
    code = 0x1680 || (0x2000 ≤ code && code ≤ 0x200A) || code = 0x2028 || code = 0x2029 ||
    code = 0x202F || code = 0x205F || code = 0x3000

namespace Text

def trimStart (text : Text) : Text := text.dropWhile isBlank

def trimEnd (text : Text) : Text := (text.reverse.dropWhile isBlank).reverse

def trim (text : Text) : Text := text.trimStart.trimEnd

variable {text : Text}

/-- Nothing is removed in front of a text that begins with no blank. -/
theorem trimStart_eq_self (solid : ∀ first, text.head? = some first → isBlank first = false) :
    text.trimStart = text := by
  cases text with
  | nil => rfl
  | cons first rest =>
      apply List.dropWhile_cons_of_neg
      rw [solid first rfl]
      exact Bool.false_ne_true

theorem isBlank_of_head?_trimStart {first : Char} (found : text.trimStart.head? = some first) :
    isBlank first = false := by
  have solid := List.head?_dropWhile_not isBlank text
  rw [trimStart] at found
  rwa [found] at solid

theorem trimStart_trimStart (text : Text) : text.trimStart.trimStart = text.trimStart :=
  trimStart_eq_self fun _ found => isBlank_of_head?_trimStart found

theorem trimEnd_trimEnd (text : Text) : text.trimEnd.trimEnd = text.trimEnd := by
  show (trimStart text.trimEnd.reverse).reverse = text.trimEnd
  rw [trimEnd, List.reverse_reverse]
  exact congrArg List.reverse (trimStart_trimStart text.reverse)

theorem exists_trimEnd_append (text : Text) : ∃ blanks, text.trimEnd ++ blanks = text := by
  show text.trimEnd <+: text
  rw [← List.reverse_suffix, trimEnd, List.reverse_reverse]
  exact List.dropWhile_suffix isBlank

/-- A trimmed text has no blanks left to trim. -/
@[simp] theorem trim_trim (text : Text) : text.trim.trim = text.trim := by
  have started : text.trim.trimStart = text.trim := by
    apply trimStart_eq_self
    intro first found
    -- It begins as the text without its leading blanks does.
    obtain ⟨blanks, whole⟩ := exists_trimEnd_append text.trimStart
    have begins : text.trimStart.head? = some first := by
      rw [← whole, List.head?_append, show text.trimStart.trimEnd.head? = some first from found]
      rfl
    exact isBlank_of_head?_trimStart begins
  rw [trim, started]
  exact trimEnd_trimEnd text.trimStart

end Text

end SheetEditor
