/-!
Contract: the preferences of the editor.

Owns: the settings, their defaults, and the step that the selection takes after a
commit.

Does not own: how settings are written to a file (`SheetEditor.Settings.File`).
-/

namespace SheetEditor

/-- Where the selection goes after Enter commits an edit. -/
inductive EnterDirection where
  | down
  | right
deriving DecidableEq, Repr, Inhabited

def EnterDirection.delta : EnterDirection → Int × Int
  | .down => (1, 0)
  | .right => (0, 1)

structure Settings where
  /-- Whether open parentheses are closed on commit. -/
  autoCloseParentheses : Bool
  autocompleteLimit : Nat
  /-- Greatest number of steps that can be undone. -/
  historyLimit : Nat
  enterDirection : EnterDirection
deriving DecidableEq, Repr, Inhabited

namespace Settings

def default : Settings := ⟨true, 10, 100, .down⟩

end Settings

end SheetEditor
