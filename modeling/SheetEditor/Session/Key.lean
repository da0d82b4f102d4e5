import SheetEditor.Session.Transition

/-!
Contract: key presses.

Owns: the keys that the editor reacts to, what each means in a given situation,
and the action that this is on a session.

During the composition of an input method no key means anything to the editor.
Undo and redo of text belong to the input surface while an edit is in progress.
-/

namespace SheetEditor

inductive Key where
  | enter
  | tab
  | escape
  | f2
  | f4
  | character (character : Char)
deriving DecidableEq, Repr, Inhabited

structure KeyPress where
  key : Key
  shift : Bool
  control : Bool
deriving DecidableEq, Repr, Inhabited

inductive KeyCommand where
  /-- Commits and moves on in the configured direction, or back. -/
  | confirm (reverse : Bool)
  | confirmInPlace
  /-- Commits and moves to the next column, or to the one before. -/
  | confirmSideways (reverse : Bool)
  | cancel
  | dismissSuggestions
  | acceptSuggestion
  | startEdit
  | startReplace (typed : Char)
  | cycleAnchors
  | undo
  | redo
deriving DecidableEq, Repr, Inhabited

def isControlCharacter (character : Char) : Bool :=
  character.toNat < 0x20 || (0x7F ≤ character.toNat && character.toNat ≤ 0x9F)

namespace KeyPress

def controlCommand? (typed : Char) (shift : Bool) : Option KeyCommand :=
  if typed.toLower = 'z' then some (if shift then .redo else .undo)
  else if typed.toLower = 'y' then some .redo
  else none

def characterCommand? (press : KeyPress) (isEditing : Bool) (typed : Char) : Option KeyCommand :=
  if isEditing then none
  else if press.control then controlCommand? typed press.shift
  else if isControlCharacter typed then none
  else some (.startReplace typed)

/-- What a key press means outside a composition, given whether an edit is in progress and
whether suggestions are shown. -/
def plainCommand? (press : KeyPress) (isEditing suggestionsShown : Bool) : Option KeyCommand :=
  match press.key with
  | .enter =>
      if press.control then (if isEditing then some .confirmInPlace else none)
      else some (.confirm press.shift)
  | .tab =>
      if isEditing && suggestionsShown && !press.shift then some .acceptSuggestion
      else some (.confirmSideways press.shift)
  | .escape =>
      if !isEditing then none
      else if suggestionsShown then some .dismissSuggestions
      else some .cancel
  | .f2 => if isEditing then none else some .startEdit
  | .f4 => if isEditing then some .cycleAnchors else none
  | .character typed => press.characterCommand? isEditing typed

/-- What a key press means, given for an edit in progress whether it is being composed, and
whether suggestions are shown. -/
def command? (press : KeyPress) (composing : Option Bool) (suggestionsShown : Bool) :
    Option KeyCommand :=
  if composing = some true then none
  else press.plainCommand? composing.isSome suggestionsShown

end KeyPress

/-! ## Keys on a session -/

namespace Session

/-- The action on a session that a key command is; `shown` are the suggestions. -/
def actionOf? (session : Session) (shown : List FunctionDefinition) : KeyCommand → Option Action
  | .confirm reverse =>
      let (rows, columns) := session.settings.enterDirection.delta
      some (if reverse then .commitAndMove (-rows) (-columns) else .commitAndMove rows columns)
  | .confirmInPlace => some .commit
  | .confirmSideways reverse => some (.commitAndMove 0 (if reverse then -1 else 1))
  | .cancel => some .cancel
  | .dismissSuggestions => some .dismissSuggestions
  | .acceptSuggestion => shown.head?.map fun top => .acceptSuggestion top.name
  | .startEdit => some (.enterEdit session.selected .enter none)
  | .startReplace typed => some (.enterEdit session.selected .replace (some typed))
  | .cycleAnchors => some .cycleAnchors
  | .undo => some .undo
  | .redo => some .redo

def pressKey (session : Session) (press : KeyPress) : Outcome :=
  let shown := session.suggestions
  let command := press.command? (session.edit.map (·.composition.isComposing)) (!shown.isEmpty)
  match command.bind (session.actionOf? shown) with
  | some action => session.dispatch action
  | none => session.refuse

end Session

end SheetEditor
