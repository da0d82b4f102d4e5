import SheetEditor.Draft.Token
import SheetEditor.Function.Basic

/-!
Contract: completion of function names.

Owns: the partial name at the caret, the functions offered for it and their
order, and the text after one is accepted.

Does not own: whether suggestions are shown; a session decides that.
-/

namespace SheetEditor.Draft

/-! ## The partial name at the caret -/

/-- A partial name: what of it stands before the caret, in upper case, and where it starts. -/
structure NameContext where
  query : Text
  start : Nat
deriving DecidableEq, Repr, Inhabited

namespace NameContext

def shouldOpen (context : NameContext) : Bool := context.query ≠ []

def touches (caret : Nat) (token : Token) : Bool := token.start ≤ caret && caret ≤ token.stop

/-- The partial name at the caret. There is none if the first candidate that the caret touches is
already called. -/
def ofTokens? (caret : Nat) : List Token → Option NameContext
  | [] => none
  | token :: rest =>
      if token.isNameCandidate && touches caret token then
        if (rest.find? fun next => !next.isBlank).any (·.opensParenthesis) then none
        else some ⟨Text.upper (token.text.take (caret - token.start)), token.start⟩
      else ofTokens? caret rest

end NameContext

/-! ## Suggestions -/

-- `≤` is the order of the core library here, whatever else is imported.
attribute [local instance (2000)] List.instLE List.decidableLE

def matchesQuery (query : Text) (definition : FunctionDefinition) : Bool :=
  query.isPrefixOf definition.name.upper

/-- Whether one suggestion may stand before another: an exact match comes first, then the names in
upper case are in order. -/
def ranksBefore (query : Text) (left right : FunctionDefinition) : Bool :=
  let leftName := left.name.upper
  let rightName := right.name.upper
  if leftName = query then rightName ≠ query || leftName ≤ rightName
  else rightName ≠ query && leftName ≤ rightName

/-- At most `limit` suggestions for a query in any letter case. Equally ranked functions keep
their order. -/
def suggestions (registry : List FunctionDefinition) (query : Text) (limit : Nat) :
    List FunctionDefinition :=
  ((registry.filter (matchesQuery query.upper)).mergeSort (ranksBefore query.upper)).take limit

/-! ## Acceptance -/

/-- Replaces the text from the start of a name up to the caret by a function's name and an opening
parenthesis, and puts the caret after that. -/
def acceptSuggestion (text : Text) (start caret : Nat) (name : Text) : TextEdit :=
  let caret := min caret text.length
  let start := min start caret
  let inserted := name ++ ['(']
  ⟨text.splice start caret inserted, start + inserted.length⟩

end SheetEditor.Draft
