import SheetEditor.Json.Token

/-!
Contract: values of which only the form matters.

Owns: a machine that reads one JSON value of any form and any depth from tokens.
It keeps the containers that are open and what it expects next, so deep values
need no deep recursion.
-/

namespace SheetEditor.Json

inductive Container where
  | array
  | object
deriving DecidableEq, Repr

inductive Expectation where
  | value
  /-- The first item of an array, or its end. -/
  | firstItem
  /-- The first key of an object, or its end. -/
  | firstKey
  | key
  | colon
  /-- A comma, or the end of the innermost container. -/
  | separator
deriving DecidableEq, Repr

/-- What the machine does with a token: it goes on with the containers that are open then and
with what it expects then. -/
def Expectation.step? (expected : Expectation) (containers : List Container) (token : Token) :
    Option (Expectation × List Container) :=
  match expected, token, containers with
  | .value, .openBracket, _ | .firstItem, .openBracket, _ => some (.firstItem, .array :: containers)
  | .value, .openBrace, _ | .firstItem, .openBrace, _ => some (.firstKey, .object :: containers)
  | .value, .null, _ | .firstItem, .null, _ => some (.separator, containers)
  | .value, .boolean _, _ | .firstItem, .boolean _, _ => some (.separator, containers)
  | .value, .number _, _ | .firstItem, .number _, _ => some (.separator, containers)
  | .value, .string _, _ | .firstItem, .string _, _ => some (.separator, containers)
  | .firstItem, .closeBracket, .array :: outer => some (.separator, outer)
  | .firstKey, .closeBrace, .object :: outer => some (.separator, outer)
  | .firstKey, .string _, _ | .key, .string _, _ => some (.colon, containers)
  | .colon, .colon, _ => some (.value, containers)
  | .separator, .comma, .array :: _ => some (.value, containers)
  | .separator, .comma, .object :: _ => some (.key, containers)
  | .separator, .closeBracket, .array :: outer => some (.separator, outer)
  | .separator, .closeBrace, .object :: outer => some (.separator, outer)
  | _, _, _ => none

/-- Reads tokens until a value is complete and no container is open; returns the tokens after. -/
def skipFrom? (expected : Expectation) (containers : List Container) :
    List Token → Option (List Token)
  | [] => none
  | token :: rest =>
      match expected.step? containers token with
      | some (.separator, []) => some rest
      | some (next, stillOpen) => skipFrom? next stillOpen rest
      | none => none

def skipValue? (tokens : List Token) : Option (List Token) := skipFrom? .value [] tokens

end SheetEditor.Json
