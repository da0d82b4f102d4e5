import SheetEditor.Formula.Expr
import SheetEditor.Formula.Token

/-!
Contract: the recursive descent from tokens to an expression.

Owns: the readers of the grammar, from references up to comparisons. A reader
takes the tokens at hand and returns what it has read and the tokens after it.
The binary operators form one chain of readers, from comparisons down to powers,
each associating to the left; below them come runs of signs, then percent marks,
then single operands.

Every bracket opens a further round of the same readers. A budget bounds how many
brackets may be open and how many signs may stand in a row; a reader that would
exceed it fails as exhausted. Loops over tokens are bounded by a list of tokens
of which every round uses up at least one.

Does not own: where a failure is located in the whole formula, and the checks
that precede the descent (`SheetEditor.Formula.Parser`).
-/

namespace SheetEditor.Formula

namespace Descent

inductive Failure where
  | endOfTokens
  /-- The first of the remaining tokens cannot stand where it does. -/
  | unexpected (remaining : List Token)
  | missingCloseParenthesis
  | invalidReference (reference : Text)
  | danglingQualifier (sheet : Text)
  /-- The budget does not allow the next bracket or sign. -/
  | exhausted
deriving DecidableEq, Repr

/-- A reader of expressions: from the tokens at hand to what it has read and the tokens after
that. -/
abbrev Reader := List Token → Except Failure (Expr × List Token)

structure Budget where
  brackets : Nat
  signs : Nat
deriving DecidableEq, Repr

/-- The budget that no list of this many tokens can exceed. -/
def Budget.unlimited (tokenCount : Nat) : Budget := ⟨tokenCount, tokenCount⟩

/-! ## References -/

/-- The columns between two identifiers, counted from zero. -/
def columnSpan? (start stop : Text) : Option (Nat × Nat) := do
  let first ← Column.number? (start.dropWhile (· = '$'))
  let last ← Column.number? (stop.dropWhile (· = '$'))
  if first ≤ columnCount ∧ last ≤ columnCount then some (first - 1, last - 1) else none

/-- The row that a number written in a range means, counted from zero. -/
def rowOf? (value : Binary64) : Option Nat := do
  let number ← value.wholeNumber?
  if 1 ≤ number ∧ number ≤ rowCount then some (number.toNat - 1) else none

/-- Reads a reference on a sheet, as far as tokens without its qualifier form one. -/
def reference (sheet : Option Text) :
    List Token → Except Failure (Option (Expr × List Token))
  | .cell start _ _ :: .colon :: .cell stop _ _ :: rest =>
      .ok (some (.range sheet start stop, rest))
  | .cell address columnAbsolute rowAbsolute :: rest =>
      .ok (some (.cell sheet address columnAbsolute rowAbsolute, rest))
  | .identifier start :: .colon :: .identifier stop :: rest =>
      match columnSpan? start stop with
      | some (first, last) => .ok (some (.columns sheet first last, rest))
      | none => .error (.invalidReference (start ++ ':' :: stop))
  | .number start :: .colon :: .number stop :: rest =>
      .ok <| do
        let first ← rowOf? start
        let last ← rowOf? stop
        some (.rows sheet first last, rest)
  | _ => .ok none

/-- Reads a reference after its qualifier. -/
def qualifiedReference (sheet : Text) (tokens : List Token) :
    Except Failure (Expr × List Token) := do
  match ← reference (some sheet) tokens with
  | some found => return found
  | none => throw (.danglingQualifier sheet)

/-- Reads an identifier that is not called: a truth value, whole columns, or a name. -/
def bareIdentifier (name : Text) (rest : List Token) : Except Failure (Expr × List Token) :=
  if name = "TRUE".toList then .ok (.boolean true, rest)
  else if name = "FALSE".toList then .ok (.boolean false, rest)
  else do
    match ← reference none (.identifier name :: rest) with
    | some found => return found
    | none =>
        if name.contains '$' then throw (.invalidReference name)
        else return (.name name, rest)

/-! ## Signs, percent marks and chains of operators -/

/-- The number of minus signs in a run of signs and the tokens after the run, unless the run is
longer than the limit. -/
def readSigns (limit : Nat) : List Token → Option (Nat × List Token)
  | .operator .add :: rest =>
      match limit with
      | 0 => none
      | left + 1 => readSigns left rest
  | .operator .subtract :: rest =>
      match limit with
      | 0 => none
      | left + 1 => (readSigns left rest).map fun (minuses, after) => (minuses + 1, after)
  | tokens => some (0, tokens)

def negated : Nat → Expr → Expr
  | 0, operand => operand
  | times + 1, operand => .negate (negated times operand)

def withPercents (operand : Expr) : List Token → Expr × List Token
  | .percent :: rest => withPercents (.percent operand) rest
  | tokens => (operand, tokens)

def signed (signs : Nat) (operand : Reader) : Reader := fun tokens =>
  match readSigns signs tokens with
  | none => .error .exhausted
  | some (minuses, fromOperand) => do
      let (value, afterOperand) ← operand fromOperand
      let (marked, rest) := withPercents value afterOperand
      return (negated minuses marked, rest)

/-- Reads on after a left operand, as long as operators of the level follow. -/
def chainFrom (level : Binding) (operand : Reader) : List Token → Expr → Reader
  | _ :: steps, left, .operator operator :: rest =>
      if operator.binding = level then do
        let (right, after) ← operand rest
        chainFrom level operand steps (.binary operator left right) after
      else .ok (left, .operator operator :: rest)
  | _, left, tokens => .ok (left, tokens)

/-- Reads operands joined by operators of one level, associating to the left. -/
def chain (level : Binding) (operand : Reader) : Reader := fun tokens => do
  let (left, rest) ← operand tokens
  chainFrom level operand rest left rest

def expression (signs : Nat) (operand : Reader) : Reader :=
  chain .comparison <| chain .concatenation <| chain .sum <| chain .product <| chain .power <|
    signed signs operand

/-! ## Brackets -/

/-- Reads a parenthesised expression, after its parenthesis. -/
def group (inner : Reader) (tokens : List Token) : Except Failure (Expr × List Token) := do
  match ← inner tokens with
  | (value, .closeParenthesis :: rest) => return (value, rest)
  | (_, []) => throw .missingCloseParenthesis
  | (_, remaining) => throw (.unexpected remaining)

/-- Reads the arguments of a call up to its closing parenthesis, from the place of an argument
on. Where a separator or the parenthesis stands at once, the argument is left out. -/
def arguments (argument : Reader) :
    List Token → List Token → Except Failure (List Expr × List Token)
  | _, [] => .error .missingCloseParenthesis
  | _, .closeParenthesis :: rest => .ok ([.omitted], rest)
  | _ :: steps, .comma :: rest => do
      let (others, after) ← arguments argument steps rest
      return (.omitted :: others, after)
  | _ :: steps, .semicolon :: rest => do
      let (others, after) ← arguments argument steps rest
      return (.omitted :: others, after)
  | _ :: steps, tokens => do
      let (first, afterFirst) ← argument tokens
      match afterFirst with
      | [] => throw .missingCloseParenthesis
      | .closeParenthesis :: rest => return ([first], rest)
      | .comma :: rest | .semicolon :: rest => do
          let (others, after) ← arguments argument steps rest
          return (first :: others, after)
      | remaining => throw (.unexpected remaining)
  | [], _ => .error .exhausted

/-- Reads a call, after its opening parenthesis. -/
def call (function : Text) (argument : Reader) : List Token → Except Failure (Expr × List Token)
  | .closeParenthesis :: rest => .ok (.call function [], rest)
  | tokens => do
      let (values, rest) ← arguments argument tokens tokens
      return (.call function values, rest)

/-- An item put in front of the first row. -/
def consItem (item : Expr) : List (List Expr) → List (List Expr)
  | [] => [[item]]
  | row :: rows => (item :: row) :: rows

/-- Reads the rows of an array constant up to its closing brace. -/
def arrayRows (item : Reader) :
    List Token → List Token → Except Failure (List (List Expr) × List Token)
  | _ :: steps, tokens => do
      let (first, afterFirst) ← item tokens
      match afterFirst with
      | [] => throw .endOfTokens
      | .closeBrace :: rest => return ([[first]], rest)
      | .comma :: rest => do
          let (rows, after) ← arrayRows item steps rest
          return (consItem first rows, after)
      | .semicolon :: rest => do
          let (rows, after) ← arrayRows item steps rest
          return ([first] :: rows, after)
      | remaining => throw (.unexpected remaining)
  | [], _ => .error .exhausted

/-- Reads an array constant whose brace comes first. -/
def array (item : Reader) (tokens : List Token) : Except Failure (Expr × List Token) := do
  let (rows, rest) ← arrayRows item tokens tokens.tail
  return (.array rows, rest)

/-! ## Operands -/

/-- Reads a single operand, given the reader of operands inside one more bracket, if the budget
allows one. -/
def operandWith (signs : Nat) (inner : Option Reader) : Reader
  | [] => .error .endOfTokens
  | .text content :: rest => .ok (.text content, rest)
  | .error literal :: rest => .ok (.error literal, rest)
  | .qualifier sheet :: rest => qualifiedReference sheet rest
  | .identifier name :: .openParenthesis :: rest =>
      match inner with
      | some operand => call name (expression signs operand) rest
      | none => .error .exhausted
  | .identifier name :: rest => bareIdentifier name rest
  | .openParenthesis :: rest =>
      match inner with
      | some operand => group (expression signs operand) rest
      | none => .error .exhausted
  | .openBrace :: rest =>
      match inner with
      | some operand => array (signed signs operand) (.openBrace :: rest)
      | none => .error .exhausted
  | .number value :: rest => do
      match ← reference none (.number value :: rest) with
      | some found => return found
      | none => return (.number value, rest)
  | .cell address columnAbsolute rowAbsolute :: rest => do
      match ← reference none (.cell address columnAbsolute rowAbsolute :: rest) with
      | some found => return found
      | none => throw (.unexpected (.cell address columnAbsolute rowAbsolute :: rest))
  | tokens => .error (.unexpected tokens)

/-- Reads a single operand inside which so many brackets may be open. -/
def operand (signs : Nat) : Nat → Reader
  | 0 => operandWith signs none
  | brackets + 1 => operandWith signs (some (operand signs brackets))

end Descent

open Descent in
/-- Reads an expression at the start of the tokens, within a budget. -/
def descend (budget : Budget) : Reader :=
  expression budget.signs (operand budget.signs budget.brackets)

end SheetEditor.Formula
