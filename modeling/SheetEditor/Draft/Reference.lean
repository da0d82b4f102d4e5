import SheetEditor.Draft.Token
import SheetEditor.Grid.Range
import SheetEditor.Palette

/-!
Contract: what the references in a draft mean.

Owns: the qualifier of a written reference, the cells that a reference covers,
and the references of a draft with the colours of their highlights.

Whole columns, whole rows, a qualifier alone and cells outside the sheet do not
resolve. A reference that does not resolve takes no colour.
-/

namespace SheetEditor.Draft

/-- A resolved reference: the cells it covers and the sheet it names, if it names one. -/
structure Target where
  range : CellRange
  sheet : Option Text
deriving DecidableEq, Repr, Inhabited

/-- The sheet name before the exclamation mark of a reference, and the text after it. Nothing if
the qualifier is malformed. -/
def splitQualifier? : Text → Option (Option Text × Text)
  | [] => some (none, [])
  | first :: following =>
      if first = SheetName.quote then do
        let (name, count) ← Text.readQuoted? SheetName.quote following
        match following.drop count with
        | '!' :: rest => if name = [] then none else some (some name, rest)
        | _ => none
      else
        let (name, rest) := (first :: following).span (· ≠ '!')
        match rest with
        | '!' :: area => if name = [] then none else some (some name, area)
        | _ => some (none, first :: following)

namespace Target

/-- The cells of a written area that is one cell or two cells around a colon. -/
def rangeOf? (area : Text) : Option CellRange := do
  let (first, rest) ← WrittenCell.read? area
  match rest with
  | [] => first.address?.map .single
  | ':' :: afterColon => do
      let (second, afterSecond) ← WrittenCell.read? afterColon
      if afterSecond = [] then some ⟨← first.address?, ← second.address?⟩ else none
  | _ => none

def ofText? (text : Text) : Option Target := do
  let (sheet, area) ← splitQualifier? text
  let range ← rangeOf? area
  some ⟨range, sheet⟩

end Target

/-- A resolved reference at its place in a draft, with the index of its colour. -/
structure Reference where
  target : Target
  start : Nat
  stop : Nat
  colour : Nat
deriving DecidableEq, Repr, Inhabited

namespace Reference

/-- The references among tokens, given how many were found before them. -/
def ofTokensFrom (found : Nat) : List Token → List Reference
  | [] => []
  | token :: rest =>
      if token.kind = .reference then
        match Target.ofText? token.text with
        | some target =>
            ⟨target, token.start, token.stop, found % Palette.size⟩ ::
              ofTokensFrom (found + 1) rest
        | none => ofTokensFrom found rest
      else ofTokensFrom found rest

def ofTokens (tokens : List Token) : List Reference := ofTokensFrom 0 tokens

end Reference

end SheetEditor.Draft
