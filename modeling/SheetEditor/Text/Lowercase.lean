import SheetEditor.Text.Basic
import SheetEditor.Text.CaseTable

/-!
Contract: the full lower-case map of a text.

Owns: the lower-case form of each character, and the one rule that looks at the
neighbours of a character: a capital sigma that ends a word becomes the final
sigma, any other one the ordinary small sigma.

Does not own: the data (`SheetEditor.Text.CaseTable`).
-/

namespace SheetEditor

namespace CaseTable

def Run.image? (run : Run) (code : Nat) : Option Nat :=
  if run.first ≤ code && code ≤ run.last && (code - run.first) % run.step = 0 then
    some (run.image + (code - run.first))
  else none

def covers (ranges : List (Nat × Nat)) (code : Nat) : Bool :=
  ranges.any fun range => range.1 ≤ code && code ≤ range.2

end CaseTable

def isCased (character : Char) : Bool :=
  CaseTable.covers CaseTable.casedRanges character.toNat

/-- Whether a character is skipped when looking for a cased neighbour. -/
def isCaseIgnorable (character : Char) : Bool :=
  CaseTable.covers CaseTable.caseIgnorableRanges character.toNat

/-- Lower-case form of a character taken alone. The capital I with a dot keeps its dot as a
combining mark of its own. -/
def lowercaseForm (character : Char) : Text :=
  if character.toNat < 128 then [character.toLower]
  else if character.toNat = 0x130 then ['i', Char.ofNat 0x307]
  else
    match CaseTable.lowercaseRuns.findSome? (·.image? character.toNat) with
    | some image => [Char.ofNat image]
    | none => [character]

/-- Whether the first character that is not case-ignorable has letter case. -/
def casedBeyondIgnorable (characters : Text) : Bool :=
  match characters.dropWhile isCaseIgnorable with
  | [] => false
  | character :: _ => isCased character

namespace Text

/-- Lower-case form of the characters that follow `before`, which is read backwards. -/
def lowercaseAfter : Text → Text → Text
  | _, [] => []
  | before, character :: following =>
      let form :=
        if character = 'Σ' then
          if casedBeyondIgnorable before && !casedBeyondIgnorable following then ['ς'] else ['σ']
        else lowercaseForm character
      form ++ lowercaseAfter (character :: before) following

def lowercase (text : Text) : Text := lowercaseAfter [] text

end Text

end SheetEditor
