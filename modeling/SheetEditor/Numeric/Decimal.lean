import SheetEditor.Numeric.Binary64
import SheetEditor.Text.Basic

/-!
Contract: decimal number literals and the double-precision numbers they denote.

Owns: the grammar of number literals (an optional sign, then digits with at most
one point and at least one digit and an optional exponent, or a word for an
infinity or for not-a-number in any letter case), and the correctly rounded
value of a literal.

Does not own: which part of a longer text is scanned as a literal.
-/

namespace SheetEditor

-- `^` is the power of the core library here, whatever else is imported.
attribute [local instance (2000)] instPowNat

/-- The decimal `coefficient · 10 ^ exponent`. -/
structure Decimal where
  coefficient : Nat
  exponent : Int
deriving DecidableEq, Repr

namespace Decimal

def splitSign : Text → Bool × Text
  | '-' :: rest => (true, rest)
  | '+' :: rest => (false, rest)
  | text => (false, text)

/-- The value of the exponent part that follows the digits of a literal. -/
def readExponent? : Text → Option Int
  | [] => some 0
  | mark :: rest =>
      if mark = 'e' || mark = 'E' then
        let (negative, digits) := splitSign rest
        if digits ≠ [] && digits.all Char.isDigit then
          some (if negative then -(Text.digitsValue digits : Int) else Text.digitsValue digits)
        else none
      else none

/-- Number of characters of an exponent part at the start of a text. -/
def exponentLength : Text → Nat
  | [] => 0
  | mark :: rest =>
      if mark = 'e' || mark = 'E' then
        let sign := if rest.head?.any (fun next => next = '+' || next = '-') then 1 else 0
        let digits := (rest.drop sign).takeWhile Char.isDigit
        if digits = [] then 0 else 1 + sign + digits.length
      else 0

/-- The digits after the point, if a point comes next, and what follows them. -/
def splitFraction : Text → Text × Text
  | '.' :: rest => rest.span Char.isDigit
  | text => ([], text)

def read? (text : Text) : Option Decimal :=
  let (whole, afterWhole) := text.span Char.isDigit
  let (fraction, afterFraction) := splitFraction afterWhole
  let digits := whole ++ fraction
  if digits = [] then none
  else (readExponent? afterFraction).map fun exponent =>
    ⟨Text.digitsValue digits, exponent - fraction.length⟩

/-- No number of a smaller decimal magnitude rounds to anything but zero. -/
def underflowExponent : Int := -400

/-- Every number of a greater decimal magnitude rounds to infinity. -/
def overflowExponent : Int := 400

/-- Pattern of the double-precision number nearest to a decimal.

A decimal of extreme magnitude is decided by the exponent of its leading digit, so that no power
of ten is formed that its value does not need. -/
def pattern (decimal : Decimal) : Nat :=
  let leading := decimal.exponent + (Nat.toDigits 10 decimal.coefficient).length
  if decimal.coefficient = 0 || leading < underflowExponent then 0
  else if overflowExponent < leading then BinaryFormat.binary64.infinityPattern
  else
    BinaryFormat.binary64.nearestPattern (decimal.coefficient * 10 ^ decimal.exponent.toNat)
      (10 ^ (-decimal.exponent).toNat)

end Decimal

namespace Binary64

/-- The pattern that a word denotes: an infinity or the quiet NaN. -/
def wordPattern? (word : Text) : Option Nat :=
  let spelled := word.upper
  if spelled = "INF".toList || spelled = "INFINITY".toList then
    some BinaryFormat.binary64.infinityPattern
  else if spelled = "NAN".toList then some (BinaryFormat.binary64.infinityPattern + 2 ^ (51 : Nat))
  else none

def read? (text : Text) : Option Binary64 :=
  let (negative, unsigned) := Decimal.splitSign text
  match wordPattern? unsigned with
  | some pattern => some (ofPattern negative pattern)
  | none => (Decimal.read? unsigned).map fun decimal => ofPattern negative decimal.pattern

end Binary64

end SheetEditor
