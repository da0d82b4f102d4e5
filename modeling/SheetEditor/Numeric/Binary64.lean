import SheetEditor.Numeric.BinaryFormat

/-!
Contract: double-precision numbers as their 64-bit patterns.

Owns: the type of numbers of cells and formulas, the tests on its patterns, its
equality as numbers, and its view as a whole number.

Does not own: reading decimal text (`SheetEditor.Numeric.Decimal`) and printing
(`SheetEditor.Numeric.Shortest`).
-/

namespace SheetEditor

-- `^` is the power of the core library here, whatever else is imported.
attribute [local instance (2000)] instPowNat

/-- A double-precision number. Two numbers are equal as values of this type when their
patterns are. -/
structure Binary64 where
  bits : UInt64
deriving DecidableEq, Repr, Inhabited

namespace Binary64

def ofPattern (negative : Bool) (magnitude : Nat) : Binary64 :=
  ⟨UInt64.ofNat (if negative then BinaryFormat.binary64.signWeight + magnitude else magnitude)⟩

def isNegative (number : Binary64) : Bool :=
  BinaryFormat.binary64.signWeight ≤ number.bits.toNat

def magnitudePattern (number : Binary64) : Nat :=
  number.bits.toNat % BinaryFormat.binary64.signWeight

/-- Neither an infinity nor a NaN. -/
def isFinite (number : Binary64) : Bool :=
  number.magnitudePattern < BinaryFormat.binary64.infinityPattern

def isNaN (number : Binary64) : Bool :=
  BinaryFormat.binary64.infinityPattern < number.magnitudePattern

/-- The magnitude of a finite number as `significand · 2 ^ exponent`. -/
def magnitude (number : Binary64) : Nat × Int :=
  BinaryFormat.binary64.magnitudeOf number.magnitudePattern

/-- Equality as numbers: the two zeros are equal, and a NaN equals nothing. -/
def numericallyEqual (left right : Binary64) : Bool :=
  !left.isNaN && !right.isNaN &&
    (left == right || (left.magnitudePattern == 0 && right.magnitudePattern == 0))

/-- The magnitude of a finite number that has no fractional part. -/
def wholeMagnitude? (number : Binary64) : Option Nat :=
  if number.isFinite then
    let (significand, exponent) := number.magnitude
    let unit := 2 ^ (-exponent).toNat
    if significand % unit = 0 then some (significand * 2 ^ exponent.toNat / unit) else none
  else none

/-- The whole number that a number is, if it has no fractional part. -/
def wholeNumber? (number : Binary64) : Option Int :=
  number.wholeMagnitude?.map fun size => if number.isNegative then -(size : Int) else size

end Binary64

end SheetEditor
