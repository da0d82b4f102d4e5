import SheetEditor.Numeric.Binary64
import SheetEditor.Text.Basic

/-!
Contract: the shortest decimal text of a double-precision number.

Owns: the decimal with the fewest digits that rounds to a given number, the
nearest one of those, and its positional text.

The numbers that round to `m · 2 ^ q` form an interval around it. On the grid of
multiples of `10 ^ k` only the two neighbours of the number can be the nearest
point of the grid inside the interval, so it is enough to try them for one `k`
after the other, from coarse to fine.
-/

namespace SheetEditor

-- `^` is the power of the core library here, whatever else is imported.
attribute [local instance (2000)] instPowNat

/-- The positive numbers that round to one number, in units of `2 ^ exponent`: the number
itself, the ends of the interval, and whether the ends belong to it. -/
structure RoundingInterval where
  low : Nat
  center : Nat
  high : Nat
  exponent : Int
  closed : Bool
deriving DecidableEq, Repr

namespace RoundingInterval

/-- The interval around a positive finite number. Its lower end is twice as near where the
spacing of the numbers doubles; the ends round to the number when its significand is even. -/
def around (number : Binary64) : RoundingInterval :=
  let (significand, exponent) := number.magnitude
  let atDoubling := significand = 2 ^ (52 : Nat) && exponent ≠ BinaryFormat.binary64.leastExponent
  ⟨if atDoubling then 4 * significand - 1 else 4 * significand - 2, 4 * significand,
    4 * significand + 2, exponent - 2, significand % 2 = 0⟩

/-- Whether `numerator / denominator`, in the units of the interval, lies in the interval. -/
def contains (interval : RoundingInterval) (numerator denominator : Nat) : Bool :=
  if interval.closed then
    interval.low * denominator ≤ numerator && numerator ≤ interval.high * denominator
  else interval.low * denominator < numerator && numerator < interval.high * denominator

/-- The multiple of `10 ^ power` in the interval that is nearest to its center, as the count of
powers; of two equally near ones the greater. -/
def nearestMultiple? (interval : RoundingInterval) (power : Int) : Option Nat :=
  let scale := 2 ^ (-interval.exponent).toNat * 10 ^ power.toNat
  let unit := 2 ^ interval.exponent.toNat * 10 ^ (-power).toNat
  let below := interval.center * unit / scale
  let remainder := interval.center * unit % scale
  let above := below + 1
  let belowInside := 0 < below && interval.contains (below * scale) unit
  let aboveInside := interval.contains (above * scale) unit
  if belowInside && (!aboveInside || 2 * remainder < scale) then some below
  else if aboveInside then some above
  else none

/-- The first hit on the grids of `10 ^ power`, `10 ^ (power - 1)`, …, at most `count` of them,
with its power of ten. -/
def firstMultiple? (interval : RoundingInterval) : Nat → Int → Option (Nat × Int)
  | 0, _ => none
  | count + 1, power =>
      match interval.nearestMultiple? power with
      | some multiple => some (multiple, power)
      | none => firstMultiple? interval count (power - 1)

end RoundingInterval

namespace Binary64

/-- The decimal with the fewest digits that rounds to a positive finite number, as digits and
the power of ten of the last one.

The search begins above the number and reaches its last binary place, on whose decimal grid the
number itself lies. -/
def shortestDecimal (number : Binary64) : Nat × Int :=
  let interval := RoundingInterval.around number
  let start : Int := if 0 ≤ interval.exponent then
      (Nat.toDigits 10 (interval.high * 2 ^ interval.exponent.toNat)).length
    else (Nat.toDigits 10 (interval.high / 2 ^ (-interval.exponent).toNat)).length
  let count := (start - min interval.exponent 0).toNat + 1
  (interval.firstMultiple? count start).getD (0, 0)

/-- Positional text of `digits · 10 ^ power`, with a leading zero before a bare point. -/
def positional (digits : Nat) (power : Int) : Text :=
  let written := Nat.toDigits 10 digits
  if 0 ≤ power then written ++ List.replicate power.toNat '0'
  else
    let places := (-power).toNat
    let padded := List.replicate (places + 1 - written.length) '0' ++ written
    padded.take (padded.length - places) ++ '.' :: padded.drop (padded.length - places)

/-- Text of a number without an exponent: the fewest digits that read back as the number. -/
def shortestText (number : Binary64) : Text :=
  if number.isNaN then "NaN".toList
  else
    let unsigned :=
      if !number.isFinite then "inf".toList
      else if number.magnitudePattern = 0 then ['0']
      else
        let (digits, power) := number.shortestDecimal
        positional digits power
    if number.isNegative then '-' :: unsigned else unsigned

end Binary64

end SheetEditor
