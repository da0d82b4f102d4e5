/-!
Contract: binary interchange formats and correct rounding into them.

Owns: the layout of a format (sign, exponent field, fraction field), and the
nearest pattern to a nonnegative rational number, a tie going to the even
neighbour. Rationals too large for the format round to its infinity.

Does not own: the two formats in use as types of numbers
(`SheetEditor.Numeric.Binary64`, `SheetEditor.Palette`).
-/

namespace SheetEditor

-- `^` is the power of the core library here, whatever else is imported.
attribute [local instance (2000)] instPowNat

/-- A binary format, given by the widths of its exponent field and its fraction field. -/
structure BinaryFormat where
  exponentBits : Nat
  fractionBits : Nat
deriving DecidableEq, Repr

namespace BinaryFormat

/-- The format with 11 bits of exponent and 52 bits of fraction. -/
def binary64 : BinaryFormat := ⟨11, 52⟩

/-- The format with 8 bits of exponent and 23 bits of fraction. -/
def binary32 : BinaryFormat := ⟨8, 23⟩

/-- The weight of the last place of the least numbers of the format is two to this power. -/
def leastExponent (format : BinaryFormat) : Int :=
  2 - (2 : Int) ^ (format.exponentBits - 1) - format.fractionBits

def infinityPattern (format : BinaryFormat) : Nat :=
  (2 ^ format.exponentBits - 1) * 2 ^ format.fractionBits

def signWeight (format : BinaryFormat) : Nat :=
  2 ^ (format.exponentBits + format.fractionBits)

/-- The magnitude of a pattern below infinity as a whole number of units `2 ^ exponent`: the
pattern's significand and that exponent. -/
def magnitudeOf (format : BinaryFormat) (pattern : Nat) : Nat × Int :=
  let field := pattern / 2 ^ format.fractionBits
  let fraction := pattern % 2 ^ format.fractionBits
  if field = 0 then (fraction, format.leastExponent)
  else (2 ^ format.fractionBits + fraction, format.leastExponent + (field - 1 : Nat))

end BinaryFormat

/-! ## Rounding -/

/-- The whole number nearest to a quotient; a tie goes to the even neighbour. -/
def roundHalfEven (numerator denominator : Nat) : Nat :=
  let quotient := numerator / denominator
  let twice := 2 * (numerator % denominator)
  if twice < denominator || (twice = denominator && quotient % 2 = 0) then quotient
  else quotient + 1

/-- The quotient `numerator / denominator / base ^ exponent` as a numerator and a denominator. -/
def scaleDown (base : Nat) (exponent : Int) (numerator denominator : Nat) : Nat × Nat :=
  (numerator * base ^ (-exponent).toNat, denominator * base ^ exponent.toNat)

/-- The greatest exponent whose power of two is at most the quotient of two positive numbers. -/
def binaryExponent (numerator denominator : Nat) : Int :=
  let estimate : Int := (numerator.log2 : Int) - denominator.log2
  let scaled := scaleDown 2 estimate numerator denominator
  if scaled.1 < scaled.2 then estimate - 1 else estimate

namespace BinaryFormat

/-- Pattern of the number of the format that is nearest to `numerator / denominator`.

The significand is the quotient in units of the last place, rounded; a significand that rounds
up to the next power of two carries into the exponent field by itself. -/
def nearestPattern (format : BinaryFormat) (numerator denominator : Nat) : Nat :=
  if numerator = 0 then 0
  else
    let exponent := max (binaryExponent numerator denominator - format.fractionBits)
      format.leastExponent
    let scaled := scaleDown 2 exponent numerator denominator
    let pattern := (exponent - format.leastExponent).toNat * 2 ^ format.fractionBits +
      roundHalfEven scaled.1 scaled.2
    min pattern format.infinityPattern

end BinaryFormat

end SheetEditor
