import SheetEditor.Numeric.BinaryFormat

/-!
Contract: the colours of reference highlights.

Owns: colours with channels between zero and one, their conversion from
hexadecimal notation, and the palette that highlights go through in turn.
-/

namespace SheetEditor

/-- A single-precision number, as its bit pattern. -/
structure Binary32 where
  bits : UInt32
deriving DecidableEq, Repr, Inhabited

/-- A colour; each channel is between zero and one. -/
structure Colour where
  red : Binary32
  green : Binary32
  blue : Binary32
  alpha : Binary32
deriving DecidableEq, Repr, Inhabited

namespace Colour

def channelMaximum : Nat := 255

/-- The single-precision number nearest to a channel's share of its maximum. -/
def channel (value : Nat) : Binary32 :=
  ⟨UInt32.ofNat (BinaryFormat.binary32.nearestPattern value channelMaximum)⟩

/-- The opaque colour written `0xRRGGBB`; higher digits are ignored. -/
def ofHex (code : Nat) : Colour :=
  ⟨channel (code / 65536 % 256), channel (code / 256 % 256), channel (code % 256),
    channel channelMaximum⟩

end Colour

namespace Palette

/-- The colours of highlights, in the order in which references get them. -/
def codes : List Nat :=
  [0x4472C4, 0xED7D31, 0x9B59B6, 0x70AD47, 0x00B0F0, 0xFFC000, 0xFF6B9D, 0x00B294]

def size : Nat := codes.length

/-- The colour of an index; past the last colour the palette starts again. -/
def colour (index : Nat) : Colour := .ofHex (codes.getD (index % size) 0)

end Palette

end SheetEditor
