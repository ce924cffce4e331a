import RowMapper.Number.Power

/-!
# `RowMapper.Number.Binary64`: binary floating-point numbers

A `Binary64` is a number of the binary64 format, held as its 64 bits: a sign, eleven bits of
exponent and 52 of fraction. A finite one is `± significand · 2 ^ scale`, and all that is asked of
it (comparison, integer part, decimal text) is computed from these two integers, so that each
answer is exact and can be reasoned about.

* `same` and `less` compare as floating-point numbers do: a NaN equals nothing, the two zeros are
  equal. Telling two numbers apart by their bits is `=`.
* `truncate` drops the fraction; `isIntegral` says whether there is one.
-/

set_option autoImplicit false

namespace RowMapper.Number

/-- A number of the binary64 format. -/
structure Binary64 where
  bits : UInt64
deriving DecidableEq

namespace Binary64

/-- Whether the sign bit is set. -/
def isNegative (x : Binary64) : Bool :=
  0x8000000000000000 ≤ x.bits.toNat

/-- The bits below the sign. -/
def magnitude (x : Binary64) : Nat :=
  x.bits.toNat % 0x8000000000000000

/-- The eleven bits of the exponent as they are stored. -/
def exponentField (x : Binary64) : Nat :=
  x.magnitude / 0x10000000000000

/-- The fraction bits as they are stored. -/
def fractionField (x : Binary64) : Nat :=
  x.magnitude % 0x10000000000000

/-- The magnitude of the infinities. -/
def infiniteMagnitude : Nat := 0x7FF0000000000000

/-- The number with this sign and these bits below it. -/
def ofMagnitude (negative : Bool) (magnitude : Nat) : Binary64 :=
  ⟨UInt64.ofNat (if negative then 0x8000000000000000 + magnitude else magnitude)⟩

/-- The infinity of either sign. -/
def infinity (negative : Bool) : Binary64 :=
  ofMagnitude negative infiniteMagnitude

/-- A number that is none. -/
def nan : Binary64 :=
  ofMagnitude false (infiniteMagnitude + 0x8000000000000)

/-- The zero of either sign. -/
def zero (negative : Bool) : Binary64 :=
  ofMagnitude negative 0

/-- Whether this is no number at all. -/
def isNaN (x : Binary64) : Bool :=
  infiniteMagnitude < x.magnitude

/-- Whether this is one of the two infinities. -/
def isInfinite (x : Binary64) : Bool :=
  x.magnitude == infiniteMagnitude

/-- Whether this is one of the two zeros. -/
def isZero (x : Binary64) : Bool :=
  x.magnitude == 0

/-- The integer that a finite number scales by a power of two. A stored exponent of zero marks a
number without the leading one. -/
def significand (x : Binary64) : Nat :=
  if x.exponentField = 0 then x.fractionField else 0x10000000000000 + x.fractionField

/-- The power of two by which the significand is scaled. -/
def scale (x : Binary64) : Int :=
  (max x.exponentField 1 : Nat) - 1075

/-- The place of a number in the order of all: the magnitudes grow with the numbers, and both zeros
are at the origin. -/
def orderKey (x : Binary64) : Int :=
  if x.isNegative then -(x.magnitude : Int) else x.magnitude

/-- Equality of floating-point numbers. -/
def same (x y : Binary64) : Bool :=
  !x.isNaN && !y.isNaN && x.orderKey == y.orderKey

/-- The order of floating-point numbers; a NaN is not comparable. -/
def less (x y : Binary64) : Bool :=
  !x.isNaN && !y.isNaN && x.orderKey < y.orderKey

/-- The magnitude of a finite number without its fraction. -/
def wholePart (x : Binary64) : Nat :=
  if 0 ≤ x.scale then x.significand * twoTo x.scale.toNat
  else x.significand / twoTo (-x.scale).toNat

/-- A finite number without its fraction. -/
def truncate (x : Binary64) : Int :=
  if x.isNegative then -(x.wholePart : Int) else x.wholePart

/-- Whether this is a finite number without a fraction. -/
def isIntegral (x : Binary64) : Bool :=
  x.magnitude < infiniteMagnitude &&
    (0 ≤ x.scale || x.significand % twoTo (-x.scale).toNat == 0)

end Binary64

end RowMapper.Number
