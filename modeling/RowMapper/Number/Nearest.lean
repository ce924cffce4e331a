import RowMapper.Number.Binary64

/-!
# `RowMapper.Number.Nearest`: rounding to the nearest floating-point number

`Binary64.ofRatio` rounds a quotient of two natural numbers to the nearest number of the format,
and to the one with the even significand when two are equally near. `ofDecimal` and `ofInteger` use
it, and `times` and `dividedBy` are the product and the quotient that are rounded so. All arithmetic
is exact, and only the last quotient is rounded.
-/

set_option autoImplicit false

namespace RowMapper.Number.Binary64

/-- The quotient rounded to the nearest natural number, a half to the even neighbour. -/
def roundHalfEven (num den : Nat) : Nat :=
  let floor := num / den
  let twice := 2 * (num % den)
  if twice < den then floor
  else if den < twice then floor + 1
  else if floor % 2 = 0 then floor else floor + 1

/-- A ratio times a power of two, as a ratio. -/
def scaleRatio (num den : Nat) (exponent : Int) : Nat × Nat :=
  if 0 ≤ exponent then (num * twoTo exponent.toNat, den) else (num, den * twoTo (-exponent).toNat)

/-- The `e` with `2 ^ e ≤ num / den < 2 ^ (e + 1)`, for positive `num` and `den`. -/
def binaryExponent (num den : Nat) : Int :=
  -- The lengths in bits leave two exponents; the guess is the greater one.
  let guess : Int := num.log2 - den.log2
  let (n, d) := scaleRatio num den (-guess)
  if d ≤ n then guess else guess - 1

/-- The number nearest to `num / den`, with the given sign. The unit of the last place is chosen
first; the rounded count of units, added to the bits of the place, carries into the exponent by
itself when it overflows the significand. -/
def ofRatio (negative : Bool) (num den : Nat) : Binary64 :=
  if num = 0 then zero negative
  else
    -- Fifty-three bits from the leading one, or fewer where the format has no finer place.
    let unit := max (binaryExponent num den - 52) (-1074)
    let (n, d) := scaleRatio num den (-unit)
    let magnitude := (unit + 1074).toNat * 0x10000000000000 + roundHalfEven n d
    if magnitude < infiniteMagnitude then ofMagnitude negative magnitude else infinity negative

/-- The number nearest to `digits · 10 ^ exponent`. Exponents far outside the format are settled
without raising ten to them: at `10 ^ 310` and above all numbers round to infinity, and below
`10 ^ (-325)` to zero. -/
def ofDecimal (negative : Bool) (digits : Nat) (exponent : Int) : Binary64 :=
  if digits = 0 then zero negative
  else if 310 ≤ exponent then infinity negative
  else if exponent + digits.log2 + 1 < -325 then zero negative
  else if 0 ≤ exponent then ofRatio negative (digits * tenTo exponent.toNat) 1
  else ofRatio negative digits (tenTo (-exponent).toNat)

/-- The number nearest to an integer. -/
def ofInteger (i : Int) : Binary64 :=
  ofRatio (decide (i < 0)) i.natAbs 1

/-- The size of a finite number as a ratio. -/
def ratio (x : Binary64) : Nat × Nat :=
  scaleRatio x.significand 1 x.scale

/-- The product of the sizes of two finite numbers, rounded. -/
def times (x y : Binary64) : Binary64 :=
  ofRatio false (x.ratio.1 * y.ratio.1) (x.ratio.2 * y.ratio.2)

/-- The quotient of the sizes of two finite numbers, rounded. -/
def dividedBy (x y : Binary64) : Binary64 :=
  ofRatio false (x.ratio.1 * y.ratio.2) (x.ratio.2 * y.ratio.1)

end RowMapper.Number.Binary64
