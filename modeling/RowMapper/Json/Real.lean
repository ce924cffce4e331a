import RowMapper.Json.Basic

/-!
# `RowMapper.Json.Real`: the floating-point numbers of documents

The numeral of a document is not rounded as a whole. Its digits are read as an integer of 64 bits,
those that no longer fit are left out (`takeDigits`), the integer is rounded to a floating-point
number, and this is multiplied or divided by a power of ten, which is rounded itself (`scaleTen?`).
So the number may be the neighbour of the one that is nearest to the numeral. A number of more than
308 digits is out of reach.
-/

set_option autoImplicit false

namespace RowMapper.Json

open RowMapper.Number

/-- Appends digits to a number up to the first that does not fit into 64 bits; the number and the
digits that are left. -/
def takeDigits (n : Nat) : List Char → Nat × List Char
  | [] => (n, [])
  | digit :: rest =>
    let next := Nat.ofDigitChars 10 [digit] n
    if next < 0x10000000000000000 then takeDigits next rest else (n, digit :: rest)

/-- The greatest power of ten that is a floating-point number. -/
def maxPower : Nat := 308

/-- A power of ten, rounded. -/
def powerOfTen (exponent : Nat) : Binary64 :=
  .ofDecimal false 1 exponent

/-- The number times a power of ten, none if that is out of reach. -/
def scaleTen? (x : Binary64) (exponent : Int) : Option Binary64 :=
  if exponent.natAbs ≤ maxPower then
    if 0 ≤ exponent then
      let product := x.times (powerOfTen exponent.natAbs)
      if product.isInfinite then none else some product
    else some (x.dividedBy (powerOfTen exponent.natAbs))
  else if x.isZero then some x
  else if 0 ≤ exponent then none
  -- Below the least power the number is divided more than once, and rounded each time.
  else scaleTen? (x.dividedBy (powerOfTen maxPower)) (exponent + maxPower)
termination_by exponent.natAbs
decreasing_by
  unfold maxPower at *
  omega

/-- The floating-point number of a numeral, none if it is out of reach. -/
def realOf? (negative : Bool) (numeral : Numeral) : Option Binary64 :=
  let (integer, beyond) := takeDigits 0 numeral.whole
  let fraction := numeral.fraction.getD []
  -- The fraction may still have a digit that fits where the whole digits had none.
  let (significand, rest) := takeDigits integer fraction
  let exponent : Int := beyond.length - (fraction.length - rest.length : Nat) + numeral.power
  (scaleTen? (.ofInteger significand) exponent).map fun x => .ofMagnitude negative x.magnitude

end RowMapper.Json
