import RowMapper.Number.Binary64

/-!
# `RowMapper.Number.Shortest`: the fewest digits that read back

The shortest decimal of a finite positive number `significand · 2 ^ scale` is, among the decimals
that round to this number and not to a neighbour, one with the fewest digits, and of these the
nearest. Grids of ever finer decimal places are tried in turn: on each, only the two neighbours of
the number can be nearest, so these two are tested, and the first grid with a hit wins.
-/

set_option autoImplicit false

namespace RowMapper.Number

/-- What to do when two decimals of the same length are equally near. -/
inductive Tie where
  | toEven
  | up
deriving DecidableEq

/-- The decimal `digits · 10 ^ exponent`. -/
structure Decimal where
  digits : Nat
  exponent : Int
deriving DecidableEq

namespace Binary64

/-- The reals that round to a number: those from `low / den` to `high / den` around `mid / den`,
the ends included when `closed`. -/
structure RoundingInterval where
  low : Nat
  mid : Nat
  high : Nat
  den : Nat
  closed : Bool

/-- The rounding interval of a finite positive number, in quarters of its last place: half a place
to either side, but only a quarter below a power of two, where the places below are half as wide.
The ends round to an even significand. -/
def roundingInterval (x : Binary64) : RoundingInterval :=
  let m := 4 * x.significand
  let low := if x.fractionField = 0 ∧ 1 < x.exponentField then m - 1 else m - 2
  let quarter := x.scale - 2
  let up := twoTo quarter.toNat
  ⟨low * up, m * up, (m + 2) * up, twoTo (-quarter).toNat, x.significand % 2 == 0⟩

/-- Whether `count / unit` lies in the interval; `unit` is the inverse width of a grid. -/
def RoundingInterval.holds (interval : RoundingInterval) (count : Nat) : Bool :=
  let point := count * interval.den
  if interval.closed then interval.low ≤ point && point ≤ interval.high
  else interval.low < point && point < interval.high

/-- The interval with ten to this power as the unit. -/
def RoundingInterval.inUnits (interval : RoundingInterval) (exponent : Int) : RoundingInterval :=
  let down := tenTo (-exponent).toNat
  { interval with
    low := interval.low * down
    mid := interval.mid * down
    high := interval.high * down
    den := interval.den * tenTo exponent.toNat }

/-- The nearest integer to the middle of the interval that lies in it, if one does. -/
def RoundingInterval.nearest? (tie : Tie) (interval : RoundingInterval) : Option Nat :=
  let below := interval.mid / interval.den
  let above := below + 1
  match interval.holds below, interval.holds above with
  | false, false => none
  | true, false => some below
  | false, true => some above
  | true, true =>
    -- Both neighbours round to the number, so the nearer one is taken.
    let twice := 2 * interval.mid
    let halfway := (below + above) * interval.den
    if twice < halfway then some below
    else if halfway < twice then some above
    else match tie with
      | .up => some above
      | .toEven => some (if below % 2 = 0 then below else above)

/-- The exponent of the leading digit of `num / den`: the `e` with
`10 ^ e ≤ num / den < 10 ^ (e + 1)`. -/
def leadingExponent (num den : Nat) : Int :=
  if den ≤ num then ((Nat.toDigits 10 (num / den)).length : Int) - 1
  else
    -- Below one, only a power of ten itself has its leading digit at the higher place.
    let places := (Nat.toDigits 10 (den / num)).length
    if num * tenTo (places - 1) = den then 1 - places else -places

/-- Tries the grids from this place downwards, as many as given. -/
def searchGrids (tie : Tie) (interval : RoundingInterval) : Nat → Int → Option Decimal
  | 0, _ => none
  | grids + 1, place =>
    match (interval.inUnits place).nearest? tie with
    | some digits => some ⟨digits, place⟩
    | none => searchGrids tie interval grids (place - 1)

/-- The decimal without the zeros at its end; each step takes one of the at most `fuel` digits. -/
def dropZeros : Nat → Decimal → Decimal
  | 0, decimal => decimal
  | fuel + 1, decimal =>
    if decimal.digits ≠ 0 ∧ decimal.digits % 10 = 0 then
      dropZeros fuel ⟨decimal.digits / 10, decimal.exponent + 1⟩
    else decimal

/-- The shortest decimal of the magnitude of a finite number other than zero. Seventeen digits
always suffice. -/
def shortest (tie : Tie) (x : Binary64) : Decimal :=
  let interval := x.roundingInterval
  match searchGrids tie interval 17 (leadingExponent interval.mid interval.den) with
  | some decimal => dropZeros 18 decimal
  | none => ⟨0, 0⟩

end Binary64

end RowMapper.Number
