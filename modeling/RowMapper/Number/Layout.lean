import RowMapper.Number.Integer
import RowMapper.Number.Shortest

/-!
# `RowMapper.Number.Layout`: how the digits of a number are set out

The digits of a floating-point number are those of its shortest decimal; a `Layout` holds the
decisions that remain. Which layout a text uses is said where the text is defined.
-/

set_option autoImplicit false

namespace RowMapper.Number

/-- The decisions of a decimal format: what happens to two equally near decimals, the exponents of
the leading digit at which no exponent is written, and whether an integral number ends in `.0`. -/
structure Layout where
  tie : Tie
  positional : Int → Bool
  pointZero : Bool

namespace Layout

/-- The digits with the point set where `exponent`, that of the last digit, asks for it. -/
def positionalText (pointZero : Bool) (digits : List Char) (exponent : Int) : List Char :=
  if 0 ≤ exponent then
    digits ++ List.replicate exponent.toNat '0' ++ (if pointZero then ['.', '0'] else [])
  else
    let places := (-exponent).toNat
    -- The point falls among the digits, or zeros lead up to them.
    if places < digits.length then
      digits.take (digits.length - places) ++ '.' :: digits.drop (digits.length - places)
    else '0' :: '.' :: (List.replicate (places - digits.length) '0' ++ digits)

/-- One digit before the point, the others behind it, and the exponent with its sign. -/
def exponentText (digits : List Char) (leading : Int) : List Char :=
  let fraction := match digits.drop 1 with
    | [] => []
    | rest => '.' :: rest
  digits.take 1 ++ fraction ++ 'e' :: (if leading < 0 then '-' else '+') ::
    Nat.toDigits 10 leading.natAbs

/-- The text of a decimal. -/
def decimalText (layout : Layout) (decimal : Decimal) : List Char :=
  let digits := Nat.toDigits 10 decimal.digits
  let leading := digits.length - 1 + decimal.exponent
  if layout.positional leading then positionalText layout.pointZero digits decimal.exponent
  else exponentText digits leading

/-- The text of a floating-point number. -/
def text (layout : Layout) (x : Binary64) : String :=
  if x.isNaN then "NaN"
  else
    let magnitude :=
      if x.isInfinite then ['i', 'n', 'f']
      else if x.isZero then positionalText layout.pointZero ['0'] 0
      else layout.decimalText (x.shortest layout.tie)
    String.ofList (if x.isNegative then '-' :: magnitude else magnitude)

end Layout

end RowMapper.Number
