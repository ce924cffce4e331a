/-!
# `RowMapper.Number.Integer`: integers and their decimal text

Integers are written in decimal with a minus sign where one is needed, and read back with an
optional sign of either kind. A column holds an integer of 64 bits; `toInt64?` and `clampInt64`
are the two ways to get there from an arbitrary integer.
-/

set_option autoImplicit false

namespace RowMapper.Number

/-- The decimal digits of a natural number, at least one. -/
def naturalText (n : Nat) : String :=
  String.ofList (Nat.toDigits 10 n)

/-- The decimal text of an integer. -/
def integerText (i : Int) : String :=
  if i < 0 then "-" ++ naturalText i.natAbs else naturalText i.natAbs

/-- The natural number that a run of decimal digits denotes; `none` unless all are digits and there
is one at least. Leading zeros are allowed. -/
def readNatural? (text : List Char) : Option Nat :=
  if !text.isEmpty && text.all Char.isDigit then some (Nat.ofDigitChars 10 text 0) else none

/-- The integer that a run of digits behind an optional sign denotes. -/
def readInteger? : List Char → Option Int
  | '-' :: digits => (readNatural? digits).map fun n => -(n : Int)
  | '+' :: digits => (readNatural? digits).map fun n => (n : Int)
  | digits => (readNatural? digits).map fun n => (n : Int)

/-- The integer in 64 bits, if it fits. -/
def toInt64? (i : Int) : Option Int64 :=
  if -0x8000000000000000 ≤ i ∧ i < 0x8000000000000000 then some (Int64.ofInt i) else none

/-- The nearest integer of 64 bits. -/
def clampInt64 (i : Int) : Int64 :=
  if i < -0x8000000000000000 then Int64.minValue
  else if 0x8000000000000000 ≤ i then Int64.maxValue
  else Int64.ofInt i

end RowMapper.Number
