/-!
# `RowMapper.Text.Hex`: hexadecimal digits

Digits are written with small letters and read with letters of either case.
-/

set_option autoImplicit false

namespace RowMapper.Text

/-- The digit for a number below sixteen; of a larger one the last digit. -/
def hexDigit (n : Nat) : Char :=
  Nat.digitChar (n % 16)

/-- The value of a digit. -/
def hexValue? (c : Char) : Option Nat :=
  if c.isDigit then some (c.toNat - '0'.toNat)
  else if 'a' ≤ c ∧ c ≤ 'f' then some (c.toNat - 'a'.toNat + 10)
  else if 'A' ≤ c ∧ c ≤ 'F' then some (c.toNat - 'A'.toNat + 10)
  else none

end RowMapper.Text
