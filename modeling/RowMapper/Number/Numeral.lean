import RowMapper.Number.Nearest

/-!
# `RowMapper.Number.Numeral`: decimal numerals as they are written

A numeral is a run of digits with an optional fraction and an optional exponent. `Numeral.scan`
takes the longest one from the front of a text; formats differ in which parts may be missing and
say so with `isComplete` and with rules of their own. `toBinary64` is the floating-point number
nearest to a numeral.
-/

set_option autoImplicit false

namespace RowMapper.Number

/-- The parts of an unsigned numeral: the digits before the point, the digits behind it if there is
a point, and the sign and digits of the exponent if there is one. -/
structure Numeral where
  whole : List Char
  fraction : Option (List Char)
  exponent : Option (Bool × List Char)

namespace Numeral

/-- The longest run of digits at the front, and what follows it. -/
def spanDigits (text : List Char) : List Char × List Char :=
  (text.takeWhile Char.isDigit, text.dropWhile Char.isDigit)

/-- The fraction at the front, if a point opens one. -/
def scanFraction : List Char → Option (List Char) × List Char
  | '.' :: rest => (some (spanDigits rest).1, (spanDigits rest).2)
  | text => (none, text)

/-- The digits of an exponent behind its sign. -/
def scanExponentDigits : List Char → (Bool × List Char) × List Char
  | '-' :: rest => ((true, (spanDigits rest).1), (spanDigits rest).2)
  | '+' :: rest => ((false, (spanDigits rest).1), (spanDigits rest).2)
  | rest => ((false, (spanDigits rest).1), (spanDigits rest).2)

/-- The exponent at the front, if the letter e opens one. -/
def scanExponent : List Char → Option (Bool × List Char) × List Char
  | c :: rest =>
    if c = 'e' ∨ c = 'E' then
      (some (scanExponentDigits rest).1, (scanExponentDigits rest).2)
    else (none, c :: rest)
  | [] => (none, [])

/-- The longest numeral at the front of a text, and what follows it. -/
def scan (text : List Char) : Numeral × List Char :=
  let (whole, afterWhole) := spanDigits text
  let (fraction, afterFraction) := scanFraction afterWhole
  let (exponent, rest) := scanExponent afterFraction
  (⟨whole, fraction, exponent⟩, rest)

theorem spanDigits_length (text : List Char) :
    (spanDigits text).1.length + (spanDigits text).2.length = text.length := by
  rw [← List.length_append, spanDigits, List.takeWhile_append_dropWhile]

theorem scanFraction_length (text : List Char) : (scanFraction text).2.length ≤ text.length := by
  rw [scanFraction.eq_def]
  split
  case h_1 rest => grind [spanDigits_length rest]
  case h_2 => exact Nat.le_refl _

theorem scanExponentDigits_length (text : List Char) :
    (scanExponentDigits text).2.length ≤ text.length := by
  rw [scanExponentDigits.eq_def]
  split <;> grind [spanDigits_length]

theorem scanExponent_length (text : List Char) : (scanExponent text).2.length ≤ text.length := by
  rw [scanExponent.eq_def]
  split
  case h_1 c rest =>
    split
    · grind [scanExponentDigits_length rest]
    · exact Nat.le_refl _
  case h_2 => exact Nat.le_refl _

/-- What a numeral leaves of a text is shorter by its digits before the point at least. -/
theorem scan_length (text : List Char) :
    (scan text).1.whole.length + (scan text).2.length ≤ text.length := by
  have whole := spanDigits_length text
  have fraction := scanFraction_length (spanDigits text).2
  have exponent := scanExponent_length (scanFraction (spanDigits text).2).2
  simp only [scan]
  omega

/-- Whether there is a digit, and one in the exponent if there is an exponent. -/
def isComplete (numeral : Numeral) : Bool :=
  !(numeral.whole ++ numeral.fraction.getD []).isEmpty &&
    numeral.exponent.all fun (_, digits) => !digits.isEmpty

/-- Whether the numeral is a plain run of digits. -/
def isWhole (numeral : Numeral) : Bool :=
  numeral.fraction.isNone && numeral.exponent.isNone

/-- The power of ten that the exponent stands for. -/
def power (numeral : Numeral) : Int :=
  match numeral.exponent with
  | none => 0
  | some (true, digits) => -(Nat.ofDigitChars 10 digits 0 : Int)
  | some (false, digits) => Nat.ofDigitChars 10 digits 0

/-- The number nearest to the numeral, with the given sign. -/
def toBinary64 (negative : Bool) (numeral : Numeral) : Binary64 :=
  let fraction := numeral.fraction.getD []
  -- The point moves behind the last digit; the exponent makes up for it.
  let digits := Nat.ofDigitChars 10 (numeral.whole ++ fraction) 0
  Binary64.ofDecimal negative digits (numeral.power - fraction.length)

/-- The number a text consists of: a complete numeral behind an optional sign. -/
def readSigned? (text : List Char) : Option Binary64 :=
  let (negative, body) := match text with
    | '-' :: rest => (true, rest)
    | '+' :: rest => (false, rest)
    | rest => (false, rest)
  match scan body with
  | (numeral, []) => if numeral.isComplete then some (numeral.toBinary64 negative) else none
  | _ => none

end Numeral

/-- The floating-point number of a text: a numeral behind an optional sign, or one of the names of
infinity and of NaN in any case. -/
def Binary64.read? (text : String) : Option Binary64 :=
  let (negative, body) := match text.toList with
    | '-' :: rest => (true, rest)
    | '+' :: rest => (false, rest)
    | rest => (false, rest)
  let name := String.ofList (body.map Char.toLower)
  if name = "nan" then some .nan
  else if name = "inf" ∨ name = "infinity" then some (.infinity negative)
  else Numeral.readSigned? text.toList

end RowMapper.Number
