import RowMapper.Calendar.DateTime
import RowMapper.Number.Power
import RowMapper.Text.Blank

/-!
# `RowMapper.Calendar.Reading`: moments from text

Four forms of a moment are read, the first that fits wins:

* a date and a time with blanks or nothing between them,
* a date and a time with a `T` between them,
* the form of RFC 3339, with an offset from universal time, which is turned into local time,
* a date alone, which means its midnight.

In the three forms other than RFC 3339 blanks may stand before every number, months, days, hours,
minutes and seconds have one or two digits, and a year has up to four digits or a sign and any
number of digits. RFC 3339 fixes the digits and allows no blanks but one space in place of the `T`.
A fraction of a second may follow the second of a time; digits after the ninth are dropped.
-/

set_option autoImplicit false

namespace RowMapper.Calendar

open RowMapper.Text

/-- The number at the front of a text with at least `least` and at most `most` digits, and what
follows it. -/
def scanNumber (least most : Nat) (text : List Char) : Option (Nat × List Char) :=
  let digits := (text.take most).takeWhile Char.isDigit
  if least ≤ digits.length then
    some (Nat.ofDigitChars 10 digits 0, text.drop digits.length)
  else none

/-- What follows this character at the front of a text. -/
def scanChar (c : Char) : List Char → Option (List Char)
  | first :: rest => if first = c then some rest else none
  | [] => none

/-- The year at the front of a text: up to four digits, or a sign and any number of digits. -/
def scanYear : List Char → Option (Int × List Char)
  | '-' :: rest => (scanNumber 1 rest.length rest).map fun (n, rest) => (-(n : Int), rest)
  | '+' :: rest => (scanNumber 1 rest.length rest).map fun (n, rest) => ((n : Int), rest)
  | text => (scanNumber 1 4 text).map fun (n, rest) => ((n : Int), rest)

/-- A number of one or two digits behind blanks. -/
def scanShort (text : List Char) : Option (Nat × List Char) :=
  scanNumber 1 2 (skipBlanks text)

/-- A fraction of a second in nanoseconds, zero without a point. -/
def scanFraction : List Char → Option (Nat × List Char)
  | '.' :: rest => do
    -- The digits count from the left: `.5` is half a second however few digits there are.
    let (_, afterNine) ← scanNumber 1 9 rest
    let digits := (rest.take 9).takeWhile Char.isDigit
    some (Nat.ofDigitChars 10 digits 0 * Number.tenTo (9 - digits.length),
      afterNine.dropWhile Char.isDigit)
  | text => some (0, text)

/-- The date at the front of a text. -/
def scanDate (text : List Char) : Option (Date × List Char) := do
  let (year, rest) ← scanYear (skipBlanks text)
  let rest ← scanChar '-' rest
  let (month, rest) ← scanShort rest
  let rest ← scanChar '-' rest
  let (day, rest) ← scanShort rest
  let date ← Date.ofNumbers? year month day
  some (date, rest)

/-- The time of this day that a text consists of. -/
def readTime? (date : Date) (text : List Char) : Option DateTime := do
  let (hour, rest) ← scanShort text
  let rest ← scanChar ':' rest
  let (minute, rest) ← scanShort rest
  let rest ← scanChar ':' rest
  let (second, rest) ← scanShort rest
  let (nano, rest) ← scanFraction rest
  if rest.isEmpty then DateTime.at? date hour minute second nano else none

/-- A date, blanks or nothing, and a time. -/
def readSpaced? (text : List Char) : Option DateTime := do
  let (date, rest) ← scanDate text
  readTime? date rest

/-- A date, the letter T, and a time. -/
def readMarked? (text : List Char) : Option DateTime := do
  let (date, rest) ← scanDate text
  let rest ← scanChar 'T' rest
  readTime? date rest

/-- A date alone. -/
def readDay? (text : List Char) : Option DateTime := do
  let (date, rest) ← scanDate text
  if rest.isEmpty then some (DateTime.midnight date) else none

/-- The sign of a zone: a plus, a hyphen or the minus sign. -/
def scanZoneSign : List Char → Option (Int × List Char)
  | '+' :: rest => some (1, rest)
  | '-' :: rest => some (-1, rest)
  | '−' :: rest => some (-1, rest)
  | _ => none

/-- The distance in minutes from universal time that a text consists of: the letter Z, or a sign,
two digits of hours up to 23, a colon and two digits of minutes. -/
def readZone? : List Char → Option Int
  | ['Z'] => some 0
  | ['z'] => some 0
  | text => do
    let (sign, rest) ← scanZoneSign text
    let (hours, rest) ← scanNumber 2 2 rest
    let rest ← scanChar ':' rest
    let (minutes, rest) ← scanNumber 2 2 rest
    if hours ≤ 23 ∧ minutes ≤ 59 ∧ rest.isEmpty then some (sign * (60 * hours + minutes)) else none

/-- A moment in the form of RFC 3339, in local time. -/
def readZoned? (zone : Zone) (text : List Char) : Option DateTime := do
  let (year, rest) ← scanNumber 4 4 text
  let rest ← scanChar '-' rest
  let (month, rest) ← scanNumber 2 2 rest
  let rest ← scanChar '-' rest
  let (day, rest) ← scanNumber 2 2 rest
  let rest ← match rest with
    | c :: rest => if c = 'T' ∨ c = 't' ∨ c = ' ' then some rest else none
    | [] => none
  let (hour, rest) ← scanNumber 2 2 rest
  let rest ← scanChar ':' rest
  let (minute, rest) ← scanNumber 2 2 rest
  let rest ← scanChar ':' rest
  let (second, rest) ← scanNumber 2 2 rest
  let (nano, rest) ← scanFraction rest
  let offset ← readZone? rest
  let date ← Date.ofNumbers? year month day
  let moment ← DateTime.at? date hour minute second nano
  (moment.minusMinutes? offset).map zone.localTime

/-- The moment a text denotes in a zone, blanks around it aside. -/
def DateTime.read? (zone : Zone) (text : String) : Option DateTime :=
  let chars := trimChars text.toList
  readSpaced? chars <|> readMarked? chars <|> readZoned? zone chars <|> readDay? chars

end RowMapper.Calendar
