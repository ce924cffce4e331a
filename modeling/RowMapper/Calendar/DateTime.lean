import RowMapper.Calendar.Date
import RowMapper.Number.Integer

/-!
# `RowMapper.Calendar.DateTime`: a day and a time, and their text

A `DateTime` has no time zone. A leap second is held behind the second that it follows, which may be
any: its nanoseconds go on from a thousand million to two thousand million. It is written as the
number of the second after, so that a text shows it for what it is in the last second of a minute
only, where the number is 60.

* `text` is the form written into statements: `YYYY-MM-DD HH:MM:SS`, the part below a second
  dropped, years outside 0 to 9999 with a sign.
* `fullText` adds the part below a second, if any, in 3, 6 or 9 digits.

A `Zone` turns moments of universal time into local ones.
-/

set_option autoImplicit false

namespace RowMapper.Calendar

/-- A day and a time of day. The nanoseconds of a leap second are counted from the second that it
follows. -/
structure DateTime where
  date : Date
  hour : Nat
  minute : Nat
  second : Nat
  nano : Nat
  hour_lt : hour < 24
  minute_lt : minute < 60
  second_lt : second < 60
  nano_lt : nano < 2000000000
deriving DecidableEq

namespace DateTime

/-- Whether the moment is in a leap second. -/
def isLeap (moment : DateTime) : Bool :=
  1000000000 ≤ moment.nano

/-- The second as it is written. -/
def writtenSecond (moment : DateTime) : Nat :=
  moment.second + moment.nano / 1000000000

/-- The part below a second. -/
def fraction (moment : DateTime) : Nat :=
  moment.nano % 1000000000

/-- The time that is written with these numbers on a day, if there is one. The second 60 is the leap
second behind 59. -/
def at? (date : Date) (hour minute second nano : Nat) : Option DateTime :=
  if h : hour < 24 ∧ minute < 60 ∧ second ≤ 60 ∧ nano < 1000000000 then
    if hsecond : second < 60 then
      some ⟨date, hour, minute, second, nano, h.1, h.2.1, hsecond, by omega⟩
    else
      some ⟨date, hour, minute, 59, 1000000000 + nano, h.1, h.2.1, by decide, by omega⟩
  else none

/-- The beginning of a day. -/
def midnight (date : Date) : DateTime :=
  ⟨date, 0, 0, 0, 0, by decide, by decide, by decide, by decide⟩

/-- The moment this many milliseconds after the beginning of 1970, if it is in range. -/
def ofEpochMillis? (millis : Int) : Option DateTime := do
  let date ← Date.ofDayNumber? (millis / 86400000)
  let ofDay := (millis % 86400000).toNat
  at? date (ofDay / 3600000) (ofDay / 60000 % 60) (ofDay / 1000 % 60) (ofDay % 1000 * 1000000)

/-- The moment this many minutes earlier, if it is in range. Seconds are left alone, so that a leap
second stays one. -/
def minusMinutes? (moment : DateTime) (minutes : Int) : Option DateTime := do
  let total : Int := 60 * moment.hour + moment.minute - minutes
  -- Division rounds down, so a negative total lands on an earlier day with a positive rest.
  let date ← Date.ofDayNumber? (moment.date.dayNumber + total / 1440)
  let ofDay := (total % 1440).toNat
  some { moment with
    date, hour := ofDay / 60, minute := ofDay % 60
    hour_lt := by omega, minute_lt := Nat.mod_lt _ (by decide) }

/-- A number with zeros in front up to this many digits. -/
def padded (width n : Nat) : List Char :=
  let digits := Nat.toDigits 10 n
  List.replicate (width - digits.length) '0' ++ digits

/-- A year in four digits or more, with a sign outside 0 to 9999. -/
def yearChars (year : Int) : List Char :=
  if 0 ≤ year ∧ year ≤ 9999 then padded 4 year.natAbs
  else (if year < 0 then '-' else '+') :: padded 4 year.natAbs

/-- The form `YYYY-MM-DD`. -/
def dateChars (date : Date) : List Char :=
  yearChars date.year ++ '-' :: (padded 2 date.month ++ '-' :: padded 2 date.day)

/-- The form `HH:MM:SS`. -/
def timeChars (moment : DateTime) : List Char :=
  padded 2 moment.hour ++ ':' :: (padded 2 moment.minute ++ ':' :: padded 2 moment.writtenSecond)

/-- The form `YYYY-MM-DD HH:MM:SS`. -/
def chars (moment : DateTime) : List Char :=
  dateChars moment.date ++ ' ' :: timeChars moment

/-- The part below a second, behind a point, in the fewest of 3, 6 or 9 digits; nothing for a whole
second. -/
def fractionChars (nano : Nat) : List Char :=
  if nano = 0 then []
  else if nano % 1000000 = 0 then '.' :: padded 3 (nano / 1000000)
  else if nano % 1000 = 0 then '.' :: padded 6 (nano / 1000)
  else '.' :: padded 9 nano

/-- The moment to the second, as it is written into statements. -/
def text (moment : DateTime) : String :=
  String.ofList moment.chars

/-- The whole moment. -/
def fullText (moment : DateTime) : String :=
  String.ofList (moment.chars ++ fractionChars moment.fraction)

end DateTime

/-- A time zone: the local time of each moment of universal time. -/
structure Zone where
  localTime : DateTime → DateTime

/-- The zone whose local time is universal time. -/
def Zone.universal : Zone := ⟨id⟩

end RowMapper.Calendar
