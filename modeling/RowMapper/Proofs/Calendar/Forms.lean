import RowMapper.Entity.FieldKind
import RowMapper.Proofs.Calendar.Reading
import RowMapper.Sql.Literal

/-!
# `RowMapper.Proofs.Calendar.Forms`: the forms in which a moment survives

A moment leaves the program to the second (`DateTime.text`) and may come back in other forms: with a
`T` between date and time, with the part below a second in more or fewer digits, with blanks around
it. `DateTime.WritesNano` says which fractions stand for exactly this part of a second, and
`DateTime.read?_written` that every such form is read as the moment that it shows, in every year.
`DateTime.date_round_trip` puts this beside what a column for dates gets back, and says which
moments survive: all but the leap seconds in the midst of a minute, of which
`DateTime.leap_second_within_minute` is one.
-/

set_option autoImplicit false

namespace RowMapper.Calendar

open RowMapper.Number RowMapper.Text

namespace DateTime

/-! ### Fractions of a second -/

/-- The texts that stand for this part of a second and lose nothing of it: digits behind a point,
and nothing at all for a whole second. -/
inductive WritesNano (nano : Nat) : List Char → Prop
  | whole (h : nano = 0) : WritesNano nano []
  /-- Digits that are not written are zeros. -/
  | digits (width : Nat) (hleast : 1 ≤ width) (hmost : width ≤ 9)
      (hexact : tenTo (9 - width) ∣ nano) :
      WritesNano nano ('.' :: padded width (nano / tenTo (9 - width)))

theorem takeWhile_padded (width n : Nat) :
    (padded width n).takeWhile Char.isDigit = padded width n := by
  have hall : (padded width n ++ []).takeWhile Char.isDigit
      = padded width n ++ [].takeWhile Char.isDigit :=
    List.takeWhile_append_of_pos fun c hc => isDigit_of_mem_padded hc
  simpa using hall

/-- The digits of a fraction are as many as are asked for. -/
theorem length_padded_fraction {nano width : Nat} (hnano : nano < 1000000000) (hleast : 1 ≤ width)
    (hmost : width ≤ 9) : (padded width (nano / tenTo (9 - width))).length = width := by
  have hsplit : tenTo (9 - width) * tenTo width = 1000000000 := by
    rw [← tenTo_add, Nat.sub_add_cancel hmost]
    rfl
  have hlt : nano / tenTo (9 - width) < tenTo width :=
    Nat.div_lt_of_lt_mul (by omega)
  exact length_padded ((Nat.length_toDigits_le_iff (by decide) hleast).2 hlt)

/-- A fraction that loses nothing is read back. -/
theorem WritesNano.scanFraction_eq {nano : Nat} {fraction : List Char}
    (h : WritesNano nano fraction) (hnano : nano < 1000000000) :
    scanFraction fraction = some (nano, []) := by
  cases h with
  | whole h => exact congrArg (fun n => some (n, [])) h.symm
  | digits width hleast hmost hexact =>
      have hlength := length_padded_fraction hnano hleast hmost
      have hscan := scanNumber_append (fun c hc => isDigit_of_mem_padded hc)
        (by omega : 1 ≤ (padded width (nano / tenTo (9 - width))).length) (by omega : _ ≤ 9) []
        (.inr (by simp))
      have htake : (padded width (nano / tenTo (9 - width))).take 9
          = padded width (nano / tenTo (9 - width)) := List.take_of_length_le (by omega)
      rw [List.append_nil] at hscan
      simp only [scanFraction, hscan, htake, takeWhile_padded, hlength, ofDigitChars_padded,
        Option.bind_eq_bind, Option.bind_some, List.dropWhile_nil, Nat.div_mul_cancel hexact]

/-- The fewest of 3, 6 or 9 digits lose nothing. -/
theorem writesNano_fractionChars (nano : Nat) : WritesNano nano (fractionChars nano) := by
  unfold fractionChars
  split
  · exact .whole ‹_›
  · split
    · exact .digits 3 (by decide) (by decide) (Nat.dvd_of_mod_eq_zero ‹_›)
    · split
      · exact .digits 6 (by decide) (by decide) (Nat.dvd_of_mod_eq_zero ‹_›)
      · have hnine := WritesNano.digits 9 (by decide) (by decide) (Nat.one_dvd nano)
        rwa [show tenTo (9 - 9) = 1 from rfl, Nat.div_one] at hnine

/-! ### Forms of a moment -/

/-- A moment with a mark between date and time and a fraction of a second behind it. -/
def written (moment : DateTime) (mark : Char) (fraction : List Char) : List Char :=
  dateChars moment.date ++ mark :: (timeChars moment ++ fraction)

/-- A written moment ends with a number. -/
theorem WritesNano.exists_written {nano : Nat} {fraction : List Char}
    (h : WritesNano nano fraction) (moment : DateTime) (mark : Char) :
    ∃ text width n, moment.written mark fraction = text ++ padded width n := by
  cases h with
  | whole =>
      exact ⟨dateChars moment.date ++ mark :: (padded 2 moment.hour ++ ':' ::
        (padded 2 moment.minute ++ [':'])), 2, moment.writtenSecond,
        by simp [written, timeChars]⟩
  | digits width =>
      exact ⟨dateChars moment.date ++ mark :: (timeChars moment ++ ['.']), width,
        nano / tenTo (9 - width), by simp [written]⟩

theorem scanShort_mark (rest : List Char) : scanShort ('T' :: rest) = none := by
  rw [scanShort, skipBlanks, List.dropWhile_cons_of_neg (by decide), scanNumber]
  simp

/-- A date is read, and what stands behind it is left. -/
theorem scanDate_written (moment : DateTime) (mark : Char) (fraction : List Char) :
    scanDate (moment.written mark fraction)
      = some (moment.date, mark :: (timeChars moment ++ fraction)) :=
  scanDate_dateChars moment.date _

/-- Each form of a moment is read as the moment that it shows, whatever blanks stand around it. -/
theorem read?_written (zone : Zone) (moment : DateTime) {mark : Char}
    (hmark : mark = ' ' ∨ mark = 'T') {fraction front back : List Char}
    (hfraction : WritesNano moment.fraction fraction)
    (hfront : ∀ c ∈ front, isBlank c = true) (hback : ∀ c ∈ back, isBlank c = true) :
    DateTime.read? zone (String.ofList (front ++ (moment.written mark fraction ++ back)))
      = some moment.asWritten := by
  have htime : readTime? moment.date (timeChars moment ++ fraction) = some moment.asWritten := by
    have hsame := moment.asWritten.withFraction_fraction
    simp only [fraction_asWritten] at hsame
    rw [readTime?_timeChars moment (hfraction.scanFraction_eq moment.fraction_lt)
      moment.fraction_lt, hsame]
  -- The text begins with a sign or a digit and ends with a digit, so only the blanks go.
  have htrim : trimChars (front ++ (moment.written mark fraction ++ back))
      = moment.written mark fraction := by
    obtain ⟨text, width, n, hlast⟩ := hfraction.exists_written moment mark
    exact trimChars_append _ _ _ hfront hback (fun c hc => isBlank_head?_dateChars hc)
      (fun c hc => isBlank_getLast?_padded (hlast ▸ hc))
  unfold DateTime.read?
  dsimp only
  rw [String.toList_ofList, htrim]
  rcases hmark with rfl | rfl
  · have hspaced : readSpaced? (moment.written ' ' fraction) = some moment.asWritten := by
      rw [readSpaced?, scanDate_written]
      simp only [Option.bind_eq_bind, Option.bind_some, readTime?_blank, htime]
    rw [hspaced]
    rfl
  · -- The form with blanks comes first, and fails at the mark.
    have hspaced : readSpaced? (moment.written 'T' fraction) = none := by
      rw [readSpaced?, scanDate_written]
      simp only [Option.bind_eq_bind, Option.bind_some, readTime?, scanShort_mark,
        Option.bind_none]
    have hmarked : readMarked? (moment.written 'T' fraction) = some moment.asWritten := by
      rw [readMarked?, scanDate_written]
      simp only [Option.bind_eq_bind, Option.bind_some, scanChar, if_true, htime]
    rw [hspaced, hmarked]
    rfl

/-- The whole moment is read back from its own text, as this shows it. -/
theorem read?_fullText (zone : Zone) (moment : DateTime) :
    DateTime.read? zone moment.fullText = some moment.asWritten := by
  have hblanks : ∀ c ∈ ([] : List Char), isBlank c = true := by simp
  have hread := read?_written zone moment (.inl rfl) (writesNano_fractionChars moment.fraction)
    hblanks hblanks
  have htext : moment.chars ++ fractionChars moment.fraction
      = [] ++ (moment.written ' ' (fractionChars moment.fraction) ++ []) := by
    simp [written, chars]
  rw [fullText, htext, hread]

/-- A column for dates gives a moment back to the second; and any text of the moment, with a space
or a `T` between date and time, a fraction that loses nothing, and blanks around it, stands for the
moment itself. Leap seconds are kept so at the end of a minute. Elsewhere they are written as the
second after, and this is what is read. -/
theorem date_round_trip (zone : Zone) (moment : DateTime) :
    FieldKind.date.coerce zone (Value.dateTime moment).bound
      = .dateTime moment.asWritten.toSecond ∧
    (∀ (mark : Char) (fraction front back : List Char), (mark = ' ' ∨ mark = 'T') →
      WritesNano moment.fraction fraction → front.all isBlank = true → back.all isBlank = true →
      (Value.string (String.ofList (front ++ (moment.written mark fraction ++ back)))).toDateTime?
        zone = some moment.asWritten) ∧
    (moment.asWritten = moment ↔ (moment.isLeap = true → moment.second = 59)) := by
  refine ⟨?_, fun mark fraction front back hmark hfraction hfront hback => ?_, asWritten_eq_iff⟩
  · simp only [Value.bound, FieldKind.coerce, Value.toDateTime?, read?_text]
  · rw [Value.toDateTime?]
    exact read?_written zone moment hmark hfraction (List.all_eq_true.1 hfront)
      (List.all_eq_true.1 hback)

/-- The last microsecond of a leap second at the beginning of the calendar. -/
def firstLeapSecond : DateTime :=
  ⟨⟨-262143, 1, 1, by decide, by decide, by decide⟩, 23, 59, 59, 1999999000,
    Nat.lt_add_one 23, Nat.lt_add_one 59, Nat.lt_add_one 59, of_decide_eq_true rfl⟩

/-- This moment in six digits and between blanks. -/
theorem date_round_trip_leap :
    FieldKind.date.coerce .universal (Value.dateTime firstLeapSecond).bound
      = .dateTime { firstLeapSecond with nano := 1000000000, nano_lt := by decide } ∧
    (Value.string "\u3000-262143-01-01T23:59:60.999999\n").toDateTime? .universal
      = some firstLeapSecond := by
  obtain ⟨hsecond, hread, hkept⟩ := date_round_trip .universal firstLeapSecond
  rw [hkept.2 fun _ => rfl] at hsecond hread
  have hnano : WritesNano 999999000 ('.' :: padded 6 999999) :=
    .digits 6 (by decide) (by decide) (by decide)
  have htext : ['\u3000'] ++ (firstLeapSecond.written 'T' ('.' :: padded 6 999999) ++ ['\n'])
      = "\u3000-262143-01-01T23:59:60.999999\n".toList := by decide +kernel
  have hmoment := hread 'T' _ ['\u3000'] ['\n'] (.inr rfl) hnano (by decide) (by decide)
  rw [htext, String.ofList_toList] at hmoment
  exact ⟨hsecond, hmoment⟩

/-- A leap second four seconds into a minute. -/
def minuteLeapSecond : DateTime :=
  ⟨⟨2015, 7, 1, by decide, by decide, by decide⟩, 23, 56, 4, 1333333333,
    by decide, by decide, by decide, by decide⟩

/-- It is written as the fifth second and read as this, by a column for dates as well. -/
theorem leap_second_within_minute :
    let text := "2015-07-01 23:56:05.333333333"
    let fifth : DateTime := { minuteLeapSecond with
      second := 5, nano := 333333333, second_lt := by decide, nano_lt := by decide }
    minuteLeapSecond.fullText = text ∧ minuteLeapSecond ≠ fifth ∧
    (Value.string text).toDateTime? .universal = some fifth ∧
    (Value.string text).toDateTime? .universal ≠ some minuteLeapSecond ∧
    FieldKind.date.coerce .universal (Value.dateTime minuteLeapSecond).bound
      ≠ .dateTime minuteLeapSecond.toSecond := by
  intro text fifth
  have htext : minuteLeapSecond.fullText = text := by decide +kernel
  have hwritten : minuteLeapSecond.asWritten = fifth := rfl
  have hread : (Value.string text).toDateTime? .universal = some fifth := by
    rw [Value.toDateTime?, ← htext, read?_fullText, hwritten]
  have hother : minuteLeapSecond ≠ fifth := by decide
  refine ⟨htext, hother, hread, fun hsame => ?_, fun hsame => ?_⟩
  · rw [hread, Option.some.injEq] at hsame
    exact hother hsame.symm
  · simp only [Value.bound, FieldKind.coerce, Value.toDateTime?, read?_text, hwritten,
      Value.dateTime.injEq] at hsame
    exact absurd hsame (by decide)

end DateTime

end RowMapper.Calendar
