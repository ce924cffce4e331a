import RowMapper.Calendar.Reading
import RowMapper.Proofs.Number.Integer
import RowMapper.Proofs.Text.Blank

/-!
# `RowMapper.Proofs.Calendar.Reading`: the text of a moment is read back

A moment is written as numbers with signs between them. Each number is a run of digits of a known
length (`DateTime.padded`), so that reading takes just these digits (`scanNumber_append`), and the
whole text is read as the moment that it shows, cut to the second (`DateTime.read?_text`), whatever
its year.

What a text shows is the moment itself, unless this is a leap second in the midst of a minute, which
cannot be told from the second after (`DateTime.asWritten`).
-/

set_option autoImplicit false

namespace RowMapper.Calendar

open RowMapper.Number RowMapper.Text

/-! ### Numbers -/

/-- A run of digits is read as a number if it has the right length, and nothing or no further digit
follows when it could be longer. -/
theorem scanNumber_append {least most : Nat} {digits : List Char}
    (hdigits : ∀ c ∈ digits, c.isDigit = true) (hleast : least ≤ digits.length)
    (hmost : digits.length ≤ most) (rest : List Char)
    (hstop : digits.length = most ∨ ∀ c ∈ rest.head?, c.isDigit = false) :
    scanNumber least most (digits ++ rest) = some (Nat.ofDigitChars 10 digits 0, rest) := by
  have hnone : (rest.take (most - digits.length)).takeWhile Char.isDigit = [] := by
    rcases hstop with hlength | hhead
    · rw [hlength, Nat.sub_self, List.take_zero, List.takeWhile_nil]
    · cases rest with
      | nil => simp
      | cons c rest =>
          have hc : c.isDigit = false := hhead c (by simp)
          cases most - digits.length with
          | zero => simp
          | succ n => simp [hc]
  have hrun : ((digits ++ rest).take most).takeWhile Char.isDigit = digits := by
    rw [List.take_append, List.take_of_length_le hmost, List.takeWhile_append_of_pos hdigits,
      hnone, List.append_nil]
  unfold scanNumber
  dsimp only
  rw [hrun, if_pos hleast, List.drop_left]

namespace DateTime

theorem isDigit_of_mem_padded {width n : Nat} {c : Char} (h : c ∈ padded width n) :
    c.isDigit = true := by
  rcases List.mem_append.1 h with h | h
  · exact isDigit_of_mem_replicate h
  · exact Nat.isDigit_of_mem_toDigits (by decide) (by decide) h

theorem ofDigitChars_padded (width n : Nat) : Nat.ofDigitChars 10 (padded width n) 0 = n := by
  unfold padded
  dsimp only
  rw [Nat.ofDigitChars_append, Nat.ofDigitChars_replicate_zero, Nat.mul_zero,
    Nat.ofDigitChars_ten_toDigits]

theorem length_padded {width n : Nat} (hdigits : (Nat.toDigits 10 n).length ≤ width) :
    (padded width n).length = width := by
  unfold padded
  dsimp only
  rw [List.length_append, List.length_replicate]
  omega

theorem length_padded_pos (width n : Nat) : 0 < (padded width n).length := by
  have hpos : 0 < (Nat.toDigits 10 n).length := Nat.length_toDigits_pos
  unfold padded
  dsimp only
  rw [List.length_append]
  omega

/-- A padded number begins with a digit. -/
theorem exists_cons_padded (width n : Nat) :
    ∃ c rest, padded width n = c :: rest ∧ c.isDigit = true := by
  obtain ⟨c, rest, hcons⟩ := List.exists_cons_of_length_pos (length_padded_pos width n)
  exact ⟨c, rest, hcons, isDigit_of_mem_padded (by rw [hcons]; exact List.mem_cons_self)⟩

theorem skipBlanks_padded (width n : Nat) (rest : List Char) :
    skipBlanks (padded width n ++ rest) = padded width n ++ rest := by
  obtain ⟨c, others, hcons, hdigit⟩ := exists_cons_padded width n
  rw [hcons, List.cons_append, skipBlanks,
    List.dropWhile_cons_of_neg (by simp [isBlank_of_isDigit hdigit])]

/-! ### Dates -/

/-- Two digits are read as the number. -/
theorem scanShort_padded {n : Nat} (hn : n < 100) (rest : List Char) :
    scanShort (padded 2 n ++ rest) = some (n, rest) := by
  have hdigits : (Nat.toDigits 10 n).length ≤ 2 :=
    (Nat.length_toDigits_le_iff (by decide) (by decide)).2 hn
  have hlength := length_padded hdigits
  rw [scanShort, skipBlanks_padded, scanNumber_append (fun c hc => isDigit_of_mem_padded hc)
    (by omega) (by omega) rest (.inl hlength), ofDigitChars_padded]

theorem scanYear_yearChars (year : Int) (rest : List Char) :
    scanYear (yearChars year ++ '-' :: rest) = some (year, '-' :: rest) := by
  have hstop : ∀ c ∈ ('-' :: rest).head?, c.isDigit = false := by simp
  unfold yearChars
  split
  case isTrue hshort =>
    -- Four digits, and no sign in front of them.
    have hdigits : (Nat.toDigits 10 year.natAbs).length ≤ 4 :=
      (Nat.length_toDigits_le_iff (by decide) (by decide)).2 (by omega)
    have hlength := length_padded hdigits
    have hscan := scanNumber_append (fun c hc => isDigit_of_mem_padded hc) (by omega : 1 ≤ _)
      (by omega) ('-' :: rest) (.inl hlength)
    obtain ⟨c, others, hcons, hdigit⟩ := exists_cons_padded 4 year.natAbs
    have hvalue := ofDigitChars_padded 4 year.natAbs
    rw [hcons] at hscan hvalue ⊢
    unfold scanYear
    split
    · rename_i heq
      obtain rfl := (List.cons.inj heq).1
      exact absurd hdigit (by decide)
    · rename_i heq
      obtain rfl := (List.cons.inj heq).1
      exact absurd hdigit (by decide)
    · rw [hscan, Option.map_some, hvalue]
      have hyear : ((year.natAbs : Nat) : Int) = year := by omega
      exact congrArg (fun year => some (year, '-' :: rest)) hyear
  case isFalse hsigned =>
    have hscan := scanNumber_append (fun c hc => isDigit_of_mem_padded hc)
      (length_padded_pos 4 year.natAbs) (Nat.le_add_right _ ('-' :: rest).length) ('-' :: rest)
      (.inr hstop)
    rw [← List.length_append, ofDigitChars_padded] at hscan
    split
    · rw [List.cons_append, scanYear, hscan, Option.map_some]
      have hyear : -((year.natAbs : Nat) : Int) = year := by omega
      exact congrArg (fun year => some (year, '-' :: rest)) hyear
    · rw [List.cons_append, scanYear, hscan, Option.map_some]
      have hyear : ((year.natAbs : Nat) : Int) = year := by omega
      exact congrArg (fun year => some (year, '-' :: rest)) hyear

/-- A year begins with a digit or a sign. -/
theorem exists_cons_yearChars (year : Int) :
    ∃ c rest, yearChars year = c :: rest ∧ isBlank c = false := by
  unfold yearChars
  split
  · obtain ⟨c, rest, hcons, hdigit⟩ := exists_cons_padded 4 year.natAbs
    exact ⟨c, rest, hcons, isBlank_of_isDigit hdigit⟩
  · split
    · exact ⟨'-', _, rfl, by decide⟩
    · exact ⟨'+', _, rfl, by decide⟩

theorem skipBlanks_yearChars (year : Int) (rest : List Char) :
    skipBlanks (yearChars year ++ rest) = yearChars year ++ rest := by
  obtain ⟨c, others, hcons, hblank⟩ := exists_cons_yearChars year
  rw [hcons, List.cons_append, skipBlanks, List.dropWhile_cons_of_neg (by simp [hblank])]

/-- A date is read back from its text. -/
theorem scanDate_dateChars (date : Date) (rest : List Char) :
    scanDate (dateChars date ++ rest) = some (date, rest) := by
  obtain ⟨year, month, day, hyear, hmonth, hday⟩ := date
  have hdays : daysIn year month ≤ 31 := by
    unfold daysIn
    repeat' split
    all_goals omega
  have hnumbers : Date.ofNumbers? year month day = some ⟨year, month, day, hyear, hmonth, hday⟩ :=
    dif_pos ⟨hyear, hmonth, hday⟩
  have htext : dateChars ⟨year, month, day, hyear, hmonth, hday⟩ ++ rest
      = yearChars year ++ '-' :: (padded 2 month ++ '-' :: (padded 2 day ++ rest)) := by
    simp [dateChars]
  rw [htext, scanDate, skipBlanks_yearChars, scanYear_yearChars]
  simp only [Option.bind_eq_bind, Option.bind_some, scanChar, if_true]
  rw [scanShort_padded (by omega)]
  simp only [Option.bind_some, if_true]
  rw [scanShort_padded (by omega)]
  simp only [Option.bind_some, hnumbers]

/-! ### Moments -/

theorem readTime?_blank (date : Date) (text : List Char) :
    readTime? date (' ' :: text) = readTime? date text := by
  have hskip : scanShort (' ' :: text) = scanShort text := by
    rw [scanShort, scanShort, skipBlanks, List.dropWhile_cons_of_pos (by decide), ← skipBlanks]
  rw [readTime?, readTime?, hskip]

/-- The moment that is written in the same way: a leap second behind any but the last second of its
minute is the second after. -/
def asWritten (moment : DateTime) : DateTime :=
  if h : 1000000000 ≤ moment.nano ∧ moment.second < 59 then
    { moment with
      second := moment.second + 1, nano := moment.nano - 1000000000
      second_lt := by omega, nano_lt := have := moment.nano_lt; by omega }
  else moment

/-- The moment with another part below the second. A leap second stays one. -/
def withFraction (moment : DateTime) (nano : Nat) (h : nano < 1000000000) : DateTime :=
  { moment with
    nano := moment.nano / 1000000000 * 1000000000 + nano
    nano_lt := have := moment.nano_lt; by omega }

/-- The moment without the part below a second. -/
def toSecond (moment : DateTime) : DateTime :=
  moment.withFraction 0 (by decide)

theorem fraction_lt (moment : DateTime) : moment.fraction < 1000000000 :=
  Nat.mod_lt _ (by decide)

theorem withFraction_fraction (moment : DateTime) :
    moment.withFraction moment.fraction moment.fraction_lt = moment := by
  obtain ⟨date, hour, minute, second, nano, hhour, hminute, hsecond, hnano⟩ := moment
  have hsplit : nano / 1000000000 * 1000000000 + nano % 1000000000 = nano := by omega
  simp only [withFraction, fraction, hsplit]

/-- Moments are written as they are, but for leap seconds in the midst of a minute. -/
theorem asWritten_eq_iff {moment : DateTime} :
    moment.asWritten = moment ↔ (moment.isLeap = true → moment.second = 59) := by
  have hsecond := moment.second_lt
  rw [isLeap, decide_eq_true_iff]
  unfold asWritten
  split
  case isTrue h =>
    refine iff_of_false (fun hsame => ?_) (fun hlast => ?_)
    · have := congrArg DateTime.second hsame
      dsimp only at this
      omega
    · have := hlast h.1
      omega
  case isFalse h => exact iff_of_true rfl (by omega)

@[simp]
theorem fraction_asWritten (moment : DateTime) : moment.asWritten.fraction = moment.fraction := by
  unfold asWritten
  split
  · simp only [fraction]
    omega
  · rfl

/-- The numbers of a text are those of the moment that is written so. -/
theorem at?_writtenSecond (moment : DateTime) {nano : Nat} (hnano : nano < 1000000000) :
    at? moment.date moment.hour moment.minute moment.writtenSecond nano
      = some (moment.asWritten.withFraction nano hnano) := by
  obtain ⟨date, hour, minute, second, held, hhour, hminute, hsecond, hheld⟩ := moment
  have hrange : hour < 24 ∧ minute < 60 ∧ second + held / 1000000000 ≤ 60 ∧ nano < 1000000000 :=
    ⟨hhour, hminute, by omega, hnano⟩
  unfold at? writtenSecond asWritten
  dsimp only
  rw [dif_pos hrange]
  by_cases hleap : 1000000000 ≤ held
  · have hone : held / 1000000000 = 1 := by omega
    by_cases hlast : second < 59
    · have hzero : (held - 1000000000) / 1000000000 = 0 := by omega
      rw [dif_pos (by omega), dif_pos ⟨hleap, hlast⟩]
      simp only [withFraction, hone, hzero, Nat.zero_mul, Nat.zero_add]
    · -- The number of the second is 60.
      obtain rfl : second = 59 := by omega
      rw [dif_neg (by omega), dif_neg (fun h => hlast h.2)]
      simp only [withFraction, hone, Nat.one_mul]
  · have hzero : held / 1000000000 = 0 := by omega
    rw [dif_pos (by omega), dif_neg (fun h => hleap h.1)]
    simp only [withFraction, hzero, Nat.add_zero, Nat.zero_mul, Nat.zero_add]

/-- A time is read back from its text and from that of a fraction of a second. -/
theorem readTime?_timeChars (moment : DateTime) {fraction : List Char} {nano : Nat}
    (hfraction : scanFraction fraction = some (nano, [])) (hnano : nano < 1000000000) :
    readTime? moment.date (timeChars moment ++ fraction)
      = some (moment.asWritten.withFraction nano hnano) := by
  have hhour := moment.hour_lt
  have hminute := moment.minute_lt
  have hsecond : moment.writtenSecond < 100 := by
    have hsecond := moment.second_lt
    have hheld := moment.nano_lt
    unfold writtenSecond
    omega
  have htext : timeChars moment ++ fraction
      = padded 2 moment.hour ++ ':' :: (padded 2 moment.minute ++ ':' ::
        (padded 2 moment.writtenSecond ++ fraction)) := by
    simp [timeChars]
  rw [htext, readTime?, scanShort_padded (by omega)]
  simp only [Option.bind_eq_bind, Option.bind_some, scanChar, if_true]
  rw [scanShort_padded (by omega)]
  simp only [Option.bind_some, if_true]
  rw [scanShort_padded hsecond]
  simp only [Option.bind_some, hfraction, List.isEmpty_nil, if_true,
    moment.at?_writtenSecond hnano]

/-- A text that ends with a number does not end with a blank. -/
theorem isBlank_getLast?_padded {text : List Char} {width n : Nat} {c : Char}
    (h : c ∈ (text ++ padded width n).getLast?) : isBlank c = false := by
  have hne : padded width n ≠ [] := List.length_pos_iff.1 (length_padded_pos ..)
  rw [List.getLast?_append, List.getLast?_eq_some_getLast hne, Option.some_or] at h
  obtain rfl := Option.mem_some.1 h
  exact isBlank_of_isDigit (isDigit_of_mem_padded (List.getLast_mem hne))

/-- A date does not begin with a blank. -/
theorem isBlank_head?_dateChars {date : Date} {rest : List Char} {c : Char}
    (h : c ∈ (dateChars date ++ rest).head?) : isBlank c = false := by
  obtain ⟨first, others, hcons, hblank⟩ := exists_cons_yearChars date.year
  obtain rfl : first = c := by simpa [dateChars, hcons] using h
  exact hblank

/-- The text of a moment begins with a digit or a sign and ends with a digit. -/
theorem trimChars_chars (moment : DateTime) : trimChars moment.chars = moment.chars := by
  have htext : moment.chars = (dateChars moment.date ++ ' ' :: (padded 2 moment.hour ++ ':' ::
      (padded 2 moment.minute ++ [':']))) ++ padded 2 moment.writtenSecond := by
    simp [chars, timeChars]
  have htrim := trimChars_append [] moment.chars [] (by simp) (by simp)
    (fun c hc => isBlank_head?_dateChars hc)
    (fun c hc => isBlank_getLast?_padded (htext ▸ hc))
  rwa [List.append_nil, List.nil_append] at htrim

/-- The text of a moment is read as the moment that it shows, to the second. -/
theorem read?_text (zone : Zone) (moment : DateTime) :
    DateTime.read? zone moment.text = some moment.asWritten.toSecond := by
  have hspaced : readSpaced? moment.chars = some moment.asWritten.toSecond := by
    have htime : readTime? moment.date (timeChars moment ++ []) = some moment.asWritten.toSecond :=
      readTime?_timeChars moment rfl (by decide)
    rw [List.append_nil] at htime
    rw [readSpaced?, chars, scanDate_dateChars]
    simp only [Option.bind_eq_bind, Option.bind_some, readTime?_blank, htime]
  unfold DateTime.read?
  dsimp only
  rw [text, String.toList_ofList, trimChars_chars, hspaced]
  rfl

end DateTime

end RowMapper.Calendar
