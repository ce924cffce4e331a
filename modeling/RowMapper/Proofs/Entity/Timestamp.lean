import RowMapper.Entity.FieldKind
import RowMapper.Proofs.Number.Integer
import RowMapper.Proofs.Number.Integral
import RowMapper.Proofs.Text.Blank

/-!
# `RowMapper.Proofs.Entity.Timestamp`: seconds read as milliseconds

A stored timestamp is taken for an integer and multiplied by a thousand, and both steps can leave
the 64 bits. `Value.Denotes` says which integer a value stands for, with no limit to its size. The
integer of 64 bits that is taken for it is the nearest one (`Value.exists_denotes`), or none at all
for a text, so an integer beyond the limits is found out only by the multiplication, as the nearest
one does not fit as milliseconds either.

`FieldKind.coerce_seconds_exact`: the milliseconds are exactly a thousand times the integer, and
null stands for all that does not fit.
-/

set_option autoImplicit false

namespace RowMapper

open RowMapper.Number RowMapper.Text RowMapper.Calendar

/-! ### The integer of a value -/

namespace Value

/-- The value stands for the integer. A finite floating-point number does if it has no fraction, and
a text if it is a decimal with nothing but blanks around it. -/
inductive Denotes : Value → Int → Prop
  | int (word : Int64) : Denotes (.int word) word.toInt
  | no : Denotes (.bool false) 0
  | yes : Denotes (.bool true) 1
  | float {x : Binary64} {i : Int} (hfinite : x.isNaN = false ∧ x.isInfinite = false)
      (hvalue : x.value = i) : Denotes (.float x) i
  | string {text : String} {front decimal back : List Char} {i : Int}
      (htext : text.toList = front ++ (decimal ++ back)) (hdecimal : IsDecimal decimal i)
      (hfront : ∀ c ∈ front, isBlank c = true) (hback : ∀ c ∈ back, isBlank c = true) :
      Denotes (.string text) i

theorem isBlank_of_isDecimal {text : List Char} {i : Int} (h : IsDecimal text i) {c : Char}
    (hc : c ∈ text) : isBlank c = false := by
  have hnumeral {digits : List Char} (hdigits : IsNumeral digits) (hc : c ∈ digits) :
      isBlank c = false := isBlank_of_isDigit (hdigits.2 c hc)
  cases h with
  | unsigned h => exact hnumeral h hc
  | plus h | minus h =>
      -- The sign itself is no blank either.
      rcases List.mem_cons.1 hc with rfl | hc
      · rfl
      · exact hnumeral h hc

/-- A text stands for the integer that is read without the blanks around it. -/
theorem denotes_string_iff {text : String} {i : Int} :
    (string text).Denotes i ↔ readInteger? (trimChars text.toList) = some i := by
  rw [readInteger?_eq_some_iff]
  constructor
  · intro h
    cases h with
    | string htext hdecimal hfront hback =>
        rwa [htext, trimChars_append _ _ _ hfront hback
          (fun c hc => isBlank_of_isDecimal hdecimal (List.mem_of_mem_head? hc))
          (fun c hc => isBlank_of_isDecimal hdecimal (List.mem_of_mem_getLast? hc))]
  · intro hdecimal
    obtain ⟨front, back, htext, hfront, hback⟩ := exists_trimChars text.toList
    exact .string htext hdecimal hfront hback

theorem denotes_float_iff {x : Binary64} {i : Int} :
    (float x).Denotes i ↔ x.isIntegral = true ∧ x.truncate = i := by
  rw [x.isIntegral_truncate_iff]
  constructor
  · intro h
    cases h with
    | float hfinite hvalue => exact ⟨hfinite, hvalue⟩
  · rintro ⟨hfinite, hvalue⟩
    exact .float hfinite hvalue

/-- A value stands for one integer at most. -/
theorem Denotes.unique {value : Value} {i j : Int} (h : value.Denotes i) (k : value.Denotes j) :
    i = j := by
  cases value with
  | int word => cases h; cases k; rfl
  | bool b => cases h <;> cases k <;> rfl
  | float x =>
      have hi := (denotes_float_iff.1 h).2
      exact hi.symm.trans (denotes_float_iff.1 k).2
  | string text =>
      have hi := denotes_string_iff.1 h
      exact Option.some.inj (hi.symm.trans (denotes_string_iff.1 k))
  | null | dateTime moment | json document => cases h

/-- What is taken for a value is the nearest integer of 64 bits to the one it stands for. -/
theorem exists_denotes {value : Value} {word : Int64} (h : value.asInt64? = some word) :
    ∃ i, value.Denotes i ∧ word = clampInt64 i := by
  cases value with
  | int other =>
      obtain rfl := Option.some.inj h
      exact ⟨_, .int other, (clampInt64_toInt other).symm⟩
  | bool b =>
      obtain rfl := Option.some.inj h
      cases b with
      | false => exact ⟨0, .no, (clampInt64_toInt 0).symm⟩
      | true => exact ⟨1, .yes, (clampInt64_toInt 1).symm⟩
  | float x =>
      rw [asInt64?] at h
      split at h
      case isTrue hwhole =>
        exact ⟨_, denotes_float_iff.2 ⟨hwhole, rfl⟩, (Option.some.inj h).symm⟩
      case isFalse => contradiction
  | string text =>
      obtain ⟨i, hread, hfits⟩ := Option.bind_eq_some_iff.1 h
      obtain rfl := toInt64?_eq_some_iff.1 hfits
      exact ⟨_, denotes_string_iff.2 hread, (clampInt64_toInt word).symm⟩
  | null | dateTime moment | json document => contradiction

/-- A value that stands for an integer of 64 bits is taken for it. -/
theorem asInt64?_of_denotes {value : Value} {i : Int} (h : value.Denotes i) {word : Int64}
    (hfits : word.toInt = i) : value.asInt64? = some word := by
  cases h with
  | int other => rw [asInt64?, Int64.toInt_inj.1 hfits]
  | no | yes => exact congrArg some (Int64.toInt_inj.1 hfits).symm
  | float hfinite hvalue =>
      obtain ⟨hwhole, rfl⟩ := denotes_float_iff.1 (.float hfinite hvalue)
      rw [asInt64?, if_pos hwhole, ← hfits, clampInt64_toInt]
  | string htext hdecimal hfront hback =>
      have hread := denotes_string_iff.1 (.string htext hdecimal hfront hback)
      rw [asInt64?, hread, Option.bind_some]
      exact toInt64?_eq_some_iff.2 hfits

end Value

/-! ### Milliseconds -/

namespace FieldKind

theorem coerce_of_isTimestamp {kind : FieldKind} (h : kind.isTimestamp = true) (zone : Zone)
    (raw : Value) :
    kind.coerce zone raw = millis raw := by
  cases kind with
  | createdAt | updatedAt => rfl
  | pk | string | integer | boolean | date | json => contradiction

/-- Milliseconds are made of the integer of 64 bits that is taken for the value, if it is not zero
and they fit. -/
theorem millis_eq (raw : Value) :
    millis raw = (raw.asInt64?.bind fun word =>
      if word = 0 then none else toInt64? (1000 * word.toInt)).elim .null .int := by
  unfold millis
  cases raw.asInt64? with
  | none => rfl
  | some word =>
      rw [Option.bind_some, Int.mul_comm]
      dsimp only
      split
      · rfl
      · cases toInt64? (word.toInt * 1000) <;> rfl

theorem millis_eq_null_or (raw : Value) :
    millis raw = .null ∨ ∃ milliseconds, millis raw = .int milliseconds := by
  rw [millis_eq]
  cases raw.asInt64?.bind fun word => if word = 0 then none else toInt64? (1000 * word.toInt) with
  | none => exact .inl rfl
  | some milliseconds => exact .inr ⟨milliseconds, rfl⟩

theorem millis_eq_int_iff {raw : Value} {milliseconds : Int64} :
    millis raw = .int milliseconds ↔
      ∃ word, raw.asInt64? = some word ∧ word ≠ 0 ∧ milliseconds.toInt = 1000 * word.toInt := by
  have helim (product? : Option Int64) :
      product?.elim Value.null .int = .int milliseconds ↔ product? = some milliseconds := by
    cases product? <;> simp
  rw [millis_eq, helim, Option.bind_eq_some_iff]
  refine exists_congr fun word => and_congr_right fun _ => ?_
  by_cases hzero : word = 0
  · rw [if_pos hzero]
    exact iff_of_false nofun fun h => h.1 hzero
  · rw [if_neg hzero, toInt64?_eq_some_iff]
    exact (and_iff_right hzero).symm

/-- An integer that is not the one taken for its value is so great that neither fits as
milliseconds. -/
theorem millis_eq_int_iff_denotes {raw : Value} {milliseconds : Int64} :
    millis raw = .int milliseconds ↔
      ∃ seconds, raw.Denotes seconds ∧ seconds ≠ 0 ∧ milliseconds.toInt = 1000 * seconds := by
  have hleast := milliseconds.le_toInt
  have hgreatest := milliseconds.toInt_lt
  rw [millis_eq_int_iff]
  constructor
  · rintro ⟨word, hword, hne, hproduct⟩
    obtain ⟨seconds, hdenotes, rfl⟩ := Value.exists_denotes hword
    have hnearest := toInt_clampInt64 seconds
    rw [Int64.toInt_minValue, Int64.toInt_maxValue] at hnearest
    -- Had the integer been cut, the word would be a limit, and no limit fits a thousand times.
    have hsame : (clampInt64 seconds).toInt = seconds := by omega
    refine ⟨seconds, hdenotes, ?_, by rw [hproduct, hsame]⟩
    rintro rfl
    exact hne (Int64.toInt_inj.1 hsame)
  · rintro ⟨seconds, hdenotes, hne, hproduct⟩
    have hsame : (Int64.ofInt seconds).toInt = seconds :=
      Int64.toInt_ofInt_of_le (by omega) (by omega)
    refine ⟨_, Value.asInt64?_of_denotes hdenotes hsame, ?_, by rw [hproduct, hsame]⟩
    intro hzero
    rw [hzero] at hsame
    exact hne hsame.symm

/-- Null stands for all that has no milliseconds: no integer, zero, and an integer of which the
milliseconds do not fit. -/
theorem millis_eq_null_iff {raw : Value} :
    millis raw = .null ↔ ∀ seconds, raw.Denotes seconds → seconds ≠ 0 →
      1000 * seconds < Int64.minValue.toInt ∨ Int64.maxValue.toInt < 1000 * seconds := by
  have hleast : Int64.minValue.toInt = -2 ^ 63 := Int64.toInt_minValue
  have hgreatest : Int64.maxValue.toInt = 2 ^ 63 - 1 := Int64.toInt_maxValue
  constructor
  · intro hnull seconds hdenotes hne
    by_contra hfits
    have hproduct : (Int64.ofInt (1000 * seconds)).toInt = 1000 * seconds :=
      Int64.toInt_ofInt_of_le (by omega) (by omega)
    have hsome := millis_eq_int_iff_denotes.2 ⟨seconds, hdenotes, hne, hproduct⟩
    rw [hnull] at hsome
    contradiction
  · intro hbeyond
    refine (millis_eq_null_or raw).resolve_right fun ⟨milliseconds, hsome⟩ => ?_
    obtain ⟨seconds, hdenotes, hne, hproduct⟩ := millis_eq_int_iff_denotes.1 hsome
    have hfits := milliseconds.minValue_le_toInt
    have hfits' := milliseconds.toInt_le
    have := hbeyond seconds hdenotes hne
    omega

/-- A floating-point number that no integer of 64 bits comes near is not cut to one. -/
theorem millis_float_of_beyond {x : Binary64}
    (h : x.isNaN = true ∨ x.isInfinite = true ∨
      x.value < Int64.minValue.toInt ∨ (Int64.maxValue.toInt : ℚ) < x.value) :
    millis (.float x) = .null := by
  refine millis_eq_null_iff.2 fun seconds hdenotes _ => ?_
  cases hdenotes with
  | float hfinite hvalue =>
      rw [hfinite.1, hfinite.2, hvalue, Int.cast_lt, Int.cast_lt] at h
      -- It denotes an integer, so it is finite, and only its size is left.
      have hbeyond := (h.resolve_left nofun).resolve_left nofun
      have hleast : Int64.minValue.toInt = -2 ^ 63 := Int64.toInt_minValue
      have hgreatest : Int64.maxValue.toInt = 2 ^ 63 - 1 := Int64.toInt_maxValue
      omega

theorem eq_of_millis_eq {raw other : Value} {seconds otherSeconds : Int}
    (hraw : raw.Denotes seconds) (hother : other.Denotes otherSeconds)
    (hsame : millis raw = millis other) (hsome : millis raw ≠ .null) : seconds = otherSeconds := by
  obtain ⟨milliseconds, hmillis⟩ := (millis_eq_null_or raw).resolve_left hsome
  obtain ⟨first, hfirst, -, hproduct⟩ := millis_eq_int_iff_denotes.1 hmillis
  obtain ⟨second, hsecond, -, hproduct'⟩ := millis_eq_int_iff_denotes.1 (hsame ▸ hmillis)
  obtain rfl := hraw.unique hfirst
  obtain rfl := hother.unique hsecond
  omega

/-- A timestamp is held as milliseconds if and only if the stored value stands for an integer other
than zero and a thousand times this integer has 64 bits, and then it is a thousand times this
integer. In all other cases it is null: nothing wraps around, and nothing is cut to the greatest or
least milliseconds that there are, floating-point numbers beyond them, infinite ones and those that
are none included. Different integers have different milliseconds. -/
theorem milliseconds_exact {kind : FieldKind} (htime : kind.isTimestamp = true) (zone : Zone)
    (raw : Value) :
    (∀ milliseconds : Int64, kind.coerce zone raw = .int milliseconds ↔
      ∃ seconds, raw.Denotes seconds ∧ seconds ≠ 0 ∧ milliseconds.toInt = 1000 * seconds) ∧
    (kind.coerce zone raw = .null ↔ ∀ seconds, raw.Denotes seconds → seconds ≠ 0 →
      1000 * seconds < Int64.minValue.toInt ∨ Int64.maxValue.toInt < 1000 * seconds) ∧
    (∀ x : Binary64, raw = .float x →
      (x.isNaN = true ∨ x.isInfinite = true ∨
        x.value < Int64.minValue.toInt ∨ (Int64.maxValue.toInt : ℚ) < x.value) →
      kind.coerce zone raw = .null) ∧
    (∀ (other : Value) (seconds otherSeconds : Int), raw.Denotes seconds →
      other.Denotes otherSeconds → kind.coerce zone raw = kind.coerce zone other →
      kind.coerce zone raw ≠ .null → seconds = otherSeconds) := by
  simp only [coerce_of_isTimestamp htime]
  refine ⟨fun _ => millis_eq_int_iff_denotes, millis_eq_null_iff, ?_, ?_⟩
  · rintro x rfl hbeyond
    exact millis_float_of_beyond hbeyond
  · intro other seconds otherSeconds hraw hother hsame hsome
    exact eq_of_millis_eq hraw hother hsame hsome

/-- The greatest number of whole seconds that fits is read from a text, and no other integer has its
milliseconds. The next integer is null, and so is infinity. -/
theorem milliseconds_exact_at_limit :
    FieldKind.createdAt.isTimestamp = true ∧
    FieldKind.createdAt.coerce .universal (.string " +9223372036854775\n")
      = .int 9223372036854775000 ∧
    FieldKind.createdAt.coerce .universal (.int 9223372036854776) = .null ∧
    FieldKind.createdAt.coerce .universal (.float (.infinity false)) = .null ∧
    ∀ (other : Value) (seconds : Int), other.Denotes seconds →
      FieldKind.createdAt.coerce .universal (.string " +9223372036854775\n")
        = FieldKind.createdAt.coerce .universal other →
      9223372036854775 = seconds := by
  have htime : FieldKind.createdAt.isTimestamp = true := rfl
  have hdenotes : (Value.string " +9223372036854775\n").Denotes 9223372036854775 :=
    Value.denotes_string_iff.2 (by decide +kernel)
  obtain ⟨hmillis, -, -, hinjective⟩ :=
    milliseconds_exact htime .universal (.string " +9223372036854775\n")
  have hsome := (hmillis 9223372036854775000).2 ⟨_, hdenotes, by decide, by decide⟩
  refine ⟨htime, hsome, ?_, ?_, fun other seconds hother hsame => ?_⟩
  · refine (milliseconds_exact htime .universal _).2.1.2 fun seconds hseconds _ => .inr ?_
    rw [← (Value.Denotes.int 9223372036854776).unique hseconds]
    decide
  · exact (milliseconds_exact htime .universal _).2.2.1 _ rfl (.inr (.inl rfl))
  · exact hinjective other _ seconds hdenotes hother hsame (by rw [hsome]; exact nofun)

end FieldKind

end RowMapper
