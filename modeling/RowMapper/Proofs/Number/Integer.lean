import Mathlib.Data.Nat.Digits.Defs
import RowMapper.Number.Integer

/-!
# `RowMapper.Proofs.Number.Integer`: decimal text

The decimal text of a natural number is a row of digits (`isDigit_of_mem_naturalText`) from which
the number is read back, so that different numbers have different texts
(`naturalText_injective`, `integerText_injective`). Other texts are read as well: leading zeros and
either sign may stand in front (`IsDecimal`, `readInteger?_eq_some_iff`).

An integer of 64 bits is one of the integers that fit (`toInt64?_eq_some_iff`), and those that do
not are kept between the least and the greatest one that does (`toInt_clampInt64`).
-/

set_option autoImplicit false

namespace RowMapper.Number

theorem isDigit_of_mem_naturalText {n : Nat} {c : Char} (h : c ∈ (naturalText n).toList) :
    c.isDigit = true := by
  rw [naturalText, String.toList_ofList] at h
  exact Nat.isDigit_of_mem_toDigits (by decide) (by decide) h

theorem isDigit_of_mem_replicate {n : Nat} {c : Char} (h : c ∈ List.replicate n '0') :
    c.isDigit = true := by
  rw [(List.mem_replicate.1 h).2]
  rfl

theorem naturalText_injective {m n : Nat} (h : naturalText m = naturalText n) : m = n := by
  have hdigits : Nat.toDigits 10 m = Nat.toDigits 10 n := String.ofList_injective h
  have hvalue := congrArg (Nat.ofDigitChars 10 · 0) hdigits
  simpa only [Nat.ofDigitChars_ten_toDigits] using hvalue

/-- The text of a number that is not negative does not begin with a sign. -/
theorem sign_append_ne_naturalText (text : String) (n : Nat) : "-" ++ text ≠ naturalText n := by
  intro h
  have hmem : '-' ∈ (naturalText n).toList := by
    rw [← h, String.toList_append]
    exact List.mem_append_left _ (by decide)
  exact absurd (isDigit_of_mem_naturalText hmem) (by decide)

theorem integerText_injective {i j : Int} (h : integerText i = integerText j) : i = j := by
  unfold integerText at h
  split at h <;> split at h
  · have habs := naturalText_injective (String.append_right_inj "-" |>.1 h)
    omega
  · exact absurd h (sign_append_ne_naturalText _ _)
  · exact absurd h.symm (sign_append_ne_naturalText _ _)
  · have habs := naturalText_injective h
    omega

/-! ### Reading -/

/-- A row of decimal digits, one at least. -/
def IsNumeral (text : List Char) : Prop :=
  text ≠ [] ∧ ∀ c ∈ text, c.isDigit = true

/-- The number of a row of digits, of which the last counts ones. -/
def numeralValue (digits : List Char) : Nat :=
  Nat.ofDigits 10 (digits.reverse.map fun c => c.toNat - '0'.toNat)

/-- The text is a decimal of the integer: a row of digits, maybe behind a sign. -/
inductive IsDecimal : List Char → Int → Prop
  | unsigned {digits : List Char} (h : IsNumeral digits) : IsDecimal digits (numeralValue digits)
  | plus {digits : List Char} (h : IsNumeral digits) :
      IsDecimal ('+' :: digits) (numeralValue digits)
  | minus {digits : List Char} (h : IsNumeral digits) :
      IsDecimal ('-' :: digits) (-numeralValue digits)

/-- Reading digits from the left, each one shifts what is before it by a place. -/
theorem ofDigitChars_eq (digits : List Char) (n : Nat) :
    Nat.ofDigitChars 10 digits n = n * 10 ^ digits.length + numeralValue digits := by
  induction digits generalizing n with
  | nil => simp [numeralValue]
  | cons c rest ih =>
      have hvalue : numeralValue (c :: rest)
          = numeralValue rest + 10 ^ rest.length * (c.toNat - '0'.toNat) := by
        rw [numeralValue, List.reverse_cons, List.map_append, Nat.ofDigits_append,
          List.length_map, List.length_reverse, List.map_singleton, Nat.ofDigits_singleton,
          numeralValue]
      rw [Nat.ofDigitChars_cons, ih, hvalue, List.length_cons, Nat.pow_succ]
      ring

theorem readNatural?_eq_some_iff {text : List Char} {n : Nat} :
    readNatural? text = some n ↔ IsNumeral text ∧ numeralValue text = n := by
  have hnumeral : (!text.isEmpty && text.all Char.isDigit) = true ↔ IsNumeral text := by
    rw [Bool.and_eq_true, Bool.not_eq_true', List.isEmpty_eq_false_iff, List.all_eq_true, IsNumeral]
  unfold readNatural?
  rw [ofDigitChars_eq, Nat.zero_mul, Nat.zero_add]
  split
  case isTrue h => rw [Option.some_inj, and_iff_right (hnumeral.1 h)]
  case isFalse h => exact iff_of_false nofun fun hread => h (hnumeral.2 hread.1)

/-- Exactly the decimals are read, and as the integers they stand for. -/
theorem readInteger?_eq_some_iff {text : List Char} {i : Int} :
    readInteger? text = some i ↔ IsDecimal text i := by
  constructor
  · intro h
    rw [readInteger?.eq_def] at h
    split at h
    all_goals
      obtain ⟨_, hlift, rfl⟩ := Option.map_eq_some_iff.1 h
      obtain ⟨n, hread, hn⟩ := Option.bind_eq_some_iff.1 hlift
      obtain rfl := Option.some.inj hn
      obtain ⟨hdigits, rfl⟩ := readNatural?_eq_some_iff.1 hread
    · exact .minus hdigits
    · exact .plus hdigits
    · exact .unsigned hdigits
  · intro h
    cases h with
    | plus h | minus h =>
        rw [readInteger?, readNatural?_eq_some_iff.2 ⟨h, rfl⟩]
        rfl
    | unsigned h =>
        -- A row of digits does not begin with a sign.
        have hread := readNatural?_eq_some_iff.2 ⟨h, rfl⟩
        rw [readInteger?.eq_def]
        split
        · exact absurd (h.2 '-' List.mem_cons_self) (by decide)
        · exact absurd (h.2 '+' List.mem_cons_self) (by decide)
        · rw [hread]
          rfl

/-! ### Integers of 64 bits -/

/-- What has 64 bits already fits. -/
theorem toInt64?_toInt (i : Int64) : toInt64? i.toInt = some i := by
  have hlower := i.le_toInt
  have hupper := i.toInt_lt
  rw [toInt64?, if_pos (by omega), Int64.ofInt_toInt]

theorem toInt64?_eq_some_iff {i : Int} {word : Int64} :
    toInt64? i = some word ↔ word.toInt = i := by
  constructor
  · intro h
    unfold toInt64? at h
    split at h
    case isTrue hfits =>
      rw [← Option.some.inj h]
      exact Int64.toInt_ofInt_of_le hfits.1 hfits.2
    case isFalse => contradiction
  · rintro rfl
    exact toInt64?_toInt word

/-- The nearest integer of 64 bits is between the least and the greatest. -/
theorem toInt_clampInt64 (i : Int) :
    (clampInt64 i).toInt = max Int64.minValue.toInt (min i Int64.maxValue.toInt) := by
  rw [Int64.toInt_minValue, Int64.toInt_maxValue]
  unfold clampInt64
  split
  · rw [Int64.toInt_minValue]
    omega
  · split
    · rw [Int64.toInt_maxValue]
      omega
    · rw [Int64.toInt_ofInt_of_le (by omega) (by omega)]
      omega

theorem clampInt64_toInt (i : Int64) : clampInt64 i.toInt = i := by
  have hleast := i.minValue_le_toInt
  have hgreatest := i.toInt_le
  rw [← Int64.toInt_inj, toInt_clampInt64, min_eq_left hgreatest, max_eq_right hleast]

end RowMapper.Number
