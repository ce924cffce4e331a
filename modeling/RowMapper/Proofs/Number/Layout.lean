import Mathlib.Data.List.TakeWhile
import RowMapper.Number.Layout
import RowMapper.Proofs.Number.Integer
import RowMapper.Proofs.Number.Shortest

/-!
# `RowMapper.Proofs.Number.Layout`: the text of a floating-point number tells the number

A layout that writes out all digits and has no exponent is read back by `textValue`. What is read
from the text of a number is its shortest decimal, which rounds to this number only. So two numbers
with one text are equal or are both NaN (`Layout.text_injective`).
-/

set_option autoImplicit false

namespace RowMapper.Number

/-- The number that digits with or without a point stand for. -/
def textValue (text : List Char) : ℚ :=
  let whole := text.takeWhile (· ≠ '.')
  let fraction := (text.dropWhile (· ≠ '.')).drop 1
  Nat.ofDigitChars 10 (whole ++ fraction) 0 / 10 ^ fraction.length

/-! ### Positional text -/

theorem ne_point_of_isDigit {whole : List Char} (h : ∀ c ∈ whole, c.isDigit = true) :
    ∀ c ∈ whole, decide (c ≠ '.') = true := by
  intro c hc
  rw [decide_eq_true_iff]
  rintro rfl
  exact absurd (h _ hc) (by decide)

/-- Digits with a point between them. -/
theorem textValue_point {whole : List Char} (h : ∀ c ∈ whole, c.isDigit = true)
    (fraction : List Char) : textValue (whole ++ '.' :: fraction)
      = Nat.ofDigitChars 10 (whole ++ fraction) 0 / 10 ^ fraction.length := by
  have hpoint := ne_point_of_isDigit h
  unfold textValue
  dsimp only
  rw [List.takeWhile_append_of_pos hpoint, List.dropWhile_append_of_pos hpoint,
    List.takeWhile_cons_of_neg (by simp), List.dropWhile_cons_of_neg (by simp), List.append_nil,
    List.drop_one, List.tail_cons]

/-- Digits alone. -/
theorem textValue_whole {whole : List Char} (h : ∀ c ∈ whole, c.isDigit = true) :
    textValue whole = Nat.ofDigitChars 10 whole 0 := by
  have hpoint := ne_point_of_isDigit h
  have htake : whole.takeWhile (· ≠ '.') = whole := List.takeWhile_eq_self_iff.2 hpoint
  have hdrop : whole.dropWhile (· ≠ '.') = [] := List.dropWhile_eq_nil_iff.2 hpoint
  unfold textValue
  dsimp only
  rw [htake, hdrop, List.drop_nil, List.append_nil, List.length_nil, pow_zero, div_one]

namespace Layout

/-- Setting the point does not change the value. -/
theorem textValue_positionalText (decimal : Decimal) :
    textValue (positionalText false (Nat.toDigits 10 decimal.digits) decimal.exponent)
      = decimal.value := by
  have hdigits : ∀ c ∈ Nat.toDigits 10 decimal.digits, c.isDigit = true :=
    fun c hc => Nat.isDigit_of_mem_toDigits (by decide) (by decide) hc
  have hvalue : Nat.ofDigitChars 10 (Nat.toDigits 10 decimal.digits) 0 = decimal.digits :=
    Nat.ofDigitChars_ten_toDigits
  unfold positionalText Decimal.value
  split
  case isTrue hwhole =>
    -- Zeros behind the digits.
    obtain ⟨zeros, hzeros⟩ := Int.eq_ofNat_of_zero_le hwhole
    have hall : ∀ c ∈ Nat.toDigits 10 decimal.digits ++ List.replicate zeros '0',
        c.isDigit = true :=
      List.forall_mem_append.2 ⟨hdigits, fun c hc => isDigit_of_mem_replicate hc⟩
    rw [if_neg Bool.false_ne_true, List.append_nil, hzeros, Int.toNat_natCast,
      textValue_whole hall, Nat.ofDigitChars_append, hvalue, Nat.ofDigitChars_replicate_zero,
      zpow_natCast]
    push_cast
    ring
  case isFalse hfraction =>
    obtain ⟨places, hplaces⟩ : ∃ places : ℕ, decimal.exponent = -(places : ℤ) :=
      ⟨(-decimal.exponent).toNat, by omega⟩
    have htoNat : (-decimal.exponent).toNat = places := by omega
    dsimp only
    rw [htoNat, hplaces, zpow_neg, zpow_natCast, ← div_eq_mul_inv]
    split
    case isTrue hlt =>
      -- The point falls among the digits.
      have hwhole : ∀ c ∈ (Nat.toDigits 10 decimal.digits).take
          ((Nat.toDigits 10 decimal.digits).length - places), c.isDigit = true :=
        fun c hc => hdigits c (List.mem_of_mem_take hc)
      have hlength : ((Nat.toDigits 10 decimal.digits).drop
          ((Nat.toDigits 10 decimal.digits).length - places)).length = places := by
        rw [List.length_drop]
        omega
      rw [textValue_point hwhole, List.take_append_drop, hvalue, hlength]
    case isFalse hle =>
      -- Zeros lead up to the digits.
      have hwhole : ∀ c ∈ ['0'], c.isDigit = true := by simp
      have hlength : (List.replicate (places - (Nat.toDigits 10 decimal.digits).length) '0'
          ++ Nat.toDigits 10 decimal.digits).length = places := by
        rw [List.length_append, List.length_replicate]
        omega
      have hpoint := textValue_point hwhole
        (List.replicate (places - (Nat.toDigits 10 decimal.digits).length) '0'
          ++ Nat.toDigits 10 decimal.digits)
      rw [List.singleton_append, hlength] at hpoint
      rw [hpoint, List.singleton_append, Nat.ofDigitChars_cons, Nat.ofDigitChars_append,
        Nat.ofDigitChars_replicate_zero]
      simp [hvalue]

/-! ### The texts of different numbers -/

variable (layout : Layout)

/-- The text of a number other than NaN without its sign. -/
def magnitudeChars (x : Binary64) : List Char :=
  if x.isInfinite then ['i', 'n', 'f']
  else if x.isZero then positionalText layout.pointZero ['0'] 0
  else layout.decimalText (x.shortest layout.tie)

theorem text_of_isNaN {x : Binary64} (h : x.isNaN = true) : layout.text x = "NaN" := by
  rw [text, if_pos h]

theorem toList_text {x : Binary64} (h : x.isNaN = false) : (layout.text x).toList
    = if x.isNegative then '-' :: layout.magnitudeChars x else layout.magnitudeChars x := by
  rw [text, if_neg (Bool.eq_false_iff.1 h)]
  exact String.toList_ofList

/-- Digits are set out without an exponent, and integers without a point. -/
structure Plain : Prop where
  positional : ∀ leading, layout.positional leading = true
  pointless : layout.pointZero = false

variable {layout}

theorem Plain.decimalText_eq (hplain : layout.Plain) (decimal : Decimal) :
    layout.decimalText decimal
      = positionalText false (Nat.toDigits 10 decimal.digits) decimal.exponent := by
  unfold decimalText
  dsimp only
  rw [if_pos (hplain.positional _), hplain.pointless]

theorem mem_positionalText {digits : List Char} (h : ∀ c ∈ digits, c.isDigit = true)
    {exponent : ℤ} {c : Char} (hc : c ∈ positionalText false digits exponent) :
    c.isDigit = true ∨ c = '.' := by
  have hzero (n : Nat) (hmem : c ∈ List.replicate n '0') := isDigit_of_mem_replicate hmem
  unfold positionalText at hc
  dsimp only at hc
  split at hc
  · simp only [Bool.false_eq_true, if_false, List.append_nil, List.mem_append] at hc
    rcases hc with hc | hc
    · exact .inl (h c hc)
    · exact .inl (hzero _ hc)
  · split at hc
    · rw [List.mem_append, List.mem_cons] at hc
      rcases hc with hc | hc | hc
      · exact .inl (h c (List.mem_of_mem_take hc))
      · exact .inr hc
      · exact .inl (h c (List.mem_of_mem_drop hc))
    · simp only [List.mem_cons, List.mem_append] at hc
      rcases hc with hc | hc | hc | hc
      · exact .inl (hc ▸ rfl)
      · exact .inr hc
      · exact .inl (hzero _ hc)
      · exact .inl (h c hc)

/-- A finite number has only digits and perhaps a point in its text. -/
theorem Plain.mem_magnitudeChars (hplain : layout.Plain) {x : Binary64}
    (hfinite : x.isInfinite = false) {c : Char} (hc : c ∈ layout.magnitudeChars x) :
    c.isDigit = true ∨ c = '.' := by
  unfold magnitudeChars at hc
  rw [if_neg (Bool.eq_false_iff.1 hfinite)] at hc
  split at hc
  · rw [hplain.pointless] at hc
    exact mem_positionalText (by simp) hc
  · rw [hplain.decimalText_eq] at hc
    exact mem_positionalText
      (fun d hd => Nat.isDigit_of_mem_toDigits (by decide) (by decide) hd) hc

theorem magnitudeChars_of_isInfinite {x : Binary64} (h : x.isInfinite = true) :
    layout.magnitudeChars x = ['i', 'n', 'f'] := by
  rw [magnitudeChars, if_pos h]

/-- The characters of a number. -/
theorem Plain.mem_text (hplain : layout.Plain) {x : Binary64} {c : Char}
    (hc : c ∈ (layout.text x).toList) :
    c.isDigit = true ∨ c ∈ ['.', '-', 'N', 'a', 'i', 'n', 'f'] := by
  cases hnan : x.isNaN with
  | true =>
      rw [text_of_isNaN layout hnan] at hc
      refine .inr ?_
      have hname : "NaN".toList = ['N', 'a', 'N'] := by decide
      rw [hname] at hc
      simp only [List.mem_cons, List.not_mem_nil, or_false] at hc ⊢
      tauto
  | false =>
      have hmagnitude (hmem : c ∈ layout.magnitudeChars x) :
          c.isDigit = true ∨ c ∈ ['.', '-', 'N', 'a', 'i', 'n', 'f'] := by
        cases hinf : x.isInfinite with
        | true =>
            rw [magnitudeChars_of_isInfinite hinf] at hmem
            refine .inr ?_
            simp only [List.mem_cons, List.not_mem_nil, or_false] at hmem ⊢
            tauto
        | false => exact (hplain.mem_magnitudeChars hinf hmem).imp_right (by simp [·])
      rw [toList_text layout hnan] at hc
      split at hc
      · rcases List.mem_cons.1 hc with rfl | hc
        · exact .inr (by simp)
        · exact hmagnitude hc
      · exact hmagnitude hc

/-- The value of the text of a finite number rounds to the number. -/
theorem Plain.contains_textValue (hplain : layout.Plain) {x : Binary64}
    (hfinite : x.isInfinite = false) (hpos : 0 < x.magnitude) :
    x.roundingInterval.Contains (textValue (layout.magnitudeChars x)) := by
  have hzero : x.isZero = false := by
    rw [Binary64.isZero, beq_eq_false_iff_ne]
    exact hpos.ne'
  unfold magnitudeChars
  rw [if_neg (Bool.eq_false_iff.1 hfinite), if_neg (Bool.eq_false_iff.1 hzero),
    hplain.decimalText_eq, textValue_positionalText]
  exact x.contains_shortest _ hpos

theorem Plain.textValue_zero (hplain : layout.Plain) {x : Binary64}
    (hfinite : x.isInfinite = false) (hzero : x.magnitude = 0) :
    textValue (layout.magnitudeChars x) = 0 := by
  have hzero : x.isZero = true := beq_iff_eq.2 hzero
  unfold magnitudeChars
  rw [if_neg (Bool.eq_false_iff.1 hfinite), if_pos hzero, hplain.pointless]
  have hvalue := textValue_positionalText ⟨0, 0⟩
  rw [Nat.toDigits_zero] at hvalue
  rw [hvalue, Decimal.value, Nat.cast_zero, zero_mul]

/-- Numbers with the same text but for the sign have the same magnitude. -/
theorem Plain.magnitude_eq (hplain : layout.Plain) {x y : Binary64}
    (h : layout.magnitudeChars x = layout.magnitudeChars y) : x.magnitude = y.magnitude := by
  have hinfinite {a b : Binary64} (ha : a.isInfinite = true) (hb : b.isInfinite = false)
      (hsame : layout.magnitudeChars a = layout.magnitudeChars b) : False := by
    have hletter : 'i' ∈ layout.magnitudeChars b := by
      rw [← hsame, magnitudeChars_of_isInfinite ha]
      exact List.mem_cons_self
    exact absurd (hplain.mem_magnitudeChars hb hletter) (by decide)
  cases hx : x.isInfinite <;> cases hy : y.isInfinite
  · -- Both are finite: the value of the text rounds to one magnitude only.
    have hvalue := congrArg textValue h
    rcases Nat.eq_zero_or_pos x.magnitude with hx0 | hxpos <;>
      rcases Nat.eq_zero_or_pos y.magnitude with hy0 | hypos
    · rw [hx0, hy0]
    · rw [hplain.textValue_zero hx hx0] at hvalue
      exact absurd hvalue (y.pos_of_contains hypos (hplain.contains_textValue hy hypos)).ne
    · rw [hplain.textValue_zero hy hy0] at hvalue
      exact absurd hvalue (x.pos_of_contains hxpos (hplain.contains_textValue hx hxpos)).ne'
    · have hcontains := hplain.contains_textValue hx hxpos
      rw [hvalue] at hcontains
      exact Binary64.magnitude_eq_of_contains hxpos hypos hcontains
        (hplain.contains_textValue hy hypos)
  · exact (hinfinite hy hx h.symm).elim
  · exact (hinfinite hx hy h).elim
  · exact (beq_iff_eq.1 hx).trans (beq_iff_eq.1 hy).symm

/-- A sign is not part of a magnitude. -/
theorem Plain.sign_not_mem (hplain : layout.Plain) (x : Binary64) :
    '-' ∉ layout.magnitudeChars x := by
  intro hmem
  cases hinf : x.isInfinite with
  | true =>
      rw [magnitudeChars_of_isInfinite hinf] at hmem
      exact absurd hmem (by decide)
  | false => exact absurd (hplain.mem_magnitudeChars hinf hmem) (by decide)

/-- The name of NaN is not the text of a number. -/
theorem Plain.text_ne_nan (hplain : layout.Plain) {x : Binary64} (h : x.isNaN = false) :
    layout.text x ≠ "NaN" := by
  intro hname
  have hletter : 'N' ∈ (layout.text x).toList := by
    rw [hname]
    decide
  rw [toList_text layout h] at hletter
  have hmagnitude : 'N' ∉ layout.magnitudeChars x := by
    intro hmem
    cases hinf : x.isInfinite with
    | true =>
        rw [magnitudeChars_of_isInfinite hinf] at hmem
        exact absurd hmem (by decide)
    | false => exact absurd (hplain.mem_magnitudeChars hinf hmem) (by decide)
  split at hletter
  · rcases List.mem_cons.1 hletter with hletter | hletter
    · exact absurd hletter (by decide)
    · exact hmagnitude hletter
  · exact hmagnitude hletter

/-- Numbers with the same text are equal, or both are NaN. -/
theorem Plain.text_injective (hplain : layout.Plain) {x y : Binary64}
    (h : layout.text x = layout.text y) :
    x.same y = true ∨ x.isNaN = true ∧ y.isNaN = true := by
  cases hx : x.isNaN <;> cases hy : y.isNaN
  · refine .inl ?_
    have hchars := congrArg String.toList h
    rw [toList_text layout hx, toList_text layout hy] at hchars
    have hkey : x.orderKey = y.orderKey := by
      unfold Binary64.orderKey
      -- The sign comes first in the text and nowhere else.
      split at hchars <;> split at hchars
      · rw [if_pos ‹_›, if_pos ‹_›, hplain.magnitude_eq (List.cons.inj hchars).2]
      · exact absurd (hchars ▸ List.mem_cons_self) (hplain.sign_not_mem y)
      · exact absurd (hchars ▸ List.mem_cons_self) (hplain.sign_not_mem x)
      · rw [if_neg ‹_›, if_neg ‹_›, hplain.magnitude_eq hchars]
    simp [Binary64.same, hx, hy, hkey]
  · exact absurd (h.trans (text_of_isNaN layout hy)) (hplain.text_ne_nan hx)
  · exact absurd (h.symm.trans (text_of_isNaN layout hx)) (hplain.text_ne_nan hy)
  · exact .inr ⟨rfl, rfl⟩

end Layout

end RowMapper.Number
