import RowMapper.Proofs.Number.Interval

/-!
# `RowMapper.Proofs.Number.Integral`: floating-point numbers without a fraction

A finite number is a sign, a fraction and a place (`Binary64.value`, by the three fields of its
bits). Multiplied by the places below the point it is a whole number, whatever the sign of the
exponent (`value_mul_twoTo`), so whether it has a fraction is a question of divisibility
(`isIntegral_iff_dvd`).

`isIntegral_truncate_iff`: a number passes as integral exactly if it is finite and its value is an
integer, and then this integer is what remains of it.
-/

set_option autoImplicit false

namespace RowMapper.Number.Binary64

/-- The number that the bits of a finite number stand for. The fraction is behind a one, except at
the least exponent, where it is behind a zero. -/
def value (x : Binary64) : ℚ :=
  (if x.isNegative then -1 else 1) *
    (if x.exponentField = 0 then (x.fractionField / 2 ^ 52 : ℚ) * 2 ^ (-1022 : ℤ)
      else (1 + x.fractionField / 2 ^ 52 : ℚ) * 2 ^ ((x.exponentField : ℤ) - 1023))

variable (x : Binary64)

theorem value_eq :
    x.value = (if x.isNegative then -1 else 1) * (x.significand * 2 ^ x.scale) := by
  have htwo : (2 : ℚ) ≠ 0 := by norm_num
  have hplaces : (2 : ℚ) ^ (52 : ℤ) = 2 ^ 52 := by norm_cast
  unfold value significand
  congr 1
  split
  case isTrue hsub =>
    have hscale : x.scale = -1022 - 52 := by
      unfold scale
      omega
    rw [hscale, zpow_sub₀ htwo, hplaces]
    ring
  case isFalse hnormal =>
    have hscale : x.scale = (x.exponentField : ℤ) - 1023 - 52 := by
      unfold scale
      omega
    rw [hscale, zpow_sub₀ htwo _ 52, hplaces]
    push_cast
    ring

/-- Without the places below the point, a number is a whole one. -/
theorem value_mul_twoTo :
    x.value * twoTo (-x.scale).toNat
      = (if x.isNegative then -1 else 1) * (x.significand * twoTo x.scale.toNat : ℕ) := by
  have hsame : (2 : ℚ) ^ x.scale * twoTo (-x.scale).toNat = twoTo x.scale.toNat :=
    (twoTo_toNat_neg x.scale).symm
  rw [value_eq, Nat.cast_mul, ← hsame]
  ring

/-- Of the powers above and below the point, one at least is one. -/
theorem twoTo_toNat_of_nonpos {exponent : ℤ} (h : exponent ≤ 0) : twoTo exponent.toNat = 1 := by
  rw [Int.toNat_eq_zero.2 h]
  rfl

theorem wholePart_eq :
    x.wholePart = x.significand * twoTo x.scale.toNat / twoTo (-x.scale).toNat := by
  unfold wholePart
  split
  case isTrue h => rw [twoTo_toNat_of_nonpos (Int.neg_nonpos_of_nonneg h), Nat.div_one]
  case isFalse h => rw [twoTo_toNat_of_nonpos (not_le.1 h).le, Nat.mul_one]

theorem isIntegral_iff_dvd :
    x.isIntegral = true ↔ (x.isNaN = false ∧ x.isInfinite = false) ∧
      twoTo (-x.scale).toNat ∣ x.significand * twoTo x.scale.toNat := by
  have hfinite : x.magnitude < infiniteMagnitude ↔ x.isNaN = false ∧ x.isInfinite = false := by
    unfold isNaN isInfinite
    rw [decide_eq_false_iff_not, beq_eq_false_iff_ne]
    omega
  have hwhole : (0 ≤ x.scale ∨ x.significand % twoTo (-x.scale).toNat = 0)
      ↔ twoTo (-x.scale).toNat ∣ x.significand * twoTo x.scale.toNat := by
    by_cases h : 0 ≤ x.scale
    · rw [twoTo_toNat_of_nonpos (Int.neg_nonpos_of_nonneg h)]
      exact iff_of_true (.inl h) (one_dvd _)
    · rw [twoTo_toNat_of_nonpos (not_le.1 h).le, Nat.mul_one, Nat.dvd_iff_mod_eq_zero]
      exact or_iff_right h
  rw [← hfinite, ← hwhole, isIntegral, Bool.and_eq_true, Bool.or_eq_true, decide_eq_true_iff,
    decide_eq_true_iff, beq_iff_eq]

/-- The value against an integer, in units of the last place or of one, whichever is smaller. -/
theorem value_eq_intCast_iff (i : ℤ) :
    x.value = i ↔ (if x.isNegative then -1 else 1)
      * ((x.significand * twoTo x.scale.toNat : ℕ) : ℤ) = i * twoTo (-x.scale).toNat := by
  have hplaces : (0 : ℚ) < twoTo (-x.scale).toNat := by exact_mod_cast twoTo_pos (-x.scale).toNat
  rw [← mul_left_inj' hplaces.ne', value_mul_twoTo]
  split <;> norm_cast

/-- The numbers that pass as integral, and what remains of them, are the finite ones whose value is
an integer, and this integer. -/
theorem isIntegral_truncate_iff (i : ℤ) :
    x.isIntegral = true ∧ x.truncate = i
      ↔ (x.isNaN = false ∧ x.isInfinite = false) ∧ x.value = i := by
  have hplaces := twoTo_pos (-x.scale).toNat
  rw [isIntegral_iff_dvd, and_assoc, value_eq_intCast_iff, truncate, wholePart_eq]
  refine and_congr_right fun _ => ?_
  -- From here on it is a division of whole numbers, and the format plays no part.
  generalize x.significand * twoTo x.scale.toNat = units at *
  generalize twoTo (-x.scale).toNat = places at *
  constructor
  · rintro ⟨⟨count, rfl⟩, rfl⟩
    rw [Nat.mul_div_cancel_left count hplaces]
    split <;> push_cast <;> ring
  · intro h
    have hdvd : (places : ℤ) ∣ units := by
      split at h
      · exact ⟨-i, by linarith⟩
      · exact ⟨i, by linarith⟩
    obtain ⟨count, rfl⟩ := Int.natCast_dvd_natCast.1 hdvd
    refine ⟨dvd_mul_right _ _, ?_⟩
    rw [Nat.mul_div_cancel_left count hplaces]
    have hne : (places : ℤ) ≠ 0 := by omega
    refine mul_right_cancel₀ hne ?_
    rw [← h]
    split <;> push_cast <;> ring

end RowMapper.Number.Binary64
