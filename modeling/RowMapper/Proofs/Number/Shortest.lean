import RowMapper.Proofs.Number.Interval

/-!
# `RowMapper.Proofs.Number.Shortest`: the shortest decimal reads back

The search for the shortest decimal of a number tries seventeen grids, from the place of the leading
digit downwards. On the last one, two neighbouring points are nearer to each other than the ends of
the rounding interval, so that one of the two around the number is a hit (`searchGrids_ne_none`).
Whatever the search finds lies in the interval, and so does the shortest decimal
(`contains_shortest`).
-/

set_option autoImplicit false

namespace RowMapper.Number.Binary64

/-! ### The leading digit -/

theorem pow_length_toDigits_le {n : Nat} (h : 0 < n) :
    10 ^ ((Nat.toDigits 10 n).length - 1) ≤ n := by
  by_cases hone : (Nat.toDigits 10 n).length - 1 = 0
  · rw [hone]
    exact h
  · by_contra hlt
    have hlength := (Nat.length_toDigits_le_iff (b := 10) (by decide) (by omega)).2
      (Nat.lt_of_not_le hlt)
    omega

theorem lt_pow_length_toDigits (n : Nat) : n < 10 ^ (Nat.toDigits 10 n).length :=
  (Nat.length_toDigits_le_iff (by decide) Nat.length_toDigits_pos).1 (le_refl _)

/-- The place of the leading digit is not above the quotient. -/
theorem leadingExponent_le {num den : Nat} (hnum : 0 < num) (hden : 0 < den) :
    (10 : ℚ) ^ leadingExponent num den * den ≤ num := by
  unfold leadingExponent
  split
  case isTrue hle =>
    have hpow := pow_length_toDigits_le (Nat.div_pos hle hden)
    have hpos : 0 < (Nat.toDigits 10 (num / den)).length := Nat.length_toDigits_pos
    have hexponent : ((Nat.toDigits 10 (num / den)).length : ℤ) - 1
        = (((Nat.toDigits 10 (num / den)).length - 1 : ℕ) : ℤ) := by omega
    rw [hexponent, zpow_natCast]
    exact_mod_cast (Nat.le_div_iff_mul_le hden).1 hpow
  case isFalse hlt =>
    dsimp only
    have hpos : 0 < (Nat.toDigits 10 (den / num)).length := Nat.length_toDigits_pos
    generalize hplaces : (Nat.toDigits 10 (den / num)).length = places at hpos ⊢
    split
    case isTrue heq =>
      -- The quotient is a power of ten.
      have hexponent : (1 : ℤ) - places = -((places - 1 : ℕ) : ℤ) := by omega
      have hcast : (num : ℚ) * 10 ^ (places - 1) = den := by exact_mod_cast heq
      rw [hexponent, zpow_neg, zpow_natCast, inv_mul_le_iff₀ (by positivity), ← hcast]
      exact le_of_eq (mul_comm _ _)
    case isFalse =>
      have hpow := lt_pow_length_toDigits (den / num)
      rw [hplaces, Nat.div_lt_iff_lt_mul hnum] at hpow
      rw [zpow_neg, zpow_natCast, inv_mul_le_iff₀ (by positivity)]
      exact_mod_cast hpow.le

/-! ### The search -/

theorem RoundingInterval.holds_of_nearest? {tie : Tie} {interval : RoundingInterval} {digits : Nat}
    (h : interval.nearest? tie = some digits) : interval.holds digits = true := by
  unfold RoundingInterval.nearest? at h
  dsimp only at h
  generalize hbelow : interval.mid / interval.den = below at h
  -- Whichever neighbour is taken, it has been tested.
  split at h
  · contradiction
  · simp_all
  · simp_all
  · split at h
    · simp_all
    · split at h
      · simp_all
      · cases tie with
        | up => simp_all
        | toEven =>
            simp only [Option.some.injEq] at h
            split at h <;> simp_all

/-- If neither neighbour on a grid is a hit, the interval is not wider than the grid. -/
theorem RoundingInterval.high_le_of_nearest?_eq_none {tie : Tie} {interval : RoundingInterval}
    (hden : 0 < interval.den) (hlow : interval.low < interval.mid)
    (hhigh : interval.mid < interval.high) (h : interval.nearest? tie = none) :
    interval.high ≤ interval.low + interval.den := by
  have hbelow := Nat.div_mul_le_self interval.mid interval.den
  have habove := Nat.lt_div_mul_add hden (a := interval.mid)
  have hnext : (interval.mid / interval.den + 1) * interval.den
      = interval.mid / interval.den * interval.den + interval.den := Nat.succ_mul ..
  have hmiss : interval.holds (interval.mid / interval.den) = false ∧
      interval.holds (interval.mid / interval.den + 1) = false := by
    unfold RoundingInterval.nearest? at h
    dsimp only at h
    split at h
    · exact ⟨‹_›, ‹_›⟩
    · contradiction
    · contradiction
    · split at h
      · contradiction
      · split at h
        · contradiction
        · cases tie <;> contradiction
  unfold RoundingInterval.holds at hmiss
  dsimp only at hmiss
  rw [hnext] at hmiss
  split at hmiss <;> grind

theorem searchGrids_contains {tie : Tie} {interval : RoundingInterval} {decimal : Decimal}
    {grids : Nat} {place : ℤ} (h : searchGrids tie interval grids place = some decimal) :
    interval.Contains decimal.value := by
  induction grids generalizing place with
  | zero => contradiction
  | succ grids ih =>
      rw [searchGrids] at h
      split at h
      case h_1 digits hdigits =>
        cases h
        exact (interval.holds_inUnits ⟨digits, place⟩).1
          (RoundingInterval.holds_of_nearest? hdigits)
      case h_2 => exact ih h

/-- A search without a hit has missed on its last grid. -/
theorem nearest?_of_searchGrids_eq_none {tie : Tie} {interval : RoundingInterval} {grids : Nat}
    {place : ℤ} (h : searchGrids tie interval (grids + 1) place = none) :
    (interval.inUnits (place - grids)).nearest? tie = none := by
  induction grids generalizing place with
  | zero =>
      rw [searchGrids] at h
      split at h
      · contradiction
      · rwa [Nat.cast_zero, sub_zero]
  | succ grids ih =>
      rw [searchGrids] at h
      split at h
      · contradiction
      · have hlast := ih h
        have hplace : place - 1 - (grids : ℤ) = place - ((grids + 1 : ℕ) : ℤ) := by
          push_cast
          ring
        rwa [hplace] at hlast

theorem value_dropZeros (fuel : Nat) (decimal : Decimal) :
    (dropZeros fuel decimal).value = decimal.value := by
  induction fuel generalizing decimal with
  | zero => rfl
  | succ fuel ih =>
      rw [dropZeros]
      split
      case isTrue h =>
        rw [ih]
        have hdigits : decimal.digits = 10 * (decimal.digits / 10) := by omega
        have hcast : (decimal.digits : ℚ) = 10 * ((decimal.digits / 10 : ℕ) : ℚ) := by
          exact_mod_cast hdigits
        unfold Decimal.value
        rw [hcast, zpow_add_one₀ (by norm_num : (10 : ℚ) ≠ 0)]
        ring
      case isFalse => rfl

/-! ### The shortest decimal -/

variable (x : Binary64)

theorem significand_lt : x.significand < 2 ^ 53 := by
  have hlt : x.fractionField < 2 ^ 52 := Nat.mod_lt _ (by decide)
  unfold significand
  split <;> omega

theorem significand_pos (h : 0 < x.magnitude) : 0 < x.significand :=
  Nat.pos_of_mul_pos_right (significand_mul_lastPlace x ▸ units_pos h)

/-- In quarters of its last place, the interval of a number is too wide to be as narrow as the
number in its seventeenth digit. -/
theorem mid_lt_width (h : 0 < x.magnitude) :
    10 ^ 16 * x.roundingInterval.low + x.roundingInterval.mid
      < 10 ^ 16 * x.roundingInterval.high := by
  have hpos := x.significand_pos h
  have hlt := x.significand_lt
  have hup := twoTo_pos (x.scale - 2).toNat
  have hquarters : 10 ^ 16 * (if x.fractionField = 0 ∧ 1 < x.exponentField
      then 4 * x.significand - 1 else 4 * x.significand - 2) + 4 * x.significand
        < 10 ^ 16 * (4 * x.significand + 2) := by
    split
    case isTrue hpower =>
      -- Below a power of two the interval is narrower, but the significand is only half as great.
      have hsignificand : x.significand = 2 ^ 52 := by
        unfold significand
        rw [if_neg (by omega), hpower.1]
        norm_num
      omega
    case isFalse => omega
  have hscaled := Nat.mul_lt_mul_of_pos_right hquarters hup
  unfold roundingInterval
  dsimp only
  rwa [Nat.add_mul, Nat.mul_assoc, Nat.mul_assoc (10 ^ 16)] at hscaled

theorem low_lt_mid (h : 0 < x.magnitude) : x.roundingInterval.low < x.roundingInterval.mid := by
  have hpos := x.significand_pos h
  unfold roundingInterval
  dsimp only
  refine Nat.mul_lt_mul_of_pos_right ?_ (twoTo_pos _)
  split <;> omega

theorem mid_lt_high : x.roundingInterval.mid < x.roundingInterval.high :=
  Nat.mul_lt_mul_of_pos_right (by omega) (twoTo_pos _)

/-- Seventeen digits suffice: on the grid of the seventeenth, the points are nearer to each other
than the ends of the interval. -/
theorem searchGrids_ne_none (tie : Tie) (h : 0 < x.magnitude) :
    searchGrids tie x.roundingInterval 17
      (leadingExponent x.roundingInterval.mid x.roundingInterval.den) ≠ none := by
  intro hnone
  have hmid := lt_of_le_of_lt (Nat.zero_le _) (x.low_lt_mid h)
  have hden : 0 < x.roundingInterval.den := twoTo_pos _
  have hleading := leadingExponent_le hmid hden
  obtain ⟨place, hplace⟩ : ∃ place : ℤ,
      leadingExponent x.roundingInterval.mid x.roundingInterval.den = place + (16 : ℕ) :=
    ⟨_, (sub_add_cancel _ _).symm⟩
  rw [hplace] at hnone hleading
  have hmiss := nearest?_of_searchGrids_eq_none hnone
  rw [add_sub_cancel_right] at hmiss
  have hdown := tenTo_pos (-place).toNat
  have hwide := RoundingInterval.high_le_of_nearest?_eq_none
    (Nat.mul_pos hden (tenTo_pos _)) (Nat.mul_lt_mul_of_pos_right (x.low_lt_mid h) hdown)
    (Nat.mul_lt_mul_of_pos_right x.mid_lt_high hdown) hmiss
  -- The miss bounds the width by a step of the grid, and the step by the number itself.
  have hstep : (x.roundingInterval.high : ℚ)
      ≤ x.roundingInterval.low + 10 ^ place * x.roundingInterval.den := by
    have hpos : (0 : ℚ) < tenTo (-place).toNat := by exact_mod_cast hdown
    have hcast : (x.roundingInterval.high : ℚ) * tenTo (-place).toNat
        ≤ x.roundingInterval.low * tenTo (-place).toNat
          + x.roundingInterval.den * tenTo place.toNat := by
      exact_mod_cast hwide
    rw [tenTo_toNat_neg place] at hcast
    refine le_of_mul_le_mul_right ?_ hpos
    rw [add_mul]
    linarith
  have hnarrow : 10 ^ 16 * (x.roundingInterval.high : ℚ)
      ≤ 10 ^ 16 * x.roundingInterval.low + x.roundingInterval.mid := by
    rw [zpow_add₀ (by norm_num : (10 : ℚ) ≠ 0), zpow_natCast] at hleading
    linarith
  exact absurd (x.mid_lt_width h) (Nat.not_lt.2 (by exact_mod_cast hnarrow))

/-- The shortest decimal of a number rounds to it. -/
theorem contains_shortest (tie : Tie) (h : 0 < x.magnitude) :
    x.roundingInterval.Contains (x.shortest tie).value := by
  unfold shortest
  dsimp only
  split
  case h_1 decimal hfound =>
    rw [value_dropZeros]
    exact searchGrids_contains hfound
  case h_2 hnone => exact absurd hnone (x.searchGrids_ne_none tie h)

end RowMapper.Number.Binary64
