import Mathlib.Algebra.Order.Field.Power
import Mathlib.Algebra.Order.Field.Rat
import Mathlib.Order.Monotone.Basic
import Mathlib.Tactic.FieldSimp
import Mathlib.Tactic.Linarith
import Mathlib.Tactic.NormNum
import Mathlib.Tactic.Positivity
import Mathlib.Tactic.Ring
import RowMapper.Number.Shortest

/-!
# `RowMapper.Proofs.Number.Interval`: no number rounds to two floating-point numbers

The finite magnitudes are multiples of one unit, the smallest positive number: `units` counts them,
and the next magnitude is one last place further (`units_succ`). Half-way between a magnitude and
the next one is their `boundary`. The rounding interval of a number reaches from the boundary below
to the one above (`contains_roundingInterval`), and an end belongs to the even one of its two
neighbours. So the intervals of different magnitudes have nothing in common
(`magnitude_eq_of_contains`).
-/

set_option autoImplicit false

namespace RowMapper.Number

/-- The number that a decimal stands for. -/
def Decimal.value (decimal : Decimal) : ℚ :=
  decimal.digits * 10 ^ decimal.exponent

namespace Binary64

/-! ### Magnitudes -/

/-- The place of the last digit of a finite magnitude, counted from the least place there is. -/
def lastPlace (magnitude : Nat) : Nat :=
  max (magnitude / 2 ^ 52) 1 - 1

/-- A finite magnitude in units of the least place. -/
def units (magnitude : Nat) : Nat :=
  (if magnitude / 2 ^ 52 = 0 then magnitude % 2 ^ 52 else 2 ^ 52 + magnitude % 2 ^ 52)
    * 2 ^ lastPlace magnitude

/-- From one magnitude to the next it is one last place, also where the exponent grows. -/
theorem units_succ (magnitude : Nat) :
    units (magnitude + 1) = units magnitude + 2 ^ lastPlace magnitude := by
  have hsplit := Nat.div_add_mod magnitude (2 ^ 52)
  have hlt := Nat.mod_lt magnitude (Nat.two_pow_pos 52)
  by_cases hcarry : magnitude % 2 ^ 52 = 2 ^ 52 - 1
  · -- The fraction is full, so the exponent grows by one and the fraction is empty.
    have hdiv : (magnitude + 1) / 2 ^ 52 = magnitude / 2 ^ 52 + 1 := by omega
    have hmod : (magnitude + 1) % 2 ^ 52 = 0 := by omega
    unfold units lastPlace
    rw [hdiv, hmod, hcarry, if_neg (Nat.succ_ne_zero _)]
    by_cases hsub : magnitude / 2 ^ 52 = 0
    · rw [if_pos hsub, hsub]
      norm_num
    · obtain ⟨exponent, hexponent⟩ := Nat.exists_eq_succ_of_ne_zero hsub
      rw [if_neg hsub, hexponent, Nat.succ_eq_add_one]
      have hplace : max (exponent + 1 + 1) 1 - 1 = exponent + 1 := by omega
      have hplace' : max (exponent + 1) 1 - 1 = exponent := by omega
      rw [hplace, hplace', Nat.pow_succ]
      ring
  · have hdiv : (magnitude + 1) / 2 ^ 52 = magnitude / 2 ^ 52 := by omega
    have hmod : (magnitude + 1) % 2 ^ 52 = magnitude % 2 ^ 52 + 1 := by omega
    unfold units lastPlace
    rw [hdiv, hmod]
    split <;> ring

theorem units_strictMono : StrictMono units :=
  strictMono_nat_of_lt_succ fun magnitude => by
    have hplace := Nat.two_pow_pos (lastPlace magnitude)
    rw [units_succ]
    omega

theorem units_pos {magnitude : Nat} (h : 0 < magnitude) : 0 < units magnitude :=
  lt_of_le_of_lt (Nat.zero_le _) (units_strictMono h)

/-- A quarter of the least place. -/
def leastQuarter : ℚ :=
  2 ^ (-1076 : ℤ)

theorem leastQuarter_pos : 0 < leastQuarter :=
  zpow_pos (by norm_num) _

/-- The number half-way between a magnitude and the next one. -/
def boundary (magnitude : Nat) : ℚ :=
  (2 * (units magnitude + units (magnitude + 1)) : ℕ) * leastQuarter

theorem boundary_strictMono : StrictMono boundary :=
  strictMono_nat_of_lt_succ fun magnitude => by
    have hfirst := units_strictMono (Nat.lt_add_one magnitude)
    have hsecond := units_strictMono (Nat.lt_add_one (magnitude + 1))
    refine mul_lt_mul_of_pos_right ?_ leastQuarter_pos
    have hsum : 2 * (units magnitude + units (magnitude + 1))
        < 2 * (units (magnitude + 1) + units (magnitude + 1 + 1)) := by omega
    exact_mod_cast hsum

theorem boundary_pos (magnitude : Nat) : 0 < boundary magnitude := by
  have hnext := units_pos (Nat.add_one_pos magnitude)
  have hsum : 0 < 2 * (units magnitude + units (magnitude + 1)) := by omega
  exact mul_pos (by exact_mod_cast hsum) leastQuarter_pos

/-! ### Rounding intervals -/

/-- The number lies in the interval. -/
def RoundingInterval.Contains (interval : RoundingInterval) (number : ℚ) : Prop :=
  if interval.closed then
    interval.low ≤ number * interval.den ∧ number * interval.den ≤ interval.high
  else interval.low < number * interval.den ∧ number * interval.den < interval.high

theorem tenTo_toNat_neg (exponent : ℤ) :
    (tenTo exponent.toNat : ℚ) = 10 ^ exponent * tenTo (-exponent).toNat := by
  have hten (n : Nat) : (tenTo n : ℚ) = 10 ^ (n : ℤ) := by
    rw [zpow_natCast]
    exact_mod_cast rfl
  rw [hten, hten, ← zpow_add₀ (by norm_num : (10 : ℚ) ≠ 0)]
  congr 1
  omega

/-- A point of a decimal grid is tested in whole numbers. -/
theorem RoundingInterval.holds_inUnits (interval : RoundingInterval) (decimal : Decimal) :
    (interval.inUnits decimal.exponent).holds decimal.digits = true
      ↔ interval.Contains decimal.value := by
  have hdown : (0 : ℚ) < tenTo (-decimal.exponent).toNat := by exact_mod_cast tenTo_pos _
  -- Both sides of each comparison are multiplied by the same power of ten.
  have hpoint : ((decimal.digits * (interval.den * tenTo decimal.exponent.toNat) : ℕ) : ℚ)
      = decimal.value * interval.den * tenTo (-decimal.exponent).toNat := by
    push_cast
    rw [tenTo_toNat_neg, Decimal.value]
    ring
  have hle (low : Nat) : low * tenTo (-decimal.exponent).toNat
      ≤ decimal.digits * (interval.den * tenTo decimal.exponent.toNat)
        ↔ (low : ℚ) ≤ decimal.value * interval.den := by
    rw [← Nat.cast_le (α := ℚ), hpoint, Nat.cast_mul, mul_le_mul_iff_of_pos_right hdown]
  have hge (high : Nat) : decimal.digits * (interval.den * tenTo decimal.exponent.toNat)
      ≤ high * tenTo (-decimal.exponent).toNat
        ↔ decimal.value * interval.den ≤ (high : ℚ) := by
    rw [← Nat.cast_le (α := ℚ), hpoint, Nat.cast_mul, mul_le_mul_iff_of_pos_right hdown]
  unfold RoundingInterval.holds RoundingInterval.Contains RoundingInterval.inUnits
  dsimp only
  split
  · rw [Bool.and_eq_true, decide_eq_true_iff, decide_eq_true_iff, hle, hge]
  · rw [Bool.and_eq_true, decide_eq_true_iff, decide_eq_true_iff, ← not_le, ← not_le, hge, hle,
      not_le, not_le]

/-! ### The interval of a number -/

variable (x : Binary64)

theorem significand_mul_lastPlace :
    x.significand * 2 ^ lastPlace x.magnitude = units x.magnitude := rfl

theorem significand_mod_two : x.significand % 2 = x.magnitude % 2 := by
  have hfraction : x.fractionField = x.magnitude % 2 ^ 52 := rfl
  unfold significand
  split <;> omega

theorem twoTo_toNat_neg (exponent : ℤ) :
    (twoTo exponent.toNat : ℚ) = 2 ^ exponent * twoTo (-exponent).toNat := by
  have htwo (n : Nat) : (twoTo n : ℚ) = 2 ^ (n : ℤ) := by
    rw [zpow_natCast]
    exact_mod_cast rfl
  rw [htwo, htwo, ← zpow_add₀ (by norm_num : (2 : ℚ) ≠ 0)]
  congr 1
  omega

/-- The quarters of the last place, in which the interval is measured. -/
theorem scale_sub_two : x.scale - 2 = (lastPlace x.magnitude : ℤ) + (-1076) := by
  have hfield : x.exponentField = x.magnitude / 2 ^ 52 := rfl
  unfold scale lastPlace
  omega

/-- A number of quarters of the last place, scaled like the ends of the interval. -/
theorem quarters_eq (count : Nat) :
    ((count * twoTo (x.scale - 2).toNat : ℕ) : ℚ)
      = ((count * 2 ^ lastPlace x.magnitude : ℕ) : ℚ) * leastQuarter
        * x.roundingInterval.den := by
  have hden : x.roundingInterval.den = twoTo (-(x.scale - 2)).toNat := rfl
  rw [hden, Nat.cast_mul, twoTo_toNat_neg, scale_sub_two,
    zpow_add₀ (by norm_num : (2 : ℚ) ≠ 0), zpow_natCast, ← leastQuarter]
  push_cast
  ring

theorem roundingInterval_high :
    (x.roundingInterval.high : ℚ) = boundary x.magnitude * x.roundingInterval.den := by
  have hhigh : x.roundingInterval.high
      = (4 * x.significand + 2) * twoTo (x.scale - 2).toNat := rfl
  have hcount : (4 * x.significand + 2) * 2 ^ lastPlace x.magnitude
      = 2 * (units x.magnitude + units (x.magnitude + 1)) := by
    rw [units_succ, ← significand_mul_lastPlace]
    ring
  rw [hhigh, quarters_eq, hcount, boundary]

/-- The last place of the magnitude below is the same, or half as wide below a power of two. -/
theorem lastPlace_pred {below : Nat} (hbelow : x.magnitude = below + 1) :
    (if x.fractionField = 0 ∧ 1 < x.exponentField then 1 else 2) * 2 ^ lastPlace x.magnitude
      = 2 * 2 ^ lastPlace below := by
  have hfraction : x.fractionField = x.magnitude % 2 ^ 52 := rfl
  have hfield : x.exponentField = x.magnitude / 2 ^ 52 := rfl
  split
  case isTrue h =>
    have hplace : lastPlace x.magnitude = lastPlace below + 1 := by
      unfold lastPlace
      omega
    rw [hplace, Nat.pow_succ]
    ring
  case isFalse h =>
    have hplace : lastPlace x.magnitude = lastPlace below := by
      unfold lastPlace
      omega
    rw [hplace]

theorem roundingInterval_low {below : Nat} (hbelow : x.magnitude = below + 1) :
    (x.roundingInterval.low : ℚ) = boundary below * x.roundingInterval.den := by
  have hlow : x.roundingInterval.low
      = (4 * x.significand - if x.fractionField = 0 ∧ 1 < x.exponentField then 1 else 2)
        * twoTo (x.scale - 2).toNat := by
    unfold roundingInterval
    dsimp only
    split <;> rfl
  have hcount : (4 * x.significand - if x.fractionField = 0 ∧ 1 < x.exponentField then 1 else 2)
      * 2 ^ lastPlace x.magnitude = 2 * (units below + units (below + 1)) := by
    have hunits := significand_mul_lastPlace x
    rw [Nat.sub_mul, lastPlace_pred x hbelow, Nat.mul_assoc, hunits, hbelow, units_succ]
    omega
  rw [hlow, quarters_eq, hcount, boundary]

theorem den_pos : (0 : ℚ) < x.roundingInterval.den := by
  exact_mod_cast twoTo_pos _

/-- The interval reaches from the boundary below to the one above, and has its ends if the magnitude
is even. -/
theorem contains_roundingInterval {below : Nat} (hbelow : x.magnitude = below + 1)
    (number : ℚ) : x.roundingInterval.Contains number ↔
      if x.magnitude % 2 = 0 then boundary below ≤ number ∧ number ≤ boundary x.magnitude
      else boundary below < number ∧ number < boundary x.magnitude := by
  have hclosed : x.roundingInterval.closed = decide (x.magnitude % 2 = 0) := by
    rw [← significand_mod_two]
    rfl
  have hden := x.den_pos
  unfold RoundingInterval.Contains
  rw [hclosed, x.roundingInterval_high, x.roundingInterval_low hbelow,
    mul_le_mul_iff_of_pos_right hden, mul_le_mul_iff_of_pos_right hden,
    mul_lt_mul_iff_of_pos_right hden, mul_lt_mul_iff_of_pos_right hden]
  simp only [decide_eq_true_iff]

variable {x} in
theorem le_of_contains {below : Nat} (hbelow : x.magnitude = below + 1) {number : ℚ}
    (h : x.roundingInterval.Contains number) :
    boundary below ≤ number ∧ number ≤ boundary x.magnitude := by
  rw [contains_roundingInterval x hbelow] at h
  split at h
  · exact h
  · exact ⟨h.1.le, h.2.le⟩

/-- A number in the interval of a magnitude is not in that of a greater one. -/
theorem not_contains_of_lt {x y : Binary64} {number : ℚ} (hx : 0 < x.magnitude)
    (hlt : x.magnitude < y.magnitude) (h : x.roundingInterval.Contains number) :
    ¬ y.roundingInterval.Contains number := by
  intro k
  obtain ⟨belowX, hbelowX⟩ := Nat.exists_eq_add_one_of_ne_zero hx.ne'
  obtain ⟨belowY, hbelowY⟩ := Nat.exists_eq_add_one_of_ne_zero (hx.trans hlt).ne'
  have habove := (le_of_contains hbelowX h).2
  have hfloor := (le_of_contains hbelowY k).1
  -- The number is between two boundaries in the wrong order, so these are one and the same.
  have hmagnitude : x.magnitude = belowY := by
    refine le_antisymm (by omega) ?_
    exact boundary_strictMono.le_iff_le.1 (hfloor.trans habove)
  rw [← hmagnitude] at hfloor
  have hnumber : number = boundary x.magnitude := le_antisymm habove hfloor
  -- Of two neighbours one is odd, and its interval is without its ends.
  rw [contains_roundingInterval x hbelowX, hnumber] at h
  rw [contains_roundingInterval y hbelowY, hnumber, hmagnitude] at k
  rcases Nat.mod_two_eq_zero_or_one x.magnitude with heven | hodd
  · rw [if_neg (by omega)] at k
    exact absurd k.1 (lt_irrefl _)
  · rw [if_neg (by omega)] at h
    exact absurd h.2 (lt_irrefl _)

/-- A number rounds to one magnitude only. -/
theorem magnitude_eq_of_contains {x y : Binary64} {number : ℚ} (hx : 0 < x.magnitude)
    (hy : 0 < y.magnitude) (h : x.roundingInterval.Contains number)
    (k : y.roundingInterval.Contains number) : x.magnitude = y.magnitude := by
  rcases Nat.lt_trichotomy x.magnitude y.magnitude with hlt | heq | hgt
  · exact absurd k (not_contains_of_lt hx hlt h)
  · exact heq
  · exact absurd h (not_contains_of_lt hy hgt k)

/-- What rounds to a number other than zero is positive. -/
theorem pos_of_contains {number : ℚ} (hx : 0 < x.magnitude)
    (h : x.roundingInterval.Contains number) : 0 < number := by
  obtain ⟨below, hbelow⟩ := Nat.exists_eq_add_one_of_ne_zero hx.ne'
  exact lt_of_lt_of_le (boundary_pos below) (le_of_contains hbelow h).1

end Binary64

end RowMapper.Number
