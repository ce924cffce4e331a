/-!
# `RowMapper.Number.Power`: powers of two and ten

The places of a binary number are powers of two and those of a decimal powers of ten. Both are
computed exactly as natural numbers; a place below the point is a division by one of them.
-/

set_option autoImplicit false

namespace RowMapper.Number

/-- Two to this power. -/
def twoTo (exponent : Nat) : Nat :=
  Nat.pow 2 exponent

/-- Ten to this power. -/
def tenTo (exponent : Nat) : Nat :=
  Nat.pow 10 exponent

theorem twoTo_succ (exponent : Nat) : twoTo (exponent + 1) = twoTo exponent * 2 := rfl

theorem tenTo_succ (exponent : Nat) : tenTo (exponent + 1) = tenTo exponent * 10 := rfl

theorem tenTo_add (m n : Nat) : tenTo (m + n) = tenTo m * tenTo n :=
  Nat.pow_add 10 m n

theorem twoTo_pos (exponent : Nat) : 0 < twoTo exponent := by
  induction exponent with
  | zero => decide
  | succ exponent ih => rw [twoTo_succ]; omega

theorem tenTo_pos (exponent : Nat) : 0 < tenTo exponent := by
  induction exponent with
  | zero => decide
  | succ exponent ih => rw [tenTo_succ]; omega

end RowMapper.Number
