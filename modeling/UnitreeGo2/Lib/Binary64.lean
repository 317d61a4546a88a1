import UnitreeGo2.Lib.ExtendedRat
import Mathlib.Algebra.Order.Field.Power
import Mathlib.Data.Int.Log
import Mathlib.Data.Rat.Floor
import Mathlib.Tactic.Linarith
import Mathlib.Tactic.Lemma

/-!
# Rounding to the doubles

The results of double-precision operations as rational numbers: an exact result, rounded to
the nearest double, ties to even.  The rounding has no greatest double, so it is total; a result
that overflows is infinite.
-/

namespace Binary64

/-- The nearest integer, ties to even. -/
def roundHalfEven (x : ℚ) : ℤ :=
  if x - ⌊x⌋ < 1 / 2 then ⌊x⌋
  else if 1 / 2 < x - ⌊x⌋ then ⌊x⌋ + 1
  else ⌊x⌋ + ⌊x⌋ % 2

/-- The distance of neighbouring doubles at the magnitude of `x`. -/
def spacing (x : ℚ) : ℚ := 2 ^ max (Int.log 2 |x| - 52) (-1074)

/-- The nearest double, ties to even. -/
def nearest (x : ℚ) : ℚ := roundHalfEven (x / spacing x) * spacing x

/-- The magnitude from which on a result overflows, half a spacing above the greatest double. -/
def overflowThreshold : ℚ := 2 ^ 1024 - 2 ^ 970

/-- The float that an exact result is rounded to. -/
def ofRat (x : ℚ) : ExtRat :=
  if |x| < overflowThreshold then .fin (nearest x) else .inf (decide (x < 0))

lemma spacing_pos (x : ℚ) : 0 < spacing x := zpow_pos (by norm_num) _

lemma roundHalfEven_pos_iff {x : ℚ} (hx : 0 ≤ x) : 0 < roundHalfEven x ↔ 1 / 2 < x := by
  have hfloor := Int.floor_nonneg.mpr hx
  have hle := Int.floor_le x
  rcases hfloor.eq_or_lt with hzero | hpos
  · rw [roundHalfEven, ← hzero, Int.cast_zero, sub_zero]
    split_ifs with hless hmore
    · exact iff_of_false (lt_irrefl 0) (lt_asymm hless)
    · exact iff_of_true zero_lt_one hmore
    · exact iff_of_false (by decide) hmore
  · have hone : (1 : ℚ) ≤ ⌊x⌋ := by exact_mod_cast hpos
    refine iff_of_true ?_ (by linarith)
    rw [roundHalfEven]
    split_ifs <;> omega

/-- A result is rounded to a positive double exactly if it is above half the least one. -/
lemma nearest_pos_iff {x : ℚ} (hx : 0 ≤ x) : 0 < nearest x ↔ 2 ^ (-1075 : ℤ) < x := by
  rcases hx.eq_or_lt with rfl | hpos
  · refine iff_of_false ?_ (zpow_pos two_pos _).le.not_gt
    rw [nearest, zero_div, roundHalfEven, Int.floor_zero]
    norm_num
  have hspacing := spacing_pos x
  rw [nearest, mul_pos_iff_of_pos_right hspacing, Int.cast_pos,
    roundHalfEven_pos_iff (div_nonneg hx hspacing.le), lt_div_iff₀ hspacing, one_div_mul_eq_div,
    spacing, abs_of_nonneg hx]
  rcases le_or_gt (Int.log 2 x - 52) (-1074) with hsmall | hlarge
  · rw [max_eq_right hsmall, show (-1074 : ℤ) = -1075 + 1 from rfl,
      zpow_add_one₀ two_ne_zero, mul_div_cancel_right₀ _ two_ne_zero]
  · rw [max_eq_left hlarge.le]
    have hlog : (2 : ℚ) ^ Int.log 2 x ≤ x := Int.zpow_log_le_self one_lt_two hpos
    refine iff_of_true (lt_of_lt_of_le ?_ hlog) (lt_of_lt_of_le ?_ hlog)
    · rw [div_lt_iff₀ two_pos, ← zpow_add_one₀ two_ne_zero]
      exact zpow_lt_zpow_right₀ one_lt_two (by omega)
    · exact zpow_lt_zpow_right₀ one_lt_two (by omega)

lemma ofRat_of_lt {x : ℚ} (hx : 0 ≤ x) (h : x < overflowThreshold) :
    ofRat x = .fin (nearest x) := by
  rw [ofRat, abs_of_nonneg hx, if_pos h]

lemma ofRat_of_ge {x : ℚ} (hx : 0 ≤ x) (h : overflowThreshold ≤ x) : ofRat x = .inf false := by
  rw [ofRat, abs_of_nonneg hx, if_neg h.not_gt, decide_eq_false hx.not_gt]

end Binary64
