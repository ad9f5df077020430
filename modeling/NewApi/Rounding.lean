import Mathlib.Data.Rat.Floor

/-! # Rounding rationals to integers

`halfAway` rounds to the nearest integer, and a tie away from zero; `trunc` cuts
off towards zero.  Both are the conversions of decimal and floating-point
libraries, and both are computable on `ℚ`. -/
namespace Rounding

/-- The nearest integer; a tie goes away from zero. -/
def halfAway (x : ℚ) : ℤ := if 0 ≤ x then ⌊x + 1 / 2⌋ else -⌊-x + 1 / 2⌋

/-- The integer part. -/
def trunc (x : ℚ) : ℤ := if 0 ≤ x then ⌊x⌋ else ⌈x⌉

theorem trunc_intCast (n : ℤ) : trunc (n : ℚ) = n := by
  unfold trunc
  split
  · exact Int.floor_intCast n
  · exact Int.ceil_intCast n

theorem halfAway_nonneg {x : ℚ} (h : 0 ≤ x) : 0 ≤ halfAway x := by
  rw [halfAway, if_pos h]
  exact Int.floor_nonneg.mpr (by linarith)

theorem halfAway_nonpos {x : ℚ} (h : x < 0) : halfAway x ≤ 0 := by
  rw [halfAway, if_neg (not_le.mpr h), neg_nonpos]
  exact Int.floor_nonneg.mpr (by linarith)

/-- Less than half a unit below zero is still rounded to zero. -/
theorem halfAway_nonneg_iff {x : ℚ} : 0 ≤ halfAway x ↔ -(1 / 2) < x := by
  by_cases hx : 0 ≤ x
  · exact iff_of_true (halfAway_nonneg hx) (by linarith)
  · rw [halfAway, if_neg hx, Int.neg_nonneg, ← Int.lt_add_one_iff, Int.floor_lt]
    constructor <;> intro h
    · norm_num at h
      linarith
    · norm_num
      linarith

/-- A positive integer is reached from half a unit below it. -/
theorem le_halfAway_iff {x : ℚ} {n : ℤ} (hn : 0 < n) : n ≤ halfAway x ↔ (n : ℚ) - 1 / 2 ≤ x := by
  have hone : (1 : ℚ) ≤ n := by exact_mod_cast hn
  by_cases hx : 0 ≤ x
  · rw [halfAway, if_pos hx, Int.le_floor, sub_le_iff_le_add]
  have hneg : x < 0 := not_le.mp hx
  have hle := halfAway_nonpos hneg
  exact iff_of_false (by omega) (by linarith)

end Rounding
