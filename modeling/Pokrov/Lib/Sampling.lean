import Mathlib.Algebra.Order.Floor.Ring

/-!
# Sampled quantities

A quantity that is read in whole steps is not below what was read and less than
one step above it. Between two readings that are some steps apart, the quantity
has moved by that many steps, up to one step to either side.
-/

namespace Sampling

variable {K : Type*} [Field K] [LinearOrder K] [IsStrictOrderedRing K] [FloorRing K]

/-- The whole steps of a quantity. -/
def truncate (step x : K) : K := step * ⌊x / step⌋

theorem truncate_le {step : K} (h : 0 < step) (x : K) : truncate step x ≤ x := by
  have hfloor : (⌊x / step⌋ : K) ≤ x / step := Int.floor_le _
  calc step * ⌊x / step⌋ ≤ step * (x / step) := mul_le_mul_of_nonneg_left hfloor h.le
    _ = x := mul_div_cancel₀ x h.ne'

theorem lt_truncate_add {step : K} (h : 0 < step) (x : K) : x < truncate step x + step := by
  have hfloor : x / step < ⌊x / step⌋ + 1 := Int.lt_floor_add_one _
  calc x = step * (x / step) := (mul_div_cancel₀ x h.ne').symm
    _ < step * (⌊x / step⌋ + 1) := mul_lt_mul_of_pos_left hfloor h
    _ = truncate step x + step := by rw [truncate, mul_add, mul_one]

section Readings

variable {a b : K} {m n : ℤ} (ha : m = ⌊a⌋) (hb : n = ⌊b⌋)

include ha hb

theorem elapsed_lt : b - a < (n - m : ℤ) + 1 := by
  have hlow : (m : K) ≤ a := ha ▸ Int.floor_le a
  have hhigh : b < (n : K) + 1 := hb ▸ Int.lt_floor_add_one b
  push_cast
  linarith

theorem lt_elapsed : ((n - m : ℤ) : K) - 1 < b - a := by
  have hlow : (n : K) ≤ b := hb ▸ Int.floor_le b
  have hhigh : a < (m : K) + 1 := ha ▸ Int.lt_floor_add_one a
  push_cast
  linarith

omit [IsStrictOrderedRing K] in
theorem readings_le (h : a ≤ b) : m ≤ n := by
  rw [ha, hb]
  exact Int.floor_le_floor h

end Readings

/-- The whole steps of a number that holds at least one. -/
theorem mul_tdiv_le {n d : ℤ} (hd : 0 < d) (h : 0 < n.tdiv d) : d * n.tdiv d ≤ n := by
  have hpos : 0 ≤ n := by
    by_contra hneg
    have hopposite := Int.tdiv_nonneg (a := -n) (b := d) (by omega) hd.le
    rw [Int.neg_tdiv] at hopposite
    omega
  rw [Int.tdiv_eq_ediv_of_nonneg hpos]
  exact Int.mul_ediv_self_le hd.ne'

end Sampling
