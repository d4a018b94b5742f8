/-
  The meaning of ratios.

  Rounding and printing compute with ratios of natural numbers and with the binary logarithm of a ratio.
  Here they are given their meaning as rationals, for the inequalities that `Proofs/Number/Shortest` needs.

  1. **Ratios** stand for rationals (`Ratio.toRat`); comparing and scaling them does what it says.

  2. **The logarithm** is exact (`Ratio.floorLog2_bounds`): a positive ratio lies between its power of two
     and the next one.

  3. **Grids.**  Of the decimals with a fixed number of places, the last one below a ratio is a quotient
     that is rounded down (`Ratio.gridBelow_bounds`).
-/
import Mathlib.Algebra.Order.Field.Power
import Mathlib.Algebra.Order.Field.Rat
import Mathlib.Tactic.Linarith
import Mathlib.Tactic.NormNum
import Mathlib.Tactic.Positivity
import Mathlib.Tactic.Ring
import BenchSweep.Number.Shortest

namespace BenchSweep.Ratio

/-- The rational that a ratio is. -/
def toRat (r : Ratio) : ℚ := r.num / r.den

/-- The denominator of a ratio is positive as a rational, too. -/
theorem cast_den_pos (r : Ratio) : (0 : ℚ) < r.den := by exact_mod_cast r.den_pos

/-! ## Comparing

  Ratios are compared by multiplying crosswise, which is right because denominators are positive. -/

/-- Comparing ratios compares the rationals. -/
theorem le_iff {a b : Ratio} : a.le b = true ↔ a.toRat ≤ b.toRat := by
  rw [le, decide_eq_true_iff, toRat, toRat, div_le_div_iff₀ a.cast_den_pos b.cast_den_pos]
  exact_mod_cast Iff.rfl

/-- The same for less. -/
theorem lt_iff {a b : Ratio} : a.lt b = true ↔ a.toRat < b.toRat := by
  rw [lt, decide_eq_true_iff, toRat, toRat, div_lt_div_iff₀ a.cast_den_pos b.cast_den_pos]
  exact_mod_cast Iff.rfl

/-! ## Scaling -/

/-- Scaling multiplies a ratio by a power.  One of the two exponents that it uses is zero. -/
theorem toRat_scale (r : Ratio) {base : Nat} (hbase : 0 < base) (k : Int) :
    (r.scale hbase k).toRat = r.toRat * (base : ℚ) ^ k := by
  have hne : (base : ℚ) ≠ 0 := by positivity
  show ((r.num * base ^ k.toNat : ℕ) : ℚ) / ((r.den * base ^ (-k).toNat : ℕ) : ℚ) = r.num / r.den * _
  -- by the sign of the exponent: it goes into the numerator or into the denominator
  obtain ⟨m, rfl | rfl⟩ := Int.eq_nat_or_neg k
  · rw [Int.toNat_natCast, Int.toNat_neg_natCast, zpow_natCast, pow_zero, mul_one]
    push_cast
    rw [mul_div_right_comm]
  · rw [neg_neg, Int.toNat_natCast, Int.toNat_neg_natCast, zpow_neg, zpow_natCast, pow_zero, mul_one]
    push_cast
    rw [div_mul_eq_div_div, div_eq_mul_inv ((r.num : ℚ) / r.den)]

/-- A natural number is its own ratio. -/
theorem toRat_ofNat (n : Nat) : (ofNat n).toRat = n := by
  rw [toRat, ofNat, Nat.cast_one, div_one]

/-- A decimal is its digits times a power of ten. -/
theorem toRat_ofDecimal (n : Nat) (k : Int) : (ofDecimal n k).toRat = n * 10 ^ k := by
  rw [ofDecimal, toRat_scale, toRat_ofNat, Nat.cast_ofNat]

/-- A binary number is its significand times a power of two. -/
theorem toRat_ofBinary (n : Nat) (k : Int) : (ofBinary n k).toRat = n * 2 ^ k := by
  rw [ofBinary, toRat_scale, toRat_ofNat, Nat.cast_ofNat]

/-! ## The logarithm -/

/-- The binary logarithm of a positive ratio is exact: the ratio lies between two powers. -/
theorem floorLog2_bounds {r : Ratio} (hnum : r.num ≠ 0) :
    (2 : ℚ) ^ r.floorLog2 ≤ r.toRat ∧ r.toRat < 2 ^ (r.floorLog2 + 1) := by
  obtain ⟨hlow, hhigh⟩ := scale_floorLog2 hnum
  -- what is left of it after scaling it down by the logarithm
  have hscaled := r.toRat_scale Nat.two_pos (-r.floorLog2)
  rw [zpow_neg, ← div_eq_mul_inv, Nat.cast_ofNat] at hscaled
  have hpos : (0 : ℚ) < 2 ^ r.floorLog2 := by positivity
  have hden := (r.scale Nat.two_pos (-r.floorLog2)).cast_den_pos
  have hone : 1 ≤ r.toRat / 2 ^ r.floorLog2 := by
    rw [← hscaled, toRat, one_le_div hden]
    exact_mod_cast hlow
  have htwo : r.toRat / 2 ^ r.floorLog2 < 2 := by
    rw [← hscaled, toRat, div_lt_iff₀ hden]
    exact_mod_cast hhigh
  refine ⟨(one_le_div hpos).1 hone, ?_⟩
  rw [zpow_add₀ two_ne_zero, zpow_one, mul_comm]
  exact (div_lt_iff₀ hpos).1 htwo

/-! ## Grids of powers of ten -/

/-- The last point of the grid `10 ^ k` that is not above a ratio, without its power. -/
def gridBelow (r : Ratio) (k : Int) : Nat :=
  (r.scale ten_pos (-k)).num / (r.scale ten_pos (-k)).den

/-- The points of a grid around a ratio. -/
theorem gridBelow_bounds (r : Ratio) (k : Int) :
    (r.gridBelow k : ℚ) * 10 ^ k ≤ r.toRat ∧ r.toRat < (r.gridBelow k + 1 : ℚ) * 10 ^ k := by
  have hscaled := r.toRat_scale ten_pos (-k)
  rw [zpow_neg, ← div_eq_mul_inv, Nat.cast_ofNat, toRat] at hscaled
  have hten : (0 : ℚ) < 10 ^ k := by positivity
  rw [gridBelow, ← le_div_iff₀ hten, ← div_lt_iff₀ hten, ← hscaled]
  -- what is left to say is that a quotient is rounded down
  generalize r.scale ten_pos (-k) = scaled at *
  rw [le_div_iff₀ scaled.cast_den_pos, div_lt_iff₀ scaled.cast_den_pos]
  have hmod := Nat.mod_lt scaled.num scaled.den_pos
  have hdiv := Nat.div_add_mod' scaled.num scaled.den
  have hlt : scaled.num < (scaled.num / scaled.den + 1) * scaled.den := by
    rw [Nat.succ_mul]
    omega
  exact ⟨by exact_mod_cast Nat.div_mul_le_self scaled.num scaled.den, by exact_mod_cast hlt⟩

end BenchSweep.Ratio
