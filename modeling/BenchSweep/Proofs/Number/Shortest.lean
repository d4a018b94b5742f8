/-
  The shortest decimal exists.

  `shortest` tries grids of more and more digits, and it would have nothing to show if none of them had a
  point in the interval of the reals that round to the number.  This file shows that the last grid has one,
  and that what is found is never zero, for every number of the format.

  1. **The point** (`ten_zpow_pointOf_le`).  The first guess at it is read off the binary logarithm with a
     slope a little above log 2; that is never so far off that the correction by one or two fails.

  2. **The grid** (`Interval.exists_pick?`).  If two neighbours on a grid are less far apart than the ends of
     an interval, one of those around its value lies inside.

  3. **Seventeen digits** (`grid_fine`) make such a grid, since `10 ^ 16` is more than `2 ^ 53`.
-/
import BenchSweep.Proofs.Number.Format

namespace BenchSweep.Binary64

/-! ## The point

  Where the first digit stands is guessed from the binary logarithm by an integer slope.  Both estimates of
  the slope are finite tables, checked up to the greatest exponent of the format. -/

/-- The slope is at least that of the decimal logarithm. -/
theorem two_pow_le_ten_pow : ∀ m < 1100, 2 ^ m ≤ 10 ^ ((m * 30103 + 99999) / 100000) := by decide +kernel

/-- For the exponents of the format, the slope is too great by less than one. -/
theorem ten_pow_le_two_pow : ∀ m < 1100, 10 ^ (m * 30103 / 100000) ≤ 10 * 2 ^ m := by decide +kernel

/-- One digit less than the guess stands in front of the point, at most. -/
theorem ten_zpow_guess_le {l : Int} (hlow : -1100 < l) (hhigh : l < 1100) :
    (10 : ℚ) ^ (l * 30103 / 100000 - 1) ≤ 2 ^ l := by
  -- by the sign of the logarithm, for which the guess is rounded to different sides
  obtain ⟨m, rfl | rfl⟩ := Int.eq_nat_or_neg l
  · have hm : 10 ^ (m * 30103 / 100000) ≤ 10 * 2 ^ m := ten_pow_le_two_pow m (by omega)
    have hcast : (10 : ℚ) ^ ((m * 30103 / 100000 : ℕ) : Int) ≤ 10 * 2 ^ (m : Int) := by exact_mod_cast hm
    rw [zpow_sub₀ (by norm_num), zpow_one, div_le_iff₀ (by norm_num), mul_comm ((2 : ℚ) ^ _)]
    exact_mod_cast hcast
  · have hm : 2 ^ m ≤ 10 ^ ((m * 30103 + 99999) / 100000) := two_pow_le_ten_pow m (by omega)
    have hcast : (2 : ℚ) ^ (m : Int) ≤ 10 ^ (((m * 30103 + 99999) / 100000 : ℕ) : Int) := by
      exact_mod_cast hm
    have hguess : -(m : Int) * 30103 / 100000 - 1 ≤ -(((m * 30103 + 99999) / 100000 : ℕ) : Int) := by omega
    calc (10 : ℚ) ^ (-(m : Int) * 30103 / 100000 - 1)
        ≤ 10 ^ (-(((m * 30103 + 99999) / 100000 : ℕ) : Int)) :=
          zpow_le_zpow_right₀ (by norm_num) hguess
      _ ≤ 2 ^ (-(m : Int)) := by
        rw [zpow_neg, zpow_neg]
        exact inv_anti₀ (by positivity) hcast

/-- A ratio of the size of the format has a digit where `pointOf` says that the first one is. -/
theorem ten_zpow_pointOf_le {value : Ratio} (hnum : value.num ≠ 0)
    (hlow : (2 : ℚ) ^ (-1099 : Int) ≤ value.toRat) (hhigh : value.toRat < 2 ^ (1100 : Int)) :
    (10 : ℚ) ^ (pointOf value - 1) ≤ value.toRat := by
  obtain ⟨hbelow, habove⟩ := value.floorLog2_bounds hnum
  have htest : ∀ k, (Ratio.ofDecimal 1 k).le value = true → (10 : ℚ) ^ k ≤ value.toRat := by
    intro k h
    rw [Ratio.le_iff, Ratio.toRat_ofDecimal, Nat.cast_one, one_mul] at h
    exact h
  rw [pointOf]
  split
  · next h => rw [add_sub_assoc]; exact htest _ h
  split
  · next h => rw [add_sub_cancel_right]; exact htest _ h
  · have hl : -1099 < value.floorLog2 + 1 :=
      (zpow_lt_zpow_iff_right₀ one_lt_two).1 (lt_of_le_of_lt hlow habove)
    have hl' : value.floorLog2 < 1100 :=
      (zpow_lt_zpow_iff_right₀ one_lt_two).1 (lt_of_le_of_lt hbelow hhigh)
    exact (ten_zpow_guess_le (by omega) hl').trans hbelow

/-! ## The grid

  The value of an interval has two neighbours on a grid.  Both are out of the interval only if the grid is
  at least as wide as it. -/

/-- An interval whose ends are ratios and whose value lies between them. -/
structure Interval.IsProper (i : Interval) : Prop where
  low_pos : 0 < i.low.toRat
  low_lt : i.low.toRat < i.value.toRat
  lt_high : i.value.toRat < i.high.toRat

/-- What lies between the ends is in the interval, whether these belong to it or not. -/
theorem Interval.contains_of_between {i : Interval} {r : Ratio}
    (hlow : i.low.toRat < r.toRat) (hhigh : r.toRat < i.high.toRat) : i.contains r = true := by
  rw [contains]
  split
  · rw [Bool.and_eq_true, Ratio.le_iff, Ratio.le_iff]
    exact ⟨hlow.le, hhigh.le⟩
  · rw [Bool.and_eq_true, Ratio.lt_iff, Ratio.lt_iff]
    exact ⟨hlow, hhigh⟩

/-- What is in the interval is positive. -/
theorem Interval.pos_of_contains {i : Interval} (hi : i.IsProper) {r : Ratio}
    (h : i.contains r = true) : 0 < r.toRat := by
  have hle : i.low.toRat ≤ r.toRat := by
    rw [contains] at h
    split at h
    · exact Ratio.le_iff.1 (Bool.and_eq_true_iff.1 h).1
    · exact (Ratio.lt_iff.1 (Bool.and_eq_true_iff.1 h).1).le
  exact lt_of_lt_of_le hi.low_pos hle

/-- A point that is found is not zero. -/
theorem Interval.pos_of_pick? {i : Interval} (hi : i.IsProper) {tie : Tie} {k : Int} {d : Nat}
    (h : i.pick? tie k = some d) : 0 < d := by
  have hpos : ∀ n, i.contains (.ofDecimal n k) = true → 0 < n := by
    intro n hn
    have hpositive := i.pos_of_contains hi hn
    rw [Ratio.toRat_ofDecimal] at hpositive
    exact_mod_cast pos_of_mul_pos_left hpositive (by positivity)
  rw [pick?] at h
  split at h
  · next hbelow _ =>
    obtain rfl := Option.some.inj h
    have := hpos _ hbelow
    split <;> omega
  · next hbelow _ =>
    obtain rfl := Option.some.inj h
    exact hpos _ hbelow
  · next _ habove =>
    obtain rfl := Option.some.inj h
    exact Nat.succ_pos _
  · cases h

/-- A grid that is finer than the interval is wide has a point in it. -/
theorem Interval.exists_pick? {i : Interval} (hi : i.IsProper) (tie : Tie) {k : Int}
    (hfine : (10 : ℚ) ^ k < i.high.toRat - i.low.toRat) : ∃ d, i.pick? tie k = some d := by
  obtain ⟨hbelow, habove⟩ := i.value.gridBelow_bounds k
  have hlow := hi.low_lt
  have hhigh := hi.lt_high
  -- the point below, or the next one if that is too far below
  have hsome : i.contains (.ofDecimal (i.value.gridBelow k) k) = true ∨
      i.contains (.ofDecimal (i.value.gridBelow k + 1) k) = true := by
    rcases lt_or_ge i.low.toRat (i.value.gridBelow k * 10 ^ k : ℚ) with hin | hout
    · refine Or.inl (i.contains_of_between ?_ ?_)
      · rwa [Ratio.toRat_ofDecimal]
      · rw [Ratio.toRat_ofDecimal]
        exact lt_of_le_of_lt hbelow hhigh
    · refine Or.inr (i.contains_of_between ?_ ?_)
      · rw [Ratio.toRat_ofDecimal]
        push_cast
        exact hlow.trans habove
      · rw [Ratio.toRat_ofDecimal]
        push_cast
        linarith
  rw [pick?]
  split
  · exact ⟨_, rfl⟩
  · exact ⟨_, rfl⟩
  · exact ⟨_, rfl⟩
  · next hno hno' =>
    rcases hsome with h | h
    · exact absurd (hno.symm.trans h) Bool.false_ne_true
    · exact absurd (hno'.symm.trans h) Bool.false_ne_true

/-! ## Numbers of the format

  The interval of a number goes half way to its neighbours, in quarters of the last place.  It is narrowest
  above a power of two, where the neighbour below is only half as far. -/

/-- How far below the value the interval starts, in quarters. -/
def quartersBelow (significand : Nat) (exponent : Int) : Nat :=
  if significand = leastNormal ∧ minExponent < exponent then 1 else 2

section Ends

variable (significand : Nat) (exponent : Int)

/-- The value in the middle of the interval is the number. -/
theorem toRat_value : (interval significand exponent).value.toRat = 4 * significand * 2 ^ (exponent - 2) := by
  rw [interval, Ratio.toRat_ofBinary]
  push_cast
  rfl

/-- The interval goes up by two quarters. -/
theorem toRat_high :
    (interval significand exponent).high.toRat = (4 * significand + 2) * 2 ^ (exponent - 2) := by
  rw [interval, Ratio.toRat_ofBinary]
  push_cast
  rfl

/-- It goes down by no more than that. -/
theorem quartersBelow_le : quartersBelow significand exponent ≤ 2 := by
  rw [quartersBelow]
  split <;> omega

/-- And it does go down. -/
theorem quartersBelow_pos : 0 < quartersBelow significand exponent := by
  rw [quartersBelow]
  split <;> omega

/-- Where the interval starts, as a rational. -/
theorem toRat_low (hpos : 0 < significand) : (interval significand exponent).low.toRat =
    (4 * significand - quartersBelow significand exponent) * 2 ^ (exponent - 2) := by
  have hle := quartersBelow_le significand exponent
  rw [interval, Ratio.toRat_ofBinary, ← quartersBelow, Nat.cast_sub (by omega)]
  push_cast
  rfl

/-- The interval of a positive number is one. -/
theorem interval_isProper (hpos : 0 < significand) : (interval significand exponent).IsProper := by
  have hu : (0 : ℚ) < 2 ^ (exponent - 2) := by positivity
  have hb : (0 : ℚ) < quartersBelow significand exponent := by
    exact_mod_cast quartersBelow_pos significand exponent
  have hb' : (quartersBelow significand exponent : ℚ) ≤ 2 := by
    exact_mod_cast quartersBelow_le significand exponent
  have hs : (1 : ℚ) ≤ significand := by exact_mod_cast hpos
  refine ⟨?_, ?_, ?_⟩
  · rw [toRat_low significand exponent hpos]
    exact mul_pos (by linarith) hu
  · rw [toRat_low significand exponent hpos, toRat_value]
    exact mul_lt_mul_of_pos_right (by linarith) hu
  · rw [toRat_value, toRat_high]
    exact mul_lt_mul_of_pos_right (by linarith) hu

end Ends

/-- A number of the format has a digit where `pointOf` says that the first one is. -/
theorem ten_zpow_pointOf_interval_le {significand : Nat} {exponent : Int} (hpos : 0 < significand)
    (hfits : Fits significand exponent) :
    (10 : ℚ) ^ (pointOf (interval significand exponent).value - 1) ≤
      4 * significand * 2 ^ (exponent - 2) := by
  obtain ⟨hsignificand, -, hmin, hmax⟩ := hfits
  have hs : (1 : ℚ) ≤ significand := by exact_mod_cast hpos
  have hs' : (significand : ℚ) < 2 ^ (53 : Int) := by exact_mod_cast hsignificand
  have hvalue : (4 * significand * 2 ^ (exponent - 2) : ℚ) = significand * 2 ^ exponent := by
    rw [zpow_sub₀ two_ne_zero]
    ring
  rw [← toRat_value]
  refine ten_zpow_pointOf_le ?_ ?_ ?_
  · exact Nat.pos_iff_ne_zero.1 (Nat.mul_pos (Nat.mul_pos (by decide) hpos) (Nat.pow_pos (by decide)))
  · rw [toRat_value, hvalue]
    calc (2 : ℚ) ^ (-1099 : Int) ≤ 2 ^ exponent := zpow_le_zpow_right₀ one_le_two (by rw [minExponent] at hmin; omega)
      _ ≤ significand * 2 ^ exponent := le_mul_of_one_le_left (by positivity) hs
  · rw [toRat_value, hvalue]
    calc (significand * 2 ^ exponent : ℚ) < 2 ^ (53 : Int) * 2 ^ exponent :=
          mul_lt_mul_of_pos_right hs' (by positivity)
      _ = 2 ^ (53 + exponent) := by rw [zpow_add₀ two_ne_zero]
      _ ≤ 2 ^ (1100 : Int) := zpow_le_zpow_right₀ one_le_two (by rw [maxExponent] at hmax; omega)

/-- Seventeen digits are enough: the grid is finer than the interval is wide. -/
theorem grid_fine {significand : Nat} {exponent : Int} (hpos : 0 < significand)
    (hfits : Fits significand exponent) :
    (10 : ℚ) ^ (pointOf (interval significand exponent).value - 17) <
      (interval significand exponent).high.toRat - (interval significand exponent).low.toRat := by
  have hpoint := ten_zpow_pointOf_interval_le hpos hfits
  have hu : (0 : ℚ) < 2 ^ (exponent - 2) := by positivity
  have hsplit : (10 : ℚ) ^ (pointOf (interval significand exponent).value - 1) =
      10 ^ (pointOf (interval significand exponent).value - 17) * 10 ^ 16 := by
    rw [← zpow_natCast, ← zpow_add₀ (by norm_num)]
    congr 1
    ring
  rw [hsplit] at hpoint
  have hwidth : (interval significand exponent).high.toRat - (interval significand exponent).low.toRat =
      (2 + quartersBelow significand exponent) * 2 ^ (exponent - 2) := by
    rw [toRat_high, toRat_low _ _ hpos]
    ring
  -- by the quarters below: three quarters in all, or four
  rw [hwidth, quartersBelow]
  split
  · next h =>
    -- just above a power of two the interval has three quarters, but the significand is only half as great
    have hs : (significand : ℚ) = 2 ^ 52 := by rw [h.1]; norm_num [leastNormal]
    rw [hs] at hpoint
    push_cast
    linarith
  · have hs : (significand : ℚ) < 2 ^ 53 := by exact_mod_cast hfits.1
    have hlt := mul_lt_mul_of_pos_right hs hu
    push_cast
    linarith

/-- The shortest decimal of a positive number of the format has digits, of a number that is not zero. -/
theorem exists_shortest_eq {significand : Nat} {exponent : Int} (hpos : 0 < significand)
    (hfits : Fits significand exponent) (tie : Tie) :
    ∃ d k, 0 < d ∧ shortest tie significand exponent = Digits.ofDecimal d k := by
  have hproper := interval_isProper significand exponent hpos
  obtain ⟨d, hd⟩ := (interval significand exponent).exists_pick? hproper tie (grid_fine hpos hfits)
  rw [shortest]
  split
  · next digits h =>
    obtain ⟨n, -, hn⟩ := List.exists_of_findSome?_eq_some h
    obtain ⟨d', hpick, rfl⟩ := Option.map_eq_some_iff.1 hn
    exact ⟨d', _, Interval.pos_of_pick? hproper hpick, rfl⟩
  · next h =>
    -- the last grid that is tried
    have hlast := List.findSome?_eq_none_iff.1 h 16 (List.mem_range.2 (by decide))
    have h17 : pointOf (interval significand exponent).value - ((16 : Nat) + 1) =
        pointOf (interval significand exponent).value - 17 := rfl
    rw [h17, hd] at hlast
    cases hlast

end BenchSweep.Binary64
