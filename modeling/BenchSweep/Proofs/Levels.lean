/-
  The levels of a stepped axis.

  `stepped` climbs from level to level in words of 32 bits.  The way up ends at `last`, or where a word cannot
  hold the next level, and the first step may be shorter than the others.

  1. **Progressions** say in numbers of any size which levels there should be: `start`, `start + step`, … up to
     `last`.  They have every such number, once and in order (`mem_progression`, `pairwise_progression`).

  2. **One step** (`climb_level?`).  A number that no word holds is past `last`, which is a word.  So the two
     ways in which the loop ends are one: at every number it goes on exactly if the number is at most `last`.

  3. **All steps** (`toNat_climb`).  By induction on the room up to `last` the loop adds the progression from
     the number at which it stands, and nothing is ever cut down to 32 bits.

  4. **Axes** (`stepped_levels`).  A first level below the step has the multiples of the step behind it, any
     other the levels that are whole steps away from it.
-/
import Mathlib.Data.List.Chain
import BenchSweep.Axis
import BenchSweep.Proofs.Walks

namespace BenchSweep
namespace Axis

/-! ## Progressions

  These are numbers of any size, so nothing is said yet of words and of what they can hold.  A progression
  is a list by its number of members; that this number is the right one is `lt_count_iff`. -/

/-- The numbers `start`, `start + step`, `start + 2 * step`, … that are at most `last`. -/
def progression (start step last : Nat) : List Nat :=
  (List.range ((last + step - start) / step)).map fun k => start + k * step

section Progression

variable {start step last : Nat}

/-- A step counts among the steps exactly if it does not lead past `last`. -/
theorem lt_count_iff (hstep : 0 < step) (k : Nat) :
    k < (last + step - start) / step ↔ start + k * step ≤ last := by
  have hsucc : (k + 1) * step = k * step + step := Nat.succ_mul k step
  rw [Nat.lt_iff_add_one_le, Nat.le_div_iff_mul_le hstep, hsucc]
  omega

/-- A progression has every number that is whole steps from its start and at most `last`, and no other. -/
theorem mem_progression (hstep : 0 < step) {n : Nat} :
    n ∈ progression start step last ↔ n ≤ last ∧ ∃ k, n = start + k * step := by
  rw [progression, List.mem_map]
  constructor
  · rintro ⟨k, hk, rfl⟩
    exact ⟨(lt_count_iff hstep k).1 (List.mem_range.1 hk), k, rfl⟩
  · rintro ⟨hle, k, rfl⟩
    exact ⟨k, List.mem_range.2 ((lt_count_iff hstep k).2 hle), rfl⟩

/-- Neighbours are one step apart. -/
theorem isChain_progression (start step last : Nat) :
    (progression start step last).IsChain fun a b => b = a + step := by
  rw [progression, List.isChain_map]
  refine List.isChain_iff_getElem.2 fun k hk => ?_
  rw [List.getElem_range, List.getElem_range, Nat.succ_mul, Nat.add_assoc]

/-- A progression rises, so it has no number twice. -/
theorem pairwise_progression (hstep : 0 < step) : (progression start step last).Pairwise (· < ·) := by
  refine List.pairwise_map.2 (List.pairwise_lt_range.imp fun {a b} hab => ?_)
  have hmul : a * step < b * step := Nat.mul_lt_mul_of_pos_right hab hstep
  omega

/-- One step behind the last number is past `last`. -/
theorem lt_getLast?_progression (hstep : 0 < step) {top : Nat}
    (h : top ∈ (progression start step last).getLast?) : last < top + step := by
  rw [progression, List.getLast?_map, List.getLast?_range] at h
  split at h
  · cases h
  · next hcount =>
    obtain rfl : start + ((last + step - start) / step - 1) * step = top := Option.some.inj h
    -- one step more than there are leads past `last`
    have hnext : ¬ start + (last + step - start) / step * step ≤ last := by
      rw [← lt_count_iff hstep]
      exact Nat.lt_irrefl _
    obtain ⟨k, hk⟩ : ∃ k, (last + step - start) / step = k + 1 := Nat.exists_eq_succ_of_ne_zero hcount
    rw [hk, Nat.succ_mul] at hnext
    rw [hk, Nat.add_sub_cancel]
    omega

/-- Past `last` there is no progression. -/
theorem progression_of_lt (h : last < start) : progression start step last = [] := by
  have hnone : (last + step - start) / step = 0 := by
    -- division by zero gives zero here, so a step of zero makes no exception
    rcases Nat.eq_zero_or_pos step with rfl | hstep
    · exact Nat.div_zero _
    · exact Nat.div_eq_of_lt (by omega)
  rw [progression, hnone]
  rfl

/-- Up to `last` a progression has its start, and one that starts a step later. -/
theorem progression_of_le (hstep : 0 < step) (h : start ≤ last) :
    progression start step last = start :: progression (start + step) step last := by
  -- a start that is a step later leaves one step less
  have hcount : (last + step - start) / step = (last + step - (start + step)) / step + 1 := by
    have hroom : last + step - start = last + step - (start + step) + step := by omega
    rw [hroom, Nat.add_div_right _ hstep]
  rw [progression, hcount, List.range_succ_eq_map, List.map_cons, List.map_map, progression]
  congr 1
  · omega
  · refine List.map_congr_left fun k _ => ?_
    show start + (k + 1) * step = start + step + k * step
    rw [Nat.succ_mul]
    omega

end Progression

/-! ## The loop

  The loop carries the next level as `level? n`, which is nothing where no word holds `n`.  So its
  statements are about every number `n`, word or not, and that is what makes the induction go through. -/

section Loop

variable {step last : UInt32} {rises : step ≠ 0} {levels : Array UInt32}

/-- A step that is not zero as a word is positive as a number. -/
theorem toNat_pos (rises : step ≠ 0) : 0 < step.toNat := by
  refine Nat.pos_of_ne_zero fun hzero => rises ?_
  exact UInt32.toNat_inj.1 hzero

/-- **One step.**  At a number up to `last` the loop takes it as a level and goes on a step further, and
    otherwise it ends, be the number a word or not. -/
theorem climb_level? (n : Nat) : climb step last rises levels (level? n) =
    if n ≤ last.toNat then climb step last rises (levels.push (UInt32.ofNat n)) (level? (n + step.toNat))
    else levels := by
  have hlast : last.toNat < UInt32.size := last.toNat_lt_size
  by_cases hn : n < UInt32.size
  · have hword : (UInt32.ofNat n).toNat = n := UInt32.toNat_ofNat_of_lt' hn
    rw [level?, if_pos hn, climb]
    simp only [UInt32.le_iff_toNat_le, hword]
  · -- no word holds the number, and so it is past `last`
    rw [level?, if_neg hn, climb, if_neg (by omega)]

/-- **All steps.**  The loop adds the progression from the number at which it stands. -/
theorem toNat_climb (n : Nat) :
    (climb step last rises levels (level? n)).toList.map UInt32.toNat =
      levels.toList.map UInt32.toNat ++ progression n step.toNat last.toNat := by
  have hstep : 0 < step.toNat := toNat_pos rises
  -- the room up to `last`, which every step makes smaller
  obtain ⟨room, hroom⟩ : ∃ room, room = last.toNat + 1 - n := ⟨_, rfl⟩
  induction room using Nat.strongRecOn generalizing n levels with
  | ind room ih =>
    rw [climb_level?]
    by_cases hn : n ≤ last.toNat
    · have hlast : last.toNat < UInt32.size := last.toNat_lt_size
      have hword : (UInt32.ofNat n).toNat = n := UInt32.toNat_ofNat_of_lt' (by omega)
      rw [if_pos hn, ih _ (by omega) (n + step.toNat) rfl, progression_of_le hstep hn, Array.toList_push,
        List.map_append, List.append_assoc, List.map_singleton, hword, List.singleton_append]
    · rw [if_neg hn, progression_of_lt (by omega), List.append_nil]

end Loop

/-! ## Stepped axes

  A stepped axis puts its first level in front of the loop.  Only the second level depends on whether the
  first one is below the step. -/

/-- The second level of a stepped axis, as a number of any size. -/
def second (first step : UInt32) : Nat :=
  if first < step then step.toNat else first.toNat + step.toNat

/-- The level with which the loop begins is the second one, where a word holds it. -/
theorem level?_second (first step : UInt32) :
    level? (second first step) =
      if first < step then some step else level? (first.toNat + step.toNat) := by
  unfold second
  split
  · rw [level?, if_pos step.toNat_lt_size, UInt32.ofNat_toNat]
  · rfl

/-- Every level of the loop is behind the first one. -/
theorem lt_of_mem_progression_second {first step : UInt32} (rises : step ≠ 0) {last n : Nat}
    (h : n ∈ progression (second first step) step.toNat last) : first.toNat < n := by
  have hstep : 0 < step.toNat := toNat_pos rises
  obtain ⟨-, k, rfl⟩ := (mem_progression hstep).1 h
  unfold second
  split
  · next hshort =>
    have hlt : first.toNat < step.toNat := UInt32.lt_iff_toNat_lt.1 hshort
    omega
  · omega

/-- Behind a first level below the step there are the multiples of the step. -/
theorem mem_progression_of_lt {first step : UInt32} (rises : step ≠ 0) (h : first < step) {last n : Nat} :
    n ∈ progression (second first step) step.toNat last ↔ n ≤ last ∧ 0 < n ∧ step.toNat ∣ n := by
  have hstep : 0 < step.toNat := toNat_pos rises
  rw [second, if_pos h, mem_progression hstep]
  refine and_congr_right fun _ => ?_
  constructor
  · rintro ⟨k, rfl⟩
    refine ⟨by omega, k + 1, ?_⟩
    rw [Nat.mul_comm step.toNat, Nat.succ_mul, Nat.add_comm]
  · rintro ⟨hpos, k, rfl⟩
    obtain ⟨m, rfl⟩ : ∃ m, k = m + 1 := Nat.exists_eq_succ_of_ne_zero fun hzero => by
      rw [hzero, Nat.mul_zero] at hpos
      exact absurd hpos (Nat.lt_irrefl 0)
    refine ⟨m, ?_⟩
    rw [Nat.mul_comm, Nat.succ_mul, Nat.add_comm]

/-- Behind any other first level there are the numbers whole steps away from it. -/
theorem mem_progression_of_le {first step : UInt32} (rises : step ≠ 0) (h : step ≤ first) {last n : Nat} :
    n ∈ progression (second first step) step.toNat last ↔
      n ≤ last ∧ ∃ k, 1 ≤ k ∧ n = first.toNat + k * step.toNat := by
  have hlong : ¬ first < step := UInt32.not_lt.2 h
  rw [second, if_neg hlong, mem_progression (toNat_pos rises)]
  refine and_congr_right fun _ => ?_
  constructor
  · rintro ⟨k, rfl⟩
    refine ⟨k + 1, by omega, ?_⟩
    rw [Nat.succ_mul]
    omega
  · rintro ⟨k, hk, rfl⟩
    obtain ⟨m, rfl⟩ : ∃ m, k = m + 1 := Nat.exists_eq_succ_of_ne_zero (by omega)
    refine ⟨m, ?_⟩
    rw [Nat.succ_mul]
    omega

/-- The levels of an axis pass if there are any and none of them is zero. -/
theorem validate_eq_ok_iff {axis : Axis} : axis.validate = .ok () ↔ axis.levels ≠ [] ∧ 0 ∉ axis.levels := by
  unfold validate
  rw [ite_error_eq_ok_iff, ite_error_eq_ok_iff, List.isEmpty_iff, List.contains_iff_mem]
  exact and_congr_right fun _ => and_iff_left rfl

/-- An axis is made of levels exactly if they pass, and it has them all. -/
theorem ofLevels_eq_ok_iff {levels : List UInt32} {axis : Axis} :
    ofLevels levels = .ok axis ↔ axis.levels = levels ∧ levels ≠ [] ∧ 0 ∉ levels := by
  unfold ofLevels
  rw [bind_eq_ok_iff]
  constructor
  · rintro ⟨_, hvalid, hmade⟩
    obtain rfl : (⟨levels⟩ : Axis) = axis := Except.ok.inj hmade
    exact ⟨rfl, validate_eq_ok_iff.1 hvalid⟩
  · rintro ⟨rfl, husable⟩
    exact ⟨(), validate_eq_ok_iff.2 husable, rfl⟩

/-- The levels of the loop are words for the first level and the numbers of the progression behind it. -/
theorem toNat_stepped_levels (first : UInt32) {step : UInt32} (rises : step ≠ 0) (last : UInt32) :
    (climb step last rises #[first]
        (if first < step then some step else level? (first.toNat + step.toNat))).toList.map UInt32.toNat =
      first.toNat :: progression (second first step) step.toNat last.toNat := by
  rw [← level?_second, toNat_climb]
  rfl

/-- When there is a stepped axis, and which levels it has as numbers. -/
theorem stepped_eq_ok_iff {first step last : UInt32} {axis : Axis} :
    stepped first step last = .ok axis ↔ (step ≠ 0 ∧ first ≤ last ∧ first ≠ 0) ∧
      axis.levels.map UInt32.toNat =
        first.toNat :: progression (second first step) step.toNat last.toNat := by
  have hinjective : Function.Injective UInt32.toNat := fun a b => UInt32.toNat_inj.1
  unfold stepped
  by_cases hstep : step = 0
  · rw [dif_pos hstep]
    refine iff_of_false ?_ fun h => h.1.1 hstep
    intro h
    cases h
  · have hlevels := toNat_stepped_levels first hstep last
    rw [dif_neg hstep, ite_error_eq_ok_iff, UInt32.not_lt, ofLevels_eq_ok_iff, ← hlevels,
      hinjective.list_map.eq_iff]
    generalize (climb step last hstep #[first] _).toList = levels at hlevels ⊢
    -- the first level is there, and it is the only one that can be zero
    have hne : levels ≠ [] := by
      rintro rfl
      cases hlevels
    have hzero : 0 ∈ levels ↔ first = 0 := by
      rw [← List.mem_map_of_injective hinjective, hlevels, List.mem_cons]
      constructor
      · rintro (hfirst | hrest)
        · exact UInt32.toNat_inj.1 hfirst.symm
        · exact absurd (lt_of_mem_progression_second hstep hrest) (Nat.not_lt_zero _)
      · rintro rfl
        exact .inl rfl
    rw [hzero]
    constructor
    · rintro ⟨hlast, haxis, -, hfirst⟩
      exact ⟨⟨hstep, hlast, hfirst⟩, haxis⟩
    · rintro ⟨⟨-, hlast, hfirst⟩, haxis⟩
      exact ⟨hlast, haxis, hne, hfirst⟩

/-- There is a stepped axis exactly if its bounds are usable. -/
theorem exists_stepped_iff {first step last : UInt32} :
    (∃ axis, stepped first step last = .ok axis) ↔ step ≠ 0 ∧ first ≤ last ∧ first ≠ 0 := by
  constructor
  · rintro ⟨axis, haxis⟩
    exact (stepped_eq_ok_iff.1 haxis).1
  · intro husable
    -- the loop itself makes the levels of an axis
    exact ⟨⟨_⟩, stepped_eq_ok_iff.2 ⟨husable, toNat_stepped_levels first husable.1 last⟩⟩

/-- What the levels of a stepped axis are: the first one, and behind it these and no others. -/
structure StepsUp (first step last : UInt32) (levels : List UInt32) (rest : List UInt32) : Prop where
  head : levels = first :: rest
  /-- Behind a first level below the step, all positive multiples of the step up to `last`. -/
  multiples : first < step → ∀ v, v ∈ rest ↔ v ≤ last ∧ 0 < v.toNat ∧ step.toNat ∣ v.toNat
  /-- Behind any other, all numbers up to `last` that are whole steps away from it. -/
  steps : step ≤ first → ∀ v, v ∈ rest ↔ v ≤ last ∧ ∃ k, 1 ≤ k ∧ v.toNat = first.toNat + k * step.toNat
  rises : levels.Pairwise (· < ·)
  within : ∀ v ∈ levels, first ≤ v ∧ v ≤ last
  /-- As numbers neighbours are one step apart, so no sum was cut down to a word. -/
  neighbours : rest.IsChain fun a b => b.toNat = a.toNat + step.toNat
  /-- One step further, in numbers of any size, is past `last`. -/
  stops : ∀ top ∈ rest.getLast?, last.toNat < top.toNat + step.toNat

/-- Levels that are the progression in numbers are what they should be as words. -/
theorem stepsUp_of_toNat {first step last : UInt32} (hstep : step ≠ 0) (hfirst : first ≤ last)
    {levels : List UInt32} (h : levels.map UInt32.toNat =
      first.toNat :: progression (second first step) step.toNat last.toNat) :
    ∃ rest, StepsUp first step last levels rest := by
  have hinjective : Function.Injective UInt32.toNat := fun a b => UInt32.toNat_inj.1
  obtain ⟨head, rest, rfl, hhead, hrest⟩ := List.map_eq_cons_iff.1 h
  obtain rfl : head = first := UInt32.toNat_inj.1 hhead
  -- words and their numbers are one to one, so members and order carry over
  have hmem : ∀ v, v ∈ rest ↔ v.toNat ∈ progression (second head step) step.toNat last.toNat := by
    intro v
    rw [← hrest, List.mem_map_of_injective hinjective]
  have hbehind : ∀ v ∈ rest, head < v ∧ v ≤ last := by
    intro v hv
    have hnumber := (hmem v).1 hv
    have hle := ((mem_progression (toNat_pos hstep)).1 hnumber).1
    exact ⟨UInt32.lt_iff_toNat_lt.2 (lt_of_mem_progression_second hstep hnumber), UInt32.le_iff_toNat_le.2 hle⟩
  refine ⟨rest, rfl, ?_, ?_, ?_, ?_, ?_, ?_⟩
  · intro hshort v
    rw [hmem, mem_progression_of_lt hstep hshort, UInt32.le_iff_toNat_le]
  · intro hlong v
    rw [hmem, mem_progression_of_le hstep hlong, UInt32.le_iff_toNat_le]
  · have hpairwise : (progression (second head step) step.toNat last.toNat).Pairwise (· < ·) :=
      pairwise_progression (toNat_pos hstep)
    rw [← hrest, List.pairwise_map] at hpairwise
    refine List.pairwise_cons.2 ⟨fun v hv => (hbehind v hv).1, hpairwise.imp fun hlt => ?_⟩
    exact UInt32.lt_iff_toNat_lt.2 hlt
  · intro v hv
    rcases List.mem_cons.1 hv with rfl | hv
    · exact ⟨UInt32.le_refl v, hfirst⟩
    · obtain ⟨hlt, hle⟩ := hbehind v hv
      exact ⟨UInt32.le_of_lt hlt, hle⟩
  · have hchain := isChain_progression (second head step) step.toNat last.toNat
    rwa [← hrest, List.isChain_map] at hchain
  · intro top htop
    have hlast : top.toNat ∈ (progression (second head step) step.toNat last.toNat).getLast? := by
      rw [← hrest, List.getLast?_map]
      exact Option.mem_map_of_mem UInt32.toNat htop
    exact lt_getLast?_progression (toNat_pos hstep) hlast

/-- **The levels of a stepped axis.**  There is no axis exactly if the step or the first level is zero or the
    first level past the last one.  Otherwise the first level has behind it every multiple of the step, or
    every whole step, that is at most the last level, and nothing else. -/
theorem stepped_levels (first step last : UInt32) :
    ((∃ fault, stepped first step last = .error fault) ↔ step = 0 ∨ last < first ∨ first = 0) ∧
    ∀ axis, stepped first step last = .ok axis → ∃ rest, StepsUp first step last axis.levels rest := by
  constructor
  · rw [exists_eq_error_iff, exists_stepped_iff, ← UInt32.not_lt]
    tauto
  · intro axis haxis
    obtain ⟨⟨hstep, hfirst, -⟩, hlevels⟩ := stepped_eq_ok_iff.1 haxis
    exact stepsUp_of_toNat hstep hfirst hlevels

/-- Close to the largest word there is no number for the next level. -/
theorem stepped_levels_top :
    stepped 4294967280 10 4294967295 = .ok ⟨[4294967280, 4294967290]⟩ ∧
      ∃ rest, StepsUp 4294967280 10 4294967295 [4294967280, 4294967290] rest := by
  have haxis : stepped 4294967280 10 4294967295 = .ok ⟨[4294967280, 4294967290]⟩ := by decide +kernel
  exact ⟨haxis, (stepped_levels 4294967280 10 4294967295).2 _ haxis⟩

end Axis
end BenchSweep
