/-
  Sweep axes: the thread counts that one invocation scans.

  An axis is a list of levels in the order in which the harness takes them.  A usable axis has a
  level, and no level is zero; `stepped` builds the usual one, a first level and then every step up to
  a last level.
-/

namespace BenchSweep

/-- Thread counts in the order in which they are scanned. -/
structure Axis where
  /-- The thread counts. -/
  levels : List UInt32
deriving DecidableEq, Repr, Inhabited

namespace Axis

/-- What can be wrong with an axis, or with the bounds that describe one. -/
inductive Fault where
  /-- There is no level. -/
  | noLevels
  /-- One of the levels is zero. -/
  | zeroLevel (levels : List UInt32)
  /-- The levels would never rise. -/
  | zeroStep
  /-- The first level is past the last one. -/
  | startsPastLast (first last : UInt32)
deriving DecidableEq, Repr

/-- Numbers between brackets, with a comma and a space between each two. -/
def listText (levels : List UInt32) : String :=
  "[" ++ String.intercalate ", " (levels.map (fun level => toString level.toNat)) ++ "]"

/-- What is said of a fault. -/
def Fault.message : Fault → String
  | .noLevels => "sweep axis has no thread counts"
  | .zeroLevel levels => s!"sweep axis contains a zero thread count: {listText levels}"
  | .zeroStep => "sweep axis step must be positive"
  | .startsPastLast first last =>
    s!"sweep axis starts at {first.toNat} past its last level {last.toNat}"

/-- An axis has levels, all of them positive. -/
def validate (axis : Axis) : Except Fault Unit :=
  if axis.levels.isEmpty then .error .noLevels
  else if axis.levels.contains 0 then .error (.zeroLevel axis.levels)
  else .ok ()

/-- The axis with these levels, if it is usable. -/
def ofLevels (levels : List UInt32) : Except Fault Axis := do
  let axis : Axis := ⟨levels⟩
  axis.validate
  return axis

/-- The level that a number is, if it is one. -/
def level? (n : Nat) : Option UInt32 := if n < UInt32.size then some (UInt32.ofNat n) else none

/-- A level is the number for which it stands. -/
theorem toNat_of_level? {n : Nat} {level : UInt32} (h : level? n = some level) : level.toNat = n := by
  unfold level? at h
  split at h
  · next hn =>
    rw [← Option.some.inj h]
    exact UInt32.toNat_ofNat_of_lt' hn
  · cases h

/-- How many numbers there are from the next level up to `last`. -/
def room (last : UInt32) : Option UInt32 → Nat
  | none => 0
  | some level => last.toNat + 1 - level.toNat

/-- Each step up takes some of the room. -/
theorem room_level?_lt {step last level : UInt32} (rises : step ≠ 0) (h : level ≤ last) :
    room last (level? (level.toNat + step.toNat)) < room last (some level) := by
  have hle : level.toNat ≤ last.toNat := UInt32.le_iff_toNat_le.1 h
  have hstep : step.toNat ≠ 0 := fun hzero => rises (UInt32.toNat_inj.1 hzero)
  cases hnext : level? (level.toNat + step.toNat) with
  | none =>
    simp only [room]
    omega
  | some next =>
    have hsum : next.toNat = level.toNat + step.toNat := toNat_of_level? hnext
    simp only [room]
    omega

/-- The levels so far and behind them `next`, `next + step`, … as long as they are at most `last`.  Where
    there is no number for the next level, there is no next level. -/
def climb (step last : UInt32) (rises : step ≠ 0) (levels : Array UInt32) : Option UInt32 → Array UInt32
  | none => levels
  | some level =>
    if level ≤ last then
      climb step last rises (levels.push level) (level? (level.toNat + step.toNat))
    else levels
termination_by next => room last next
decreasing_by exact room_level?_lt rises ‹_›

/-- The axis with the level `first` and then every `step` up to `last`.  A first level below the step
    is one of its own, and the multiples of the step follow: 1, 12, 24, 36 for steps of 12 from 1. -/
def stepped (first step last : UInt32) : Except Fault Axis :=
  if rises : step = 0 then .error .zeroStep
  else if last < first then .error (.startsPastLast first last)
  else
    let second := if first < step then some step else level? (first.toNat + step.toNat)
    ofLevels (climb step last rises #[first] second).toList

/-- The text under which the harness takes an axis: `t:1:12:24`. -/
def metaText (axis : Axis) : String :=
  axis.levels.foldl (fun text level => text ++ ":" ++ toString level.toNat) "t"

example : (stepped 1 12 48).toOption.map Axis.levels = some [1, 12, 24, 36, 48] := by decide +kernel
example : (stepped 5 3 9).toOption.map Axis.levels = some [5, 8] := by decide +kernel
example : (⟨[1, 12]⟩ : Axis).metaText = "t:1:12" := by decide

end Axis
end BenchSweep
