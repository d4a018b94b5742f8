/-
  Plans: all that a sweep needs to know before it starts.

  A plan says how often every experiment is run, which subjects each invocation compares, how the
  harness is called, and which axis each family of workloads scans.  A plan may be any value of its
  type; `BenchSweep.Plan.Validation` says which plans can be run.
-/
import BenchSweep.Axis
import BenchSweep.Experiment
import BenchSweep.Keyed
import BenchSweep.Subjects

namespace BenchSweep

/-- What stays the same in every invocation of a sweep. -/
structure HarnessSettings where
  /-- The executable, as it is looked up. -/
  command : String := "metacmd.py"
  /-- The word in front of all flags. -/
  action : String := "main"
  /-- Seconds for each measurement. -/
  iterations : UInt32 := 10
  /-- How often the epoch advances. -/
  epochFreq : UInt32 := 110
  /-- How often the retired objects are scanned. -/
  emptyFreq : UInt32 := 120
  verbose : Bool := true
  /-- The parameter that carries the repetition. -/
  runIdKey : String := "trial"
deriving DecidableEq, Repr, Inhabited

/-- A sweep before it is run. -/
structure Plan where
  name : String := "custom"
  /-- How often every experiment is run. -/
  repetitions : UInt32
  subjects : Subjects
  harness : HarnessSettings := {}
  /-- The axis of each family. -/
  axes : Keyed Axis
  experiments : List Experiment
deriving DecidableEq, Repr, Inhabited

namespace Plan

/-- The axis of an experiment's family. -/
def axisFor (plan : Plan) (experiment : Experiment) : Option Axis :=
  plan.axes.get? experiment.family

/-- How many invocations the plan asks for. -/
def invocationCount (plan : Plan) : Nat := plan.repetitions.toNat * plan.experiments.length

/-- The plan with another number of repetitions. -/
def withRepetitions (plan : Plan) (repetitions : UInt32) : Plan := { plan with repetitions }

end Plan
end BenchSweep
