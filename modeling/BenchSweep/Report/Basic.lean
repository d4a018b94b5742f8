/-
  Reports: what became of the invocations of a sweep.

  An invocation that failed is listed like the others; it does not end the sweep.
-/
import BenchSweep.Moment
import BenchSweep.Number.Binary64
import BenchSweep.Path.Basic
import BenchSweep.Status

namespace BenchSweep

/-- What became of one invocation. -/
structure Outcome where
  repetition : UInt32
  /-- The name of the experiment. -/
  experiment : String
  output : Path
  status : Status
  /-- How long the invocation took, in seconds. -/
  elapsed : Binary64
deriving DecidableEq, Repr, Inhabited

/-- What became of a sweep. -/
structure Report where
  /-- The name of the plan. -/
  plan : String
  startedAt : Moment
  /-- None while the sweep is under way. -/
  finishedAt : Option Moment
  outcomes : List Outcome
deriving DecidableEq, Repr, Inhabited

namespace Report

/-- How many invocations came to an end. -/
def total (report : Report) : Nat := report.outcomes.length

/-- The invocations that did not succeed, in order. -/
def failures (report : Report) : List Outcome :=
  report.outcomes.filter (fun outcome => !outcome.status.isSuccess)

/-- How many of them failed. -/
def failureCount (report : Report) : Nat := report.failures.length

end Report
end BenchSweep
