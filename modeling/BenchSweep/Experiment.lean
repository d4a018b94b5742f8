/-
  Experiments: the lines of a sweep.

  An experiment is a workload with the numbers under which the harness knows it, and the file to which
  the harness appends its rows.
-/
import BenchSweep.Path.Basic

namespace BenchSweep

/-- A workload, an operation mix and the file for its rows. -/
structure Experiment where
  /-- What the workload is called. -/
  name : String
  /-- The key of its axis in the plan. -/
  family : String
  /-- The data structure, as the harness numbers them. -/
  selector : UInt32
  /-- The operation mix, as the harness numbers them. -/
  mode : UInt32
  /-- Whether objects that wait for reclamation are counted. -/
  countRetired : Bool := false
  /-- The file to which the rows are appended. -/
  output : Path
deriving DecidableEq, Repr, Inhabited

namespace Experiment

/-- An experiment with the usual output, a file in the working directory that bears its name. -/
def ofName (name family : String) (selector mode : UInt32) : Experiment :=
  { name, family, selector, mode, output := .ofString (name ++ "_result.csv") }

end Experiment
end BenchSweep
