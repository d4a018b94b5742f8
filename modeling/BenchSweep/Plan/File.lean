/-
  Plans in files.
-/
import BenchSweep.Files.Operations
import BenchSweep.Plan.Text

namespace BenchSweep
namespace Plan

/-- Why a file gives no plan. -/
inductive FileFault where
  | unreadable (p : Path) (fault : Files.Fault)
  | text (p : Path) (fault : TextFault)
  /-- The plan of that name cannot be run. -/
  | invalid (p : Path) (plan : String) (fault : Fault)
deriving DecidableEq, Repr

/-- What was tried, and after it what went wrong. -/
def FileFault.causes : FileFault → List String
  | .unreadable p fault => [s!"read sweep plan {p.display}", fault.message]
  | .text p fault => s!"load sweep plan {p.display}" :: fault.causes
  | .invalid p plan fault => [s!"load sweep plan {p.display}", fault.message plan]

/-- All causes on one line. -/
def FileFault.message (fault : FileFault) : String := String.intercalate ": " fault.causes

/-- The plan in a file; it need not be valid. -/
def read (files : Files) (p : Path) : Except FileFault Plan := do
  let text ← (files.readText p).mapError (.unreadable p)
  (ofText text).mapError (.text p)

/-- The plan in a file, if it is valid. -/
def load (files : Files) (p : Path) : Except FileFault Plan := do
  let plan ← read files p
  plan.validate.mapError (.invalid p plan.name)
  return plan

end Plan
end BenchSweep
