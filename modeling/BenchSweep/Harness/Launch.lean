/-
  The harness that launches executables.

  The program of a request is resolved by the locator, and then run with the locator's search path in the
  working directory.  What it puts out is kept; what it does to files stays.

  Which programs there are, how they are started and what they do is no part of the program.  All of that is
  a `System`, and the harness is the same for every system.
-/
import BenchSweep.Harness.Basic
import BenchSweep.Harness.Locator

namespace BenchSweep

namespace System

/-- How a program that was started has come to its end. -/
inductive Ending where
  | exited (code : Nat)
  /-- It was ended from outside and left no code. -/
  | killed
deriving DecidableEq, Repr

/-- What a program leaves behind. -/
structure Remains where
  ending : Ending
  files : Files
  /-- What it has put out. -/
  output : List UInt8

/-- Why a program is not started. -/
inductive Refusal where
  /-- There is no such program. -/
  | missing
  /-- The system gives another reason. -/
  | refused (reason : String)
deriving DecidableEq, Repr

end System

/-- What runs programs.  A program is a path, or a bare name that is looked for along the variable `PATH`; it
    has its arguments, and sees the files and the variables. -/
class System where
  spawn (files : Files) (environment : List (String × List UInt8)) (program : Path)
    (arguments : List (List UInt8)) : Except System.Refusal System.Remains

namespace Harness
namespace Launch

/-- What the programs share with the one that launches them. -/
structure Host where
  /-- The variables that the programs see. -/
  environment : List (String × List UInt8)
  /-- What the programs have put out. -/
  output : List UInt8
deriving DecidableEq, Repr, Inhabited

/-- Why a program was not launched. -/
inductive Fault where
  | locator (fault : Locator.Fault)
  | missing (program : Path) (searchPath : List UInt8)
  | refused (program : Path) (reason : String)
deriving DecidableEq, Repr

/-- What was tried, and after it what went wrong. -/
def Fault.causes : Fault → List String
  | .locator fault => fault.causes
  | .missing program searchPath =>
    [s!"harness executable '{program.display}' not found (PATH={(Path.mk searchPath).display})"]
  | .refused program reason => [s!"failed to launch harness '{program.display}'", reason]

/-- The variables of a program that is launched: those of the host, with another search path. -/
def environmentWith (searchPath : List UInt8) (host : Host) : List (String × List UInt8) :=
  ("PATH", searchPath) :: host.environment.filter (·.1 ≠ "PATH")

/-- The status of a program that has come to its end. -/
def statusOf : System.Ending → Status
  | .exited 0 => .succeeded
  | .exited code => .failed (some code)
  | .killed => .failed none

end Launch

/-- The harness that launches the program of each request. -/
def launch [System] (locator : Locator) : Harness Launch.Host Launch.Fault := fun request world =>
  let program := locator.resolve world.files.isFile request.program
  let arguments := request.arguments.map fun a => Text.Utf8.encode a.toList
  match locator.searchPath with
  | .error fault => (.error (.locator fault), world)
  | .ok searchPath =>
    let environment := Launch.environmentWith searchPath world.state
    match System.spawn world.files environment program arguments with
    | .error .missing => (.error (.missing program searchPath), world)
    | .error (.refused reason) => (.error (.refused program reason), world)
    | .ok remains =>
      let state := { world.state with output := world.state.output ++ remains.output }
      (.ok (Launch.statusOf remains.ending), { world with files := remains.files, state })

end Harness
end BenchSweep
