/-
  Harnesses: what carries out requests.

  A harness is any function that answers a request and may change the world: the files, the clock and a
  state of its own.  It answers with the status of the invocation, or refuses to launch it.
-/
import BenchSweep.Files.Tree
import BenchSweep.Moment
import BenchSweep.Request.Display
import BenchSweep.Status

namespace BenchSweep

/-- All that a harness can see and change. -/
structure World (σ : Type) where
  files : Files
  clock : Moment
  /-- The state of the harness. -/
  state : σ
deriving Inhabited

/-- What answers requests; `ε` is what it says when it cannot launch one. -/
abbrev Harness (σ ε : Type) := Request → World σ → Except ε Status × World σ

namespace Harness

/-! ## A harness that follows a script -/

/-- What a scripted harness does with a request. -/
inductive Reply where
  | status (status : Status)
  | refuse (message : String)
deriving DecidableEq, Repr

/-- A harness that takes its replies from a list, and lets requests succeed when the list is at its end. -/
def scripted : Harness (List Reply) String := fun _ world =>
  match world.state with
  | [] => (.ok .succeeded, world)
  | .status status :: rest => (.ok status, { world with state := rest })
  | .refuse message :: rest => (.error message, { world with state := rest })

/-! ## A harness that keeps what it was asked -/

/-- A harness that does what another one does and keeps every request, the last one in front. -/
def recorded {σ ε : Type} (harness : Harness σ ε) : Harness (σ × List Request) ε :=
  fun request world =>
    let (answer, after) := harness request { world with state := world.state.1 }
    (answer, { after with state := (after.state, request :: world.state.2) })

end Harness
end BenchSweep
