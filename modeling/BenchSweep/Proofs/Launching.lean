/-
  Launching programs, on any system.

  The harness that launches programs leaves the programs to a `System`, and nothing is known of that here.
  What can be said all the same is what reaches a program and what a sweep does with the answers.

  1. **The variables** (`lookup_environmentWith`).  A program sees the variables of the host, but for its
     search path, which is that of the locator.

  2. **One launch** (`launch_cases`).  A search directory with a colon stops every launch.  Otherwise the
     system is asked once; if it refuses, the world stays as it was, and if not, the files are those that the
     program leaves, and its output stands behind that of the programs before.

  3. **A whole run** (`host_of_run`).  So the variables are the same for all programs of a sweep, and whatever
     was put out stays.
-/
import BenchSweep.Harness.Launch
import BenchSweep.Proofs.Calls
import BenchSweep.Proofs.SearchPath

namespace BenchSweep
namespace Harness

open Launch

namespace Launch

/-- The search path is the one that is given, and all other variables are those of the host. -/
theorem lookup_environmentWith (searchPath : List UInt8) (host : Host) (name : String) :
    (environmentWith searchPath host).lookup name =
      if name = "PATH" then some searchPath else host.environment.lookup name := by
  rw [environmentWith, Keyed.lookup_cons_eq_ite]
  by_cases hname : name = "PATH"
  · rw [if_pos hname, if_pos hname]
  · rw [if_neg hname, if_neg hname, Keyed.lookup_filter_ne hname]

end Launch

variable [System]

/-- **One launch.**  It fails before the system is asked exactly if a search directory has a colon inside.
    Whatever fails leaves the world as it was; what is launched changes the files as the program does, appends
    what it puts out, and nothing else. -/
theorem launch_cases (locator : Locator) (request : Request) (world : World Host) :
    ((∃ d ∈ locator.searchDirectories, Locator.colon ∈ d.bytes) ∧
      ∃ fault, launch locator request world = (.error (.locator fault), world)) ∨
    ∃ searchPath, locator.searchPath = .ok searchPath ∧
      ((∃ program, launch locator request world = (.error (.missing program searchPath), world)) ∨
        (∃ program reason, launch locator request world = (.error (.refused program reason), world)) ∨
        ∃ remains : System.Remains, launch locator request world = (.ok (statusOf remains.ending),
          { world with
            files := remains.files
            state := { world.state with output := world.state.output ++ remains.output } })) := by
  unfold launch
  cases hpath : locator.searchPath with
  | error fault =>
    left
    exact ⟨(locator.searchPath_entries.1).1 ⟨fault, hpath⟩, fault, rfl⟩
  | ok searchPath =>
    right
    refine ⟨searchPath, rfl, ?_⟩
    dsimp only
    split
    · exact .inl ⟨_, rfl⟩
    · exact .inr (.inl ⟨_, _, rfl⟩)
    · next remains _ => exact .inr (.inr ⟨remains, rfl⟩)

/-- A launch leaves the variables of the host as they are, and what was put out before. -/
theorem host_of_launch (locator : Locator) (request : Request) (world : World Host) :
    (launch locator request world).2.state.environment = world.state.environment ∧
      world.state.output <+: (launch locator request world).2.state.output := by
  have hkept : ∀ answer, launch locator request world = (answer, world) →
      (launch locator request world).2.state.environment = world.state.environment ∧
        world.state.output <+: (launch locator request world).2.state.output := by
    intro answer heq
    rw [heq]
    exact ⟨rfl, List.prefix_refl _⟩
  rcases launch_cases locator request world with
    ⟨-, fault, heq⟩ | ⟨searchPath, -, ⟨program, heq⟩ | ⟨program, reason, heq⟩ | ⟨remains, heq⟩⟩
  · exact hkept _ heq
  · exact hkept _ heq
  · exact hkept _ heq
  · rw [heq]
    exact ⟨rfl, List.prefix_append _ _⟩

end Harness

namespace Sweep

open Harness.Launch

variable [System]

/-- **A whole run.**  All programs that a run launches see the same variables, and all that they put out is
    kept. -/
theorem host_of_run (locator : Locator) (makeDirectories : Bool) (plan : Plan) (world : World Host) :
    (run (Harness.launch locator) makeDirectories plan world).world.state.environment =
        world.state.environment ∧
      world.state.output <+: (run (Harness.launch locator) makeDirectories plan world).world.state.output := by
  have hlaunched : ∀ requests (start : World Host), start.state = world.state →
      (launchPlan (Harness.launch locator) plan requests start).world.state.environment =
          world.state.environment ∧
        world.state.output <+:
          (launchPlan (Harness.launch locator) plan requests start).world.state.output := by
    intro requests start hstart
    rw [← hstart]
    exact launchPlan_world_of_step
      (R := fun before after : World Host => after.state.environment = before.state.environment ∧
        before.state.output <+: after.state.output)
      (fun _ => ⟨rfl, List.prefix_refl _⟩)
      (fun hfirst hrest => ⟨hrest.1.trans hfirst.1, hfirst.2.trans hrest.2⟩)
      (Harness.host_of_launch locator) plan requests start
  unfold run
  split
  · exact ⟨rfl, List.prefix_refl _⟩
  · next requests _ =>
    split
    · -- the directories are made without the host
      split
      · exact ⟨rfl, List.prefix_refl _⟩
      · exact hlaunched requests _ rfl
    · exact hlaunched requests world rfl

end Sweep
end BenchSweep
