/-
  Running a sweep.

  A sweep checks its plan, makes the directories of the outputs, and then hands the requests of the plan
  to the harness one after the other.  An invocation that fails is recorded and the next one follows; a
  harness that cannot launch a request ends the sweep.  Nothing is launched before the plan is checked and
  the directories are there.
-/
import BenchSweep.Files.Operations
import BenchSweep.Harness.Basic
import BenchSweep.Log.Basic
import BenchSweep.Report.Basic

namespace BenchSweep
namespace Sweep

/-- Why a sweep did not come to its end. -/
inductive Fault (ε : Type) where
  | invalid (fault : Plan.Fault)
  /-- The directory of an output could not be made. -/
  | directory (p : Path) (fault : Files.Fault)
  /-- The harness could not launch a request. -/
  | aborted (repetition : UInt32) (experiment : String) (cause : ε)
deriving DecidableEq, Repr

/-- What was tried in the plan of that name, and after it what went wrong. -/
def Fault.causes {ε : Type} (causes : ε → List String) (plan : String) : Fault ε → List String
  | .invalid fault => [fault.message plan]
  | .directory p fault => [s!"create output directory {p.display}", fault.message]
  | .aborted repetition experiment cause =>
    s!"sweep '{plan}' aborted at repetition {repetition.toNat} experiment '{experiment}'" ::
      causes cause

/-! ## The directories of the outputs -/

/-- Makes the directory of an output, if it has one that is not there. -/
def makeOutputDirectory (files : Files) (output : Path) : Except (Path × Files.Fault) Unit × Files :=
  match output.parent? with
  | none => (.ok (), files)
  | some parent =>
    if parent.isEmpty || files.pathExists parent then (.ok (), files)
    else
      let (made, files) := files.makeDirectories parent
      (made.mapError ((parent, ·)), files)

/-- Makes the directories of all outputs in the order given, up to the first that cannot be made. -/
def makeOutputDirectories (files : Files) : List Path → Except (Path × Files.Fault) Unit × Files
  | [] => (.ok (), files)
  | output :: rest =>
    match makeOutputDirectory files output with
    | (.error fault, files) => (.error fault, files)
    | (.ok (), files) => makeOutputDirectories files rest

/-! ## The log -/

/-- The part of the program that runs sweeps, as the log names it. -/
def logTarget : String := "parsweep_core::driver"

/-- The event in front of the first launch. -/
def startEvent (plan : Plan) (invocations : Nat) : Log.Event :=
  { level := .info, target := logTarget, message := "starting sweep"
    fields := [("plan", plan.name), ("repetitions", toString plan.repetitions.toNat),
      ("experiments", toString plan.experiments.length), ("invocations", toString invocations)] }

/-- The lines before the launch of a request, which is the one after `done` others. -/
def launchEvents (done total : Nat) (request : Request) : List Log.Event :=
  [{ level := .info, target := logTarget
     message := s!"[{done + 1}/{total}] repetition {request.repetition.toNat} " ++
       s!"{request.experiment} -> {request.output.display}" },
    { level := .debug, target := logTarget, message := "launching harness"
      fields := [("command", request.display)] }]

/-- The line after an invocation, if there is something to say. -/
def statusEvents (request : Request) (status : Status) : List Log.Event :=
  if status.isSuccess then []
  else
    [{ level := .warn, target := logTarget
       message := s!"repetition {request.repetition.toNat} {request.experiment} " ++
         s!"failed ({status.display}); continuing" }]

/-- The event behind the last one. -/
def finishEvent (report : Report) : Log.Event :=
  { level := .info, target := logTarget, message := "sweep finished"
    fields := [("plan", report.plan), ("invocations", toString report.total),
      ("failed", toString report.failureCount)] }

/-! ## The requests -/

/-- What running something came to: its result, the world after it, and its log. -/
structure Run (σ ε α : Type) where
  result : Except ε α
  world : World σ
  log : List Log.Event

/-- The outcome of a request that was answered with `status`.  The program takes the time from a clock that
    never goes back, and the moments of its reports from the clock of the machine; a world has the one
    clock for both, and where that goes back no time has passed. -/
def outcomeOf (request : Request) (status : Status) (started ended : Moment) : Outcome :=
  { repetition := request.repetition, experiment := request.experiment, output := request.output, status
    elapsed := .ofNanoseconds (started.nanosecondsTo ended) }

/-- Hands requests to the harness one after the other, up to the first that it cannot launch; `done` of
    `total` requests came before. -/
def launch {σ ε : Type} (harness : Harness σ ε) (total : Nat) :
    Nat → List Request → World σ → Run σ (Fault ε) (List Outcome)
  | _, [], world => ⟨.ok [], world, []⟩
  | done, request :: rest, world =>
    let before := launchEvents done total request
    match harness request world with
    | (.error cause, after) =>
      ⟨.error (.aborted request.repetition request.experiment cause), after, before⟩
    | (.ok status, after) =>
      let run := launch harness total (done + 1) rest after
      let outcome := outcomeOf request status world.clock after.clock
      ⟨run.result.map (outcome :: ·), run.world, before ++ statusEvents request status ++ run.log⟩

/-! ## The sweep -/

/-- Launches the requests of a plan and reports on them. -/
def launchPlan {σ ε : Type} (harness : Harness σ ε) (plan : Plan) (requests : List Request)
    (world : World σ) : Run σ (Fault ε) Report :=
  let start := startEvent plan requests.length
  let run := launch harness requests.length 0 requests world
  match run.result with
  | .error fault => ⟨.error fault, run.world, start :: run.log⟩
  | .ok outcomes =>
    let report : Report :=
      { plan := plan.name, startedAt := world.clock, finishedAt := some run.world.clock, outcomes }
    ⟨.ok report, run.world, start :: run.log ++ [finishEvent report]⟩

/-- Runs a plan.  The directories of its outputs are made first if `makeDirectories` holds. -/
def run {σ ε : Type} (harness : Harness σ ε) (makeDirectories : Bool) (plan : Plan) (world : World σ) :
    Run σ (Fault ε) Report :=
  match plan.requests with
  | .error fault => ⟨.error (.invalid fault), world, []⟩
  | .ok requests =>
    if makeDirectories then
      match makeOutputDirectories world.files (plan.experiments.map Experiment.output) with
      | (.error (p, fault), files) => ⟨.error (.directory p fault), { world with files }, []⟩
      | (.ok (), files) => launchPlan harness plan requests { world with files }
    else launchPlan harness plan requests world

end Sweep
end BenchSweep
