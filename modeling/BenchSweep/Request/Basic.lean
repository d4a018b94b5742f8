/-
  Requests: what the harness is asked to do for one repetition of one experiment.

  The argument list is an action and then flags; a flag is a word of its own, and its value, if it has
  one, is the word after it.  `Plan.requests` lists the requests of a valid plan in the order of the
  sweep: all experiments of the first repetition, then all of the second, and so on.
-/
import BenchSweep.Plan.Validation

namespace BenchSweep

/-- One invocation of the harness. -/
structure Request where
  repetition : UInt32
  /-- The place of the experiment in the plan. -/
  kindIndex : Nat
  /-- The name of the experiment. -/
  experiment : String
  /-- The executable, as it is looked up. -/
  program : String
  arguments : List String
  /-- The file to which the rows are appended. -/
  output : Path
deriving DecidableEq, Repr, Inhabited

namespace Request

/-- The arguments for one repetition of an experiment that scans `axis`. -/
def argumentsFor (plan : Plan) (repetition : UInt32) (experiment : Experiment) (axis : Axis) :
    List String :=
  let h := plan.harness
  [h.action, "-i", toString h.iterations.toNat, s!"-depochf={h.epochFreq.toNat}",
      s!"-demptyf={h.emptyFreq.toNat}", "-m", toString experiment.mode.toNat]
    ++ (if h.verbose then ["-v"] else [])
    ++ (if experiment.countRetired then ["-c"] else [])
    ++ ["-r", toString experiment.selector.toNat, s!"-d{h.runIdKey}={repetition.toNat}",
      "--meta", axis.metaText, "--meta", plan.subjects.metaText, "-o", experiment.output.display]

/-- The request for one repetition of an experiment; none when the plan has no axis for it. -/
def build (plan : Plan) (repetition : UInt32) (kindIndex : Nat) (experiment : Experiment) :
    Option Request :=
  (plan.axisFor experiment).map fun axis =>
    { repetition, kindIndex, experiment := experiment.name, program := plan.harness.command,
      arguments := argumentsFor plan repetition experiment axis, output := experiment.output }

/-- The argument after the first one that is `flag`. -/
def flagValue (request : Request) (flag : String) : Option String :=
  (request.arguments.dropWhile (· ≠ flag)).tail.head?

/-- Each argument that stands after one that is `--meta`. -/
def metaArguments (request : Request) : List String :=
  (request.arguments.zip request.arguments.tail).filterMap fun pair =>
    if pair.1 = "--meta" then some pair.2 else none

end Request

namespace Plan

/-- The requests of one repetition, in the order of the plan. -/
def requestsOf (plan : Plan) (repetition : UInt32) : Except Fault (List Request) :=
  plan.experiments.zipIdx.mapM fun (experiment, k) =>
    match Request.build plan repetition k experiment with
    | some request => .ok request
    | none => .error (.noAxis experiment.family)

/-- All requests of a valid plan, in the order of the sweep. -/
def requests (plan : Plan) : Except Fault (List Request) := do
  plan.validate
  let rounds ← (List.range plan.repetitions.toNat).mapM fun r => plan.requestsOf (UInt32.ofNat r)
  return rounds.flatten

end Plan
end BenchSweep
