/-
  Which plans can be run.

  `Plan.validate` refuses a plan that would launch a malformed invocation, or two experiments that
  append to one file, before anything is launched.  It looks at the scalars first, then at the
  subjects, the axes in key order and the experiments in the order of the plan, and it reports the
  first thing that is wrong.
-/
import BenchSweep.Path.Normal
import BenchSweep.Plan.Basic

namespace BenchSweep
namespace Plan

/-- Why a plan cannot be run. -/
inductive Fault where
  | noRepetitions
  | noExperiments
  /-- The command has no character but blanks. -/
  | noCommand
  /-- The parameter name is empty, or the sign that ends it is part of it. -/
  | unusableRunIdKey (key : String)
  | subjects (fault : Subjects.Fault)
  | axis (family : String) (fault : Axis.Fault)
  | unknownFamily (experiment family : String)
  | noOutput (experiment : String)
  /-- The output is another spelling of the output of an earlier experiment. -/
  | sharedOutput (output : Path)
  /-- A request cannot name the axis of an experiment.  No valid plan comes to this. -/
  | noAxis (family : String)
deriving DecidableEq, Repr

/-- What is said about a fault in the plan of that name. -/
def Fault.message (plan : String) : Fault → String
  | .noRepetitions => s!"plan '{plan}': repetition count must be at least 1"
  | .noExperiments => s!"plan '{plan}': no experiments defined"
  | .noCommand => s!"plan '{plan}': harness command is empty"
  | .unusableRunIdKey key => s!"plan '{plan}': invalid run id key '{key}'"
  | .subjects fault => fault.message
  | .axis family fault => s!"plan '{plan}': axis '{family}': {fault.message}"
  | .unknownFamily experiment family =>
    s!"plan '{plan}': experiment '{experiment}' references unknown sweep axis family '{family}'"
  | .noOutput experiment => s!"plan '{plan}': experiment '{experiment}' has no output path"
  | .sharedOutput output =>
    s!"plan '{plan}': output '{output.display}' is shared by more than one experiment"
  | .noAxis family => s!"no sweep axis for family '{family}'"

/-- The harness has a command, and the parameter for the repetition has a name. -/
def validateHarness (harness : HarnessSettings) : Except Fault Unit :=
  if harness.command.toList.all Text.isBlank then .error .noCommand
  else if harness.runIdKey.isEmpty || harness.runIdKey.toList.contains '=' then
    .error (.unusableRunIdKey harness.runIdKey)
  else .ok ()

/-- An axis of the plan is usable; no experiment need use it. -/
def validateAxis (entry : String × Axis) : Except Fault Unit :=
  entry.2.validate.mapError (.axis entry.1)

/-- An experiment has an axis and an output that is not `taken`. -/
def validateExperiment (axes : Keyed Axis) (taken : List Path) (experiment : Experiment) :
    Except Fault Unit :=
  if !axes.contains experiment.family then
    .error (.unknownFamily experiment.name experiment.family)
  else if experiment.output.isEmpty then .error (.noOutput experiment.name)
  else if experiment.output.normalise ∈ taken then .error (.sharedOutput experiment.output)
  else .ok ()

/-- Every experiment is valid when the outputs of those before it, and those in `taken`, are taken. -/
def validateExperiments (axes : Keyed Axis) (taken : List Path) :
    List Experiment → Except Fault Unit
  | [] => .ok ()
  | experiment :: rest => do
    validateExperiment axes taken experiment
    validateExperiments axes (experiment.output.normalise :: taken) rest

/-- The plan can be run; the first fault is reported if it cannot. -/
def validate (plan : Plan) : Except Fault Unit := do
  if plan.repetitions = 0 then throw .noRepetitions
  if plan.experiments.isEmpty then throw .noExperiments
  validateHarness plan.harness
  plan.subjects.validate.mapError .subjects
  plan.axes.entries.forM validateAxis
  validateExperiments plan.axes [] plan.experiments

end Plan
end BenchSweep
