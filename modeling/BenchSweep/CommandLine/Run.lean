/-
  Carrying out a command line.

  A run selects its plans, checks all of them, and sweeps them one after the other, with one harness.  A
  plan that is not valid, a directory that cannot be made or a request that cannot be launched ends the run
  with an error; invocations that fail do not.  The summary is written at the end of a run that came to its
  end.
-/
import BenchSweep.CommandLine.Help
import BenchSweep.Harness.DryRun
import BenchSweep.Harness.Launch
import BenchSweep.Log.Filter
import BenchSweep.Plan.File
import BenchSweep.Report.Summary
import BenchSweep.Sweep.Basic

namespace BenchSweep.CommandLine

/-! ## The plans -/

/-- Why a run did not come to its end. -/
inductive RunFault (ε : Type) where
  | file (fault : Plan.FileFault)
  | invalid (plan : String) (fault : Plan.Fault)
  | sweep (plan : String) (fault : Sweep.Fault ε)
  /-- A path of the summary is no text. -/
  | summaryText
  | summaryFile (p : Path) (fault : Files.Fault)

/-- What was tried, and after it what went wrong. -/
def RunFault.causes {ε : Type} (causes : ε → List String) : RunFault ε → List String
  | .file fault => fault.causes
  | .invalid plan fault => [fault.message plan]
  | .sweep plan fault => fault.causes causes plan
  | .summaryText => Report.unwritableCauses
  | .summaryFile p fault => [s!"write summary {p.display}", fault.message]

/-- The plans that the options name, as they are. -/
def namedPlans (files : Files) (options : Options) : Except Plan.FileFault (List Plan) :=
  match options.config with
  | some p => (Plan.read files p).map ([·])
  | none => .ok ((if options.matrices.isEmpty then Matrix.all else options.matrices).map Matrix.plan)

/-- The plans with the number of repetitions that is asked for, if one is. -/
def overridden (repetitions : Option UInt32) (plans : List Plan) : List Plan :=
  match repetitions with
  | some n => plans.map (·.withRepetitions n)
  | none => plans

/-- All plans are valid; the first one that is not is reported. -/
def validateAll {ε : Type} (plans : List Plan) : Except (RunFault ε) Unit :=
  plans.forM fun plan => plan.validate.mapError (.invalid plan.name)

/-- The plans of a run. -/
def selectPlans {ε : Type} (files : Files) (options : Options) : Except (RunFault ε) (List Plan) := do
  let plans ← (namedPlans files options).mapError .file
  let plans := overridden options.repetitions plans
  validateAll plans
  return plans

/-! ## The sweeps -/

/-- Sweeps the plans one after the other, up to the first sweep that does not come to its end. -/
def sweepAll {σ ε : Type} (harness : Harness σ ε) (makeDirectories : Bool) :
    List Plan → World σ → Sweep.Run σ (RunFault ε) (List Report)
  | [], world => ⟨.ok [], world, []⟩
  | plan :: rest, world =>
    let first := Sweep.run harness makeDirectories plan world
    match first.result with
    | .error fault => ⟨.error (.sweep plan.name fault), first.world, first.log⟩
    | .ok report =>
      let others := sweepAll harness makeDirectories rest first.world
      ⟨others.result.map (report :: ·), others.world, first.log ++ others.log⟩

/-- The part of the program that reads the command line, as the log names it. -/
def logTarget : String := "parsweep"

/-- The lines on the sweeps in which invocations failed. -/
def failureEvents (reports : List Report) : List Log.Event :=
  (reports.filter (0 < ·.failureCount)).map fun report =>
    { level := .warn, target := logTarget
      message := s!"{report.plan}: {report.failureCount} of {report.total} invocations failed; " ++
        "their output files will be sparser" }

/-- Writes the summary, if one is asked for. -/
def writeSummary {ε : Type} (files : Files) (summary : Option Path) (reports : List Report) :
    Except (RunFault ε) Files :=
  match summary with
  | none => .ok files
  | some p =>
    match Report.summary? reports with
    | none => .error .summaryText
    | some text => (files.write p (.replace (Text.Utf8.encode text.toList))).mapError (.summaryFile p)

/-- Sweeps the plans and writes the summary. -/
def runPlans {σ ε : Type} (harness : Harness σ ε) (makeDirectories : Bool) (summary : Option Path)
    (plans : List Plan) (world : World σ) : Sweep.Run σ (RunFault ε) Unit :=
  let swept := sweepAll harness makeDirectories plans world
  match swept.result with
  | .error fault => ⟨.error fault, swept.world, swept.log⟩
  | .ok reports =>
    let log := swept.log ++ failureEvents reports
    match writeSummary swept.world.files summary reports with
    | .error fault => ⟨.error fault, swept.world, log⟩
    | .ok files => ⟨.ok (), { swept.world with files }, log⟩

/-- Selects the plans of a run and carries it out. -/
def runOptions {σ ε : Type} (harness : Harness σ ε) (makeDirectories : Bool) (opening : List Log.Event)
    (options : Options) (world : World σ) : Sweep.Run σ (RunFault ε) Unit :=
  match selectPlans world.files options with
  | .error fault => ⟨.error fault, world, []⟩
  | .ok plans =>
    let run := runPlans harness makeDirectories options.summary plans world
    { run with log := opening ++ run.log }

/-! ## The program -/

/-- What the program finds when it starts. -/
structure Setting where
  files : Files
  clock : Moment
  environment : List (String × List UInt8)
  /-- The directory around which the harness is looked for, when no other is given. -/
  baseDir : Path

/-- How the program ends. -/
inductive Ending where
  | success
  /-- An error, as what was tried and after it what went wrong. -/
  | failure (causes : List String)
  | usage (fault : Fault)

/-- The number with which the program ends. -/
def Ending.exitCode : Ending → Nat
  | .success => 0
  | .failure _ => 1
  | .usage _ => 2

/-- What the program leaves when it ends. -/
structure Result where
  ending : Ending
  output : List UInt8
  files : Files
  clock : Moment
  /-- All lines of the log, also those that the filter leaves out. -/
  log : List Log.Event

/-- The result of a run, with what was put out. -/
def Result.ofRun {σ ε : Type} (causes : ε → List String) (output : σ → List UInt8)
    (run : Sweep.Run σ (RunFault ε) Unit) : Result :=
  { ending := match run.result with
      | .ok () => .success
      | .error fault => .failure (fault.causes causes)
    output := output run.world.state, files := run.world.files, clock := run.world.clock, log := run.log }

/-- Sweeps with the harness that only shows requests. -/
def runDry (setting : Setting) (options : Options) : Result :=
  let world : World Harness.DryRun.Writer :=
    { files := setting.files, clock := setting.clock, state := ⟨[], none⟩ }
  .ofRun Harness.DryRun.Fault.causes Harness.DryRun.Writer.written
    (runOptions Harness.dryRun false [] options world)

/-- The directory around which a run looks for the harness. -/
def rootOf (setting : Setting) (options : Options) : Path := options.baseDir.getD setting.baseDir

/-- Where a run looks for the harness. -/
def locatorOf (setting : Setting) (options : Options) : Locator :=
  .ofScriptsDirectory (rootOf setting options) (setting.environment.lookup "PATH")

/-- Sweeps with the harness that launches programs. -/
def runLaunching [System] (setting : Setting) (options : Options) : Result :=
  let world : World Harness.Launch.Host :=
    { files := setting.files, clock := setting.clock, state := ⟨setting.environment, []⟩ }
  let root := rootOf setting options
  let opening : Log.Event :=
    { level := .info, target := logTarget, message := s!"harness search root: {root.display}" }
  .ofRun Harness.Launch.Fault.causes Harness.Launch.Host.output
    (runOptions (Harness.launch (locatorOf setting options)) true [opening] options world)

/-- The version of the program. -/
def versionText : String := "parsweep 0.1.0\n"

/-- Carries out what a command line asks for. -/
def perform [System] (setting : Setting) (task : Task) : Result :=
  let ended (ending : Ending) (output : String) : Result :=
    { ending, output := Text.Utf8.encode output.toList, files := setting.files, clock := setting.clock
      log := [] }
  match task with
  | .run options => if options.dryRun then runDry setting options else runLaunching setting options
  | .showPlan matrix =>
    match matrix.plan.toText? with
    | some text => ended .success text
    | none => ended (.failure [Plan.unwritableMessage]) ""
  | .version => ended .success versionText
  | .help topic => ended .success topic.helpText

/-- The program: from its words and what it finds to what it leaves. -/
def program [System] (setting : Setting) (words : List String) : Result :=
  match read words with
  | .ok task => perform setting task
  | .error fault =>
    { ending := .usage fault, output := [], files := setting.files, clock := setting.clock, log := [] }

/-- The filter for the log that the environment asks for. -/
def logFilter (environment : List (String × List UInt8)) : List Log.Directive :=
  let text (name : String) : Option String :=
    ((environment.lookup name).bind Text.Utf8.decode?).map String.ofList
  Log.filterOf (text "PARSWEEP_LOG") (text "RUST_LOG")

/-- The lines of the log that are let through. -/
def shownLog (environment : List (String × List UInt8)) (result : Result) : List Log.Event :=
  result.log.filter (Log.passes (logFilter environment))

end BenchSweep.CommandLine
