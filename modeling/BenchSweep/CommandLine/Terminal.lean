/-
  What the program shows besides its output, and which files it has to do with.

  An error is shown as what was tried, with what went wrong below it; a command line that cannot be read is
  shown in one line.  `planWanted`, `executablesWanted` and `outputsWanted` say which files must be at hand
  before a run, and `written` says what is to be kept after it.
-/
import BenchSweep.CommandLine.Run

namespace BenchSweep.CommandLine

/-! ## Messages -/

/-- A number that ends in the fifth column. -/
def numberColumn (n : Nat) : String :=
  let digits := toString n
  String.ofList (List.replicate (5 - digits.length) ' ') ++ digits

/-- The lines below what was tried: what went wrong, numbered when there are several of them. -/
def causeLines : List String → List String
  | [] => []
  | [cause] => ["", "Caused by:", "    " ++ cause]
  | causes => ["", "Caused by:"] ++ causes.mapIdx fun i cause => numberColumn i ++ ": " ++ cause

/-- The lines in which an ending is shown. -/
def Ending.lines : Ending → List String
  | .success => []
  | .failure [] => []
  | .failure (message :: causes) => ("Error: " ++ message) :: causeLines causes
  | .usage fault => ["error: " ++ fault.message]

/-- The lines for the one who called the program: the log, and how the program ended. -/
def messages (environment : List (String × List UInt8)) (result : Result) : List String :=
  (shownLog environment result).map (fun event => s!"{event.level.text} {event.text}") ++
    result.ending.lines

/-! ## Files -/

/-- The plan file that a run reads, if it reads one. -/
def planWanted : Task → Option Path
  | .run options => options.config
  | _ => none

/-- The places at which the program of a plan may stand. -/
def programPlaces (locator : Locator) (plan : Plan) : List Path :=
  let program := Path.ofString plan.harness.command
  if program.bytes.contains Path.slash then [program] else locator.directories.map (·.append program)

/-- The plans for which a run launches something, with the plan file in its place. -/
def launchedPlans (setting : Setting) (options : Options) : List Plan :=
  if options.dryRun then [] else ((namedPlans setting.files options).toOption).getD []

/-- The executables that a run may launch. -/
def executablesWanted (setting : Setting) : Task → List Path
  | .run options =>
    (launchedPlans setting options).flatMap (programPlaces (locatorOf setting options))
  | _ => []

/-- The files to which a run appends. -/
def outputsWanted (setting : Setting) : Task → List Path
  | .run options =>
    (launchedPlans setting options).flatMap fun plan => plan.experiments.map Experiment.output
  | _ => []

/-- The file of the summary, if one is written. -/
def summaryWanted : Task → Option Path
  | .run options => options.summary
  | _ => none

/-- What a run leaves to be kept: the summary, wherever it stands, and what is new or changed below the
    working directory, a directory in front of what it holds. -/
def written (task : Task) (before after : Files) : List (Path × Node) :=
  let changed := after.listing.filter fun (p, node) =>
    match node, before.nodeOf? p with
    | .file content _, some (.file old _) => content != old
    | .directory _, some (.directory _) => false
    | _, _ => true
  let summary := (summaryWanted task).toList.filterMap fun p => (after.nodeOf? p).map (p, ·)
  changed.filter (fun (p, _) => summaryWanted task != some p) ++ summary

end BenchSweep.CommandLine
