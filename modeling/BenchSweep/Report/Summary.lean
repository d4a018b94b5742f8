/-
  Reports as JSON.

  The summary of some reports is an array with an object for each; an outcome's status stands among its
  own fields, with a code only when the invocation failed.  A path is written when its bytes are a text.
-/
import BenchSweep.Json
import BenchSweep.Number.Shortest
import BenchSweep.Report.Basic

namespace BenchSweep

/-- The fields of a status. -/
def Status.fields : Status → List (String × Json.Value)
  | .succeeded => [("status", .string "succeeded")]
  | .failed code =>
    [("status", .string "failed"),
      ("code", match code with
        | some code => .integer code
        | none => .null)]

/-- The status as an object of its own. -/
def Status.toJson (status : Status) : String := String.ofList (Json.compact (.object status.fields))

/-- A time span; JSON has no number for one that is not finite. -/
def Binary64.toJson (x : Binary64) : Json.Value :=
  match x.scientific with
  | some text => .decimal text
  | none => .null

/-- An outcome as an object; none when its path is no text. -/
def Outcome.toJson? (outcome : Outcome) : Option Json.Value :=
  outcome.output.text?.map fun output => .object
    ([("repetition", .integer outcome.repetition.toNat), ("experiment", .string outcome.experiment),
        ("output", .string output)]
      ++ outcome.status.fields ++ [("elapsed_secs", outcome.elapsed.toJson)])

namespace Report

/-- A report as an object; none when a path in it is no text. -/
def toJson? (report : Report) : Option Json.Value := do
  let outcomes ← report.outcomes.mapM Outcome.toJson?
  return .object
    [("plan", .string report.plan), ("started_at", .string report.startedAt.text),
      ("finished_at", match report.finishedAt with
        | some moment => .string moment.text
        | none => .null),
      ("outcomes", .array outcomes)]

/-- The summary of some reports; none when a path in one of them is no text. -/
def summary? (reports : List Report) : Option String := do
  let reports ← reports.mapM toJson?
  return String.ofList (Json.pretty 0 (.array reports))

/-- What was tried, and what went wrong, when there is no summary. -/
def unwritableCauses : List String :=
  ["serialize sweep reports", "path contains invalid UTF-8 characters"]

end Report
end BenchSweep
