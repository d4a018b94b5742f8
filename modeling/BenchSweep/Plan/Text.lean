/-
  A plan as a text, written and read.

  The text is TOML: the scalars of the plan first, then a section for the harness, one for the axes, and
  one for each experiment.  Every field is written, defaults too.  A path can be written when its bytes
  are a text.
-/
import BenchSweep.Plan.Shape
import BenchSweep.Plan.Validation
import BenchSweep.Toml.Document

namespace BenchSweep
namespace Plan

/-! ## Reading -/

/-- Why a text is no plan. -/
inductive TextFault where
  /-- The text is no TOML document. -/
  | notToml
  /-- The document is not of the shape of a plan. -/
  | shape (fault : Shape.Fault)
deriving DecidableEq, Repr

/-- What was tried, and after it what went wrong, if the document says so. -/
def TextFault.causes : TextFault → List String
  | .notToml => ["parse sweep plan"]
  | .shape fault => ["parse sweep plan", fault.message]

/-- All causes on one line. -/
def TextFault.message (fault : TextFault) : String := String.intercalate ": " fault.causes

/-- The plan that a text describes; it need not be valid. -/
def ofText (text : String) : Except TextFault Plan :=
  match Toml.Document.read? text.toList with
  | none => .error .notToml
  | some document => (ofDocument document).mapError .shape

/-! ## Writing -/

namespace Written

open Toml.Strings (write writeKey)

/-- `key = value` on a line. -/
def line (key : String) (value : List Char) : List Char :=
  writeKey key.toList ++ " = ".toList ++ value ++ ['\n']

/-- A word in decimal digits. -/
def word (n : UInt32) : List Char := Nat.toDigits 10 n.toNat

/-- A flag as it is written. -/
def flag (b : Bool) : List Char := if b then "true".toList else "false".toList

/-- Values between brackets, with a comma and a space between each two. -/
def array (items : List (List Char)) : List Char := '[' :: [',', ' '].intercalate items ++ [']']

/-- The header of a section, after an empty line. -/
def header (name : String) : List Char := '\n' :: name.toList ++ ['\n']

/-- The table of the settings, with every one of them. -/
def harness (h : HarnessSettings) : List Char :=
  header "[harness]" ++ line "command" (write h.command.toList)
    ++ line "action" (write h.action.toList) ++ line "iterations" (word h.iterations)
    ++ line "epoch_freq" (word h.epochFreq) ++ line "empty_freq" (word h.emptyFreq)
    ++ line "verbose" (flag h.verbose) ++ line "run_id_key" (write h.runIdKey.toList)

/-- The table of the axes, one line for each family. -/
def axes (t : Keyed Axis) : List Char :=
  header "[axes]" ++ t.entries.flatMap fun (family, axis) => line family (array (axis.levels.map word))

/-- The section of an experiment, if its path can be written. -/
def experiment (e : Experiment) : Option (List Char) :=
  e.output.text?.map fun output =>
    header "[[experiments]]" ++ line "name" (write e.name.toList)
      ++ line "family" (write e.family.toList) ++ line "selector" (word e.selector)
      ++ line "mode" (word e.mode) ++ line "count_retired" (flag e.countRetired)
      ++ line "output" (write output.toList)

/-- The part in front of all sections. -/
def scalars (plan : Plan) : List Char :=
  line "name" (write plan.name.toList) ++ line "repetitions" (word plan.repetitions)
    ++ line "subjects" (array (plan.subjects.names.map fun name => write name.toList))
    ++ if plan.experiments = [] then line "experiments" (array []) else []

end Written

/-- The text of a plan; none when a path is no text. -/
def toText? (plan : Plan) : Option String := do
  let experiments ← plan.experiments.mapM Written.experiment
  return String.ofList
    (Written.scalars plan ++ Written.harness plan.harness ++ Written.axes plan.axes ++ experiments.flatten)

/-- What is said of a plan that cannot be written. -/
def unwritableMessage : String := "serialize sweep plan: path contains invalid UTF-8 characters"

end Plan
end BenchSweep
