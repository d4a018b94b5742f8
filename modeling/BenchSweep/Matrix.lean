/-
  The built-in matrices.

  `general` covers the hash map and the linked list under write-heavy and read-heavy mixes, `crturn`
  the CRTurn queue on a shorter axis.  Both compare the same trackers and repeat five times.
-/
import BenchSweep.Plan.Basic

namespace BenchSweep

/-- A plan that is built in. -/
inductive Matrix where
  | general
  | crturn
deriving DecidableEq, Repr

namespace Matrix

/-- The name by which a plan is asked for. -/
def name : Matrix → String
  | .general => "general"
  | .crturn => "crturn"

/-- Every matrix, in the order in which they run. -/
def all : List Matrix := [.general, .crturn]

/-- A name that no matrix bears, in lower case. -/
structure Unknown where
  name : String
deriving DecidableEq, Repr

/-- What is said of a name that no plan has. -/
def Unknown.message (unknown : Unknown) : String :=
  s!"unknown matrix '{unknown.name}' (expected general or crturn)"

/-- The matrix of a name, in which the case of ASCII letters does not count. -/
def ofName (text : String) : Except Unknown Matrix :=
  let name := String.ofList (text.toList.map Char.toLower)
  if name = "general" then .ok .general
  else if name = "crturn" ∨ name = "queue" then .ok .crturn
  else .error ⟨name⟩

/-- The trackers that every matrix compares. -/
def trackers : Subjects :=
  ⟨["NIL", "RCU", "Range_new", "HE", "Hazard", "HR", "WFE", "WFR", "HyalineOEL", "HyalineOSEL"]⟩

/-- The file for the rows of an experiment. -/
def output (stem : String) : Path := .ofString s!"data/final/{stem}.csv"

/-- The axis with a level for one thread and for every `step` threads up to `last`. -/
def axis (step last : UInt32) : Axis :=
  match Axis.stepped 1 step last with
  | .ok axis => axis
  | .error _ => ⟨[1]⟩

/-- Each mix, without and with a count of retired objects, on the hash map and on the list. -/
def generalExperiments : List Experiment :=
  [((3 : UInt32), ""), (2, "_read")].flatMap fun (mode, suffix) =>
    [(false, ""), (true, "_retired")].flatMap fun (countRetired, tag) =>
      [("hashmap", (1 : UInt32)), ("list", 2)].map fun (name, selector) =>
        { name, family := "general", selector, mode, countRetired,
          output := output s!"{name}_result{tag}{suffix}" }

/-- The write-heavy mix on the queue, without and with a count of retired objects. -/
def crturnExperiments : List Experiment :=
  [(false, "crturn_result"), (true, "crturn_result_retired")].map fun (countRetired, stem) =>
    { name := "crturn-queue", family := "queue", selector := 11, mode := 3, countRetired,
      output := output stem }

/-- The plan of a matrix. -/
def plan : Matrix → Plan
  | .general =>
    { name := "general", repetitions := 5, subjects := trackers,
      axes := .ofList [("general", axis 12 192)], experiments := generalExperiments }
  | .crturn =>
    { name := "crturn", repetitions := 5, subjects := trackers,
      axes := .ofList [("queue", axis 16 96)], experiments := crturnExperiments }

end Matrix
end BenchSweep
