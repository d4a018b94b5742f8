/-
  Subjects: the reclamation strategies ("trackers") that one invocation compares.

  The harness takes them as one word in which colons divide the names, so a usable name has neither a
  colon nor a blank, and is not empty.
-/
import BenchSweep.Text.Blank

namespace BenchSweep

/-- Names of trackers in the order in which they are compared. -/
structure Subjects where
  /-- The names. -/
  names : List String
deriving DecidableEq, Repr, Inhabited

namespace Subjects

/-- What can be wrong with a list of subjects. -/
inductive Fault where
  /-- There is no name. -/
  | noSubjects
  /-- One of the names is empty. -/
  | emptyName
  /-- A name has a character that its text for the harness cannot hold. -/
  | unusableName (name : String)
deriving DecidableEq, Repr

/-- What is said of a fault. -/
def Fault.message : Fault → String
  | .noSubjects => "subject list is empty"
  | .emptyName => "subject list contains an empty tracker name"
  | .unusableName name => s!"tracker name '{name}' may not contain ':' or whitespace"

/-- A name may be used when it is not empty and has neither a colon nor a blank. -/
def validateName (name : String) : Except Fault Unit :=
  if name.isEmpty then .error .emptyName
  else if name.toList.any (fun c => c == ':' || Text.isBlank c) then .error (.unusableName name)
  else .ok ()

/-- There are names, and each may be used; the first that may not is reported. -/
def validate (subjects : Subjects) : Except Fault Unit :=
  if subjects.names.isEmpty then .error .noSubjects
  else subjects.names.forM validateName

/-- The subjects with these names, if they are usable. -/
def ofNames (names : List String) : Except Fault Subjects := do
  let subjects : Subjects := ⟨names⟩
  subjects.validate
  return subjects

/-- The text under which the harness takes the subjects: `d:tracker=NIL:tracker=RCU`. -/
def metaText (subjects : Subjects) : String :=
  subjects.names.foldl (fun text name => text ++ ":tracker=" ++ name) "d"

example : (⟨["NIL", "RCU"]⟩ : Subjects).metaText = "d:tracker=NIL:tracker=RCU" := by decide

end Subjects
end BenchSweep
