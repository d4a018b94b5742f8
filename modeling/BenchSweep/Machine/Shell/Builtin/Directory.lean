/-
  Commands for the working directory.

  A relative path may be looked for in other directories than the working directory; then the place is
  shown.

  Part of the stand-in for the machine (`Machine/System`).
-/
import BenchSweep.Machine.Shell.Builtin.Basic

namespace BenchSweep.Machine.Shell.Builtin

/-- The path of the working directory. -/
def currentPath (s : Session) : Bytes := Path.slash :: List.intercalate [Path.slash] s.files.workingDirectory.reverse

/-- The location to which a path leads by its names alone: `..` goes back one name, whatever is there. -/
def locationOf (s : Session) (target : Bytes) : Location :=
  let start := if target.head? = some Path.slash then [] else s.files.workingDirectory
  (List.splitOn Path.slash target).foldl (fun location piece =>
    if piece = [] ∨ piece = [Path.dot] then location
    else if piece = [Path.dot, Path.dot] then location.tail
    else piece :: location) start

/-- Makes a directory the working directory, if it is one.  It is found by the names in its path or, where
    `physical`, by going from one directory to the next. -/
def enter? (s : Session) (physical : Bool) (target : Bytes) : Option Session :=
  let place := if physical then s.files.find ⟨target⟩ else s.files.place (locationOf s target)
  match place with
  | .ok ⟨location, .directory _⟩ =>
    let before := currentPath s
    let s := { s with files := { s.files with workingDirectory := location } }
    let s := { s with found := s.found.map fun (f : Found) => { f with stale := true } }
    let s := s.exportAs "OLDPWD" (some before)
    some (s.exportAs "PWD" (some (currentPath s)))
  | _ => none

/-- Where a relative path is looked for: in the directories of the variable for that, and where it leads by
    itself; whether the place is to be shown. -/
def candidates (s : Session) (target : Bytes) : List (Bytes × Bool) :=
  let first := (target.takeWhile (· ≠ Path.slash))
  if target.head? = some Path.slash ∨ first = [Path.dot] ∨ first = [Path.dot, Path.dot] then
    [(target, false)]
  else
    let entries := match s.valueOf? "CDPATH" with
      | none | some [] => []
      | some value => List.splitOn 0x3A value
    entries.map (fun e => if e.isEmpty then (target, false) else (e ++ Path.slash :: target, true)) ++
      [(target, false)]

/-- Changes the working directory. -/
def cd (words : List Bytes) : Act Unit := do
  let (letters, operands) ← options "cd" "LP" words
  let s ← get
  let (target, back) := match operands with
    | [] => ((s.valueOf? "HOME").getD [], false)
    | word :: _ => if hasBytes word "-" then ((s.valueOf? "OLDPWD").getD [], true) else (word, false)
  let target := if target.isEmpty then [Path.dot] else target
  let isPhysical := letters.getLast? = some 'P'
  match (candidates s target).findSome? fun (path, shown) => (enter? s isPhysical path).map (·, shown) with
  | some (after, shown) =>
    set after
    if shown || back then emit "cd" (currentPath after ++ [0x0A]) 0 else leave 0
  | none => refuse "cd" (bytesOf "can't cd to " ++ target)

/-- Writes the working directory. -/
def pwd (words : List Bytes) : Act Unit := do
  let _ ← options "pwd" "LP" words
  emit "pwd" (currentPath (← get) ++ [0x0A]) 0

end BenchSweep.Machine.Shell.Builtin
