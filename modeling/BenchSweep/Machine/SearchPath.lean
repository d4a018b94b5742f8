/-
  Programs that are looked for.

  A bare name is looked for in the entries of a search path; an entry that is empty is the working directory.
  A file that is missing is passed over, and so is one that may not be executed; the latter is reported if
  there is no other.

  Part of the stand-in for the machine (`Machine/System`).
-/
import BenchSweep.Harness.Locator
import BenchSweep.Machine.Executable

namespace BenchSweep.Machine

/-- The path of a name in an entry of a search path. -/
def inEntry (name : Path) (entry : Path) : Path :=
  if entry.isEmpty then name else ⟨entry.bytes ++ Path.slash :: name.bytes⟩

/-- The directories that the entries of a search path stand for.  An entry that is longer than any path
    stands for the working directory, and for nothing at the end. -/
def searched (entries : List Path) : List Path :=
  let isOverlong (entry : Path) : Bool := Files.maxPathSize ≤ entry.bytes.length
  let kept := if (entries.getLast?.map isOverlong).getD false then entries.dropLast else entries
  kept.map fun entry => if isOverlong entry then ⟨[]⟩ else entry

/-- The paths that a bare name may stand for. -/
def candidates (searchPath : List UInt8) (name : Path) : List Path :=
  (searched (Locator.splitPath searchPath)).map (inEntry name)

/-- The first of some paths with which something succeeds, or what is reported; `held` is that if there is
    no path. -/
def firstOf {α : Type} (attempt : Path → Except Refusal α) : List Path → (held : Refusal) → Except Refusal α
  | [], held => .error held
  | p :: rest, held =>
    match attempt p with
    | .ok found => .ok found
    | .error refusal =>
      if refusal.isMissing then firstOf attempt rest (if held.isMissing then refusal else held)
      else if refusal = .file .permissionDenied then firstOf attempt rest refusal
      else .error refusal

/-- What it comes to when a bare name is started.  The shell reads what is no image. -/
def startNamed (files : Files) (environment : Environment) (searchPath : List UInt8) (name : Path)
    (words : List (List UInt8)) : Except Refusal Started :=
  if name.isEmpty then .error (.file .notFound)
  else firstOf (startOrRead files environment words) (candidates searchPath name) (.file .notFound)

/-- What it comes to when a program runs another one, by a path or by a bare name. -/
def call (files : Files) (environment : Environment) (searchPath : List UInt8) (words : List (List UInt8)) :
    Except Refusal Started :=
  let program : Path := ⟨words.headD []⟩
  if program.bytes.contains Path.slash then startOrRead files environment words program
  else startNamed files environment searchPath program words

end BenchSweep.Machine
