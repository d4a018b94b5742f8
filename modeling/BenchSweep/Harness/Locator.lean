/-
  Where the executable of the harness is looked for.

  The search directories come first, in the order given, and then the entries of the search path that the
  program has inherited.  `searchPath` writes them all as one search path, which is possible when no
  directory holds the separator; `resolve` finds a command in the search directories alone.
-/
import BenchSweep.Path.Basic

namespace BenchSweep

/-- Search directories and the inherited search path. -/
structure Locator where
  searchDirectories : List Path
  inherited : Option (List UInt8)
deriving DecidableEq, Repr, Inhabited

namespace Locator

/-- The separator of a search path, `:`. -/
def colon : UInt8 := 0x3A

/-- The entries of a search path. -/
def splitPath (bytes : List UInt8) : List Path := (List.splitOn colon bytes).map Path.mk

/-- The directories around the `scripts` directory of a checkout: `bin` three levels above it, the one
    above it, and itself. -/
def ofScriptsDirectory (scripts : Path) (inherited : Option (List UInt8)) : Locator :=
  { searchDirectories :=
      [scripts.append (.ofString "../../../bin"), scripts.append (.ofString ".."), scripts]
    inherited }

/-- A directory that no search path can hold. -/
inductive Fault where
  | separatorInside
deriving DecidableEq, Repr

/-- What went wrong, and what brought it about. -/
def Fault.causes : Fault → List String
  | .separatorInside =>
    ["harness search directory contains a path separator", "path segment contains separator `:`"]

/-- All directories in the order in which they are searched. -/
def directories (locator : Locator) : List Path :=
  locator.searchDirectories ++
    match locator.inherited with
    | some bytes => splitPath bytes
    | none => []

/-- The search path with which the harness runs. -/
def searchPath (locator : Locator) : Except Fault (List UInt8) :=
  let directories := locator.directories.map Path.bytes
  if directories.any (·.contains colon) then .error .separatorInside
  else .ok (List.intercalate [colon] directories)

/-- The executable of a command: a command of several components is a path already; any other is the file
    of that name in the first search directory that has one, and stays as it is when none has. -/
def resolve (locator : Locator) (isFile : Path → Bool) (command : String) : Path :=
  let bare := Path.ofString command
  if 1 < bare.components.length then bare
  else
    match (locator.searchDirectories.map (·.append bare)).find? isFile with
    | some found => found
    | none => bare

end Locator
end BenchSweep
