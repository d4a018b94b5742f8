/-
  The program that lists directories.

  Part of the stand-in for the machine (`Machine/System`).
-/
import BenchSweep.Machine.Shell.Utility.Tree

namespace BenchSweep.Machine.Shell.Utility

/-- How a name is shown, with a mark for what it names. -/
def markedName (a : Arguments) (name : Bytes) (node : Node) : Bytes :=
  match node with
  | .directory _ => if a.has 'F' ∨ a.has 'p' then name ++ [Path.slash] else name
  | .file _ executable => if a.has 'F' ∧ executable then name ++ [0x2A] else name

/-- A line with the mode, the owner, the size and the name of a node. -/
def longLine (a : Arguments) (name : Bytes) (node : Node) : Bytes :=
  let (mode, size) := match node with
    | .directory _ => ("drwxr-xr-x 2", 4096)
    | .file content true => ("-rwxr-xr-x 1", content.length)
    | .file content false => ("-rw-r--r-- 1", content.length)
  bytesOf (mode ++ " root root " ++ toString size ++ " Jan  1 00:00 ") ++ markedName a name node

/-- The size that is listed. -/
def sizeOfNode : Node → Nat
  | .file content _ => content.length
  | .directory _ => 4096

/-- Lines for some names. -/
def listLines (a : Arguments) (total : Bool) (names : List (Bytes × Node)) : Bytes :=
  let names := names.mergeSort fun x y =>
    if a.has 'S' ∧ sizeOfNode x.2 ≠ sizeOfNode y.2 then sizeOfNode y.2 < sizeOfNode x.2 else !precedes y.1 x.1
  let names := if a.has 'r' then names.reverse else names
  if a.has 'l' then
    (if total then bytesOf "total 0\n" else []) ++ unlines (names.map fun (n, node) => longLine a n node)
  else if a.has 'm' then
    if names.isEmpty then [] else joinWith (bytesOf ", ") (names.map fun (n, node) => markedName a n node) ++ [0x0A]
  else unlines (names.map fun (n, node) => markedName a n node)

/-- The names in a directory that are shown. -/
def listedNames (a : Arguments) (entries : List (Name × Node)) : List (Bytes × Node) :=
  let dots := if a.has 'a' then [([Path.dot], Node.directory []), ([Path.dot, Path.dot], .directory [])] else []
  dots ++ entries.filter fun e => a.has 'a' || a.has 'A' || e.1.head? ≠ some Path.dot

/-- The directories below one, with their paths and entries, in order. -/
def directoriesBelow : Nat → Bytes → List (Name × Node) → List (Bytes × List (Name × Node))
  | 0, _, _ => []
  | fuel + 1, path, entries =>
    let sorted := entries.mergeSort fun x y => !precedes y.1 x.1
    (path, entries) :: sorted.flatMap fun (n, node) =>
      match node with
      | .directory inner => directoriesBelow fuel (inside path n) inner
      | .file _ _ => []

/-- Lists files and the entries of directories. -/
def ls : Program :=
  withOptions "ls" (spec "1aAdFprRmltShnoguCicsxNUkQH" "wIT" [("all", 'a'), ("almost-all", 'A'), ("directory", 'd'),
      ("recursive", 'R'), ("reverse", 'r'), ("classify", 'F'), ("color", 'N')]) 2 fun a s =>
    let operands := if a.operands.isEmpty then [[Path.dot]] else a.operands
    let (found, s) := operands.foldl (fun (found, s) w =>
      match s.files.find ⟨w⟩ with
      | .ok place => (found ++ [(w, place.node)], s)
      | .error fault => (found, fail "ls" 2 (bytesOf "cannot access " ++ shown w ++ because fault) s))
      (([] : List (Bytes × Node)), s)
    let plain := found.filter fun (_, node) => a.has 'd' || !node.isDirectory
    let directories := (found.filter fun (_, node) => !a.has 'd' && node.isDirectory).mergeSort fun x y =>
      !precedes y.1 x.1
    let opened := directories.flatMap fun (w, node) =>
      match node with
      | .directory entries => if a.has 'R' then directoriesBelow 100 w entries else [(w, entries)]
      | .file _ _ => []
    let titled := 1 < operands.length || a.has 'R'
    let first := listLines a false plain
    let blocks := opened.map fun (w, entries) =>
      (if titled then w ++ bytesOf ":\n" else []) ++ listLines a true (listedNames a entries)
    s.print (joinWith [0x0A] ((if first.isEmpty then [] else [first]) ++ blocks))

end BenchSweep.Machine.Shell.Utility
