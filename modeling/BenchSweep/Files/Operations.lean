/-
  Reading, writing and making directories.

  An operation either changes one location or refuses and changes nothing.  `makeDirectories` makes a
  directory and all those above it that are missing, from the top down; when it is refused in the middle,
  what it has made so far stays.
-/
import BenchSweep.Files.Tree

namespace BenchSweep
namespace Files

/-- The content of a file. -/
def read (files : Files) (p : Path) : Except Fault (List UInt8) := do
  match (← files.find p).node with
  | .file content _ => return content
  | .directory _ => throw .isDirectory

/-- The text of a file. -/
def readText (files : Files) (p : Path) : Except Fault String := do
  match Text.Utf8.decode? (← files.read p) with
  | some text => return String.ofList text
  | none => throw .notText

/-- A path that is to be made: where its directory is, its last piece, and whether a separator follows. -/
structure Destination where
  parent : Location
  last : Name
  trailing : Bool

/-- The directory and the last piece of a path; the root has no last piece. -/
def destination (files : Files) (p : Path) : Except Fault (Option Destination) :=
  match pathFault? p with
  | some fault => .error fault
  | none =>
    let back := p.pieces.reverse
    match back.dropWhile (· = []) with
    | [] => .ok none
    | last :: before => do
      let parent ← files.follow (files.startOf p) before.reverse
      match parent.node with
      | .directory _ => return some ⟨parent.location, last, back.head? = some []⟩
      | .file _ _ => throw .notDirectory

/-- Whether a piece names an entry, and not the directory itself or the one above it. -/
def isEntryName (piece : Name) : Bool :=
  (Path.Component.ofPiece? piece).any (· != .up)

/-- Makes one directory. -/
def makeDirectory (files : Files) (p : Path) : Except Fault Files := do
  match ← files.destination p with
  | none => throw .alreadyExists
  | some d =>
    let location := d.last :: d.parent
    if !isEntryName d.last then throw .alreadyExists
    else if 255 < d.last.length then throw .nameTooLong
    else if (files.node? location).isSome then throw .alreadyExists
    else return files.put location (.directory [])

/-- A path and those above it, up to the last one that is not the working directory or the root. -/
def lineage : Nat → Path → List Path
  | 0, _ => []
  | fuel + 1, p =>
    match p.parent? with
    | none => []
    | some parent => if p.isEmpty then [] else p :: lineage fuel parent

/-- Makes the directories of a line of paths, of which each is right below the next one: goes back to the
    first one whose directory is there, and makes that one and those before it. -/
def makeLine (files : Files) : List Path → Except Fault Unit × Files
  | [] => (.ok (), files)
  | p :: above =>
    match files.makeDirectory p with
    | .ok files => (.ok (), files)
    | .error .notFound =>
      match files.makeLine above with
      | (.error fault, files) => (.error fault, files)
      | (.ok (), files) =>
        match files.makeDirectory p with
        | .ok files => (.ok (), files)
        | .error fault =>
          if fault = .alreadyExists ∧ files.isDirectory p then (.ok (), files)
          else (.error fault, files)
    | .error fault =>
      if fault = .alreadyExists ∧ files.isDirectory p then (.ok (), files) else (.error fault, files)

/-- Makes a directory and those above it that are missing. -/
def makeDirectories (files : Files) (p : Path) : Except Fault Unit × Files :=
  files.makeLine (lineage (p.bytes.length + 1) p)

/-- What a file comes to hold. -/
inductive Change where
  /-- The bytes in place of the old content. -/
  | replace (bytes : List UInt8)
  /-- The bytes behind the old content. -/
  | append (bytes : List UInt8)

/-- The content of a file after a change. -/
def Change.apply (old : List UInt8) : Change → List UInt8
  | .replace bytes => bytes
  | .append bytes => old ++ bytes

/-- Writes a file, which is made if it is missing.  What ends in a separator names a directory, whatever
    stands there. -/
def write (files : Files) (p : Path) (change : Change) : Except Fault Files := do
  match ← files.destination p with
  | none => throw .isDirectory
  | some d =>
    let location := d.last :: d.parent
    if d.trailing || !isEntryName d.last then throw .isDirectory
    else if 255 < d.last.length then throw .nameTooLong
    else match files.node? location with
      | some (.directory _) => throw .isDirectory
      | some (.file old executable) =>
        return files.put location (.file (change.apply old) executable)
      | none => return files.put location (.file (change.apply []) false)

/-! ## Listing -/

mutual

/-- A node and all below it, each with the names on the way down from `location`. -/
def listNode (location : Location) : Node → List (Location × Node)
  | .file content executable => [(location, .file content executable)]
  | .directory entries => (location, .directory entries) :: listEntries location entries

/-- What stands below a directory, entry by entry, each with its place. -/
def listEntries (location : Location) : List (Name × Node) → List (Location × Node)
  | [] => []
  | (n, node) :: r => listNode (n :: location) node ++ listEntries location r

end

/-- The path of a location, relative to the one from which it was listed. -/
def relativePath (location : Location) : Path := ⟨List.intercalate [Path.slash] location.reverse⟩

/-- All that is below the working directory, with relative paths. -/
def listing (files : Files) : List (Path × Node) :=
  match files.node? files.workingDirectory with
  | some (.directory entries) => (listEntries [] entries).map fun (l, node) => (relativePath l, node)
  | _ => []

end Files
end BenchSweep
