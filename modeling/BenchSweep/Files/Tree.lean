/-
  Trees of files and directories.

  A location is the list of names on the way down from the root, the last one in front; the empty list is
  the root.  `node?` looks a location up and `put` stores a node there.  There are no links, so every file
  and directory has one location.
-/
import BenchSweep.Path.Normal

namespace BenchSweep

/-- A file or a directory. -/
inductive Node where
  | file (content : List UInt8) (executable : Bool)
  | directory (entries : List (Name × Node))
deriving Repr, Inhabited

/-- Names on the way down from the root, the last one in front. -/
abbrev Location := List Name

namespace Node

/-- A directory is no file. -/
def isDirectory : Node → Bool
  | .file _ _ => false
  | .directory _ => true

/-- The entry of a directory. -/
def child? (n : Name) : Node → Option Node
  | .file _ _ => none
  | .directory entries => entries.lookup n

/-- The node below a node, by the names on the way down, the first one in front. -/
def below? : List Name → Node → Option Node
  | [], node => some node
  | n :: way, node => (node.child? n).bind (below? way)

/-- Entries in which `n` is `node`; a new entry comes last. -/
def putEntry (n : Name) (node : Node) : List (Name × Node) → List (Name × Node)
  | [] => [(n, node)]
  | e :: r => if e.1 = n then (n, node) :: r else e :: putEntry n node r

/-- Stores a node below another one.  The directory that is to hold it must be there; if it is not, nothing
    changes. -/
def putBelow (new : Node) : List Name → Node → Node
  | [], _ => new
  | [n], .directory entries => .directory (putEntry n new entries)
  | n :: way, .directory entries =>
    match entries.lookup n with
    | some child => .directory (putEntry n (putBelow new way child) entries)
    | none => .directory entries
  | _ :: _, .file content executable => .file content executable

/-- Takes the node away to which names lead down from a node. -/
def eraseBelow : List Name → Node → Node
  | [], node => node
  | _, .file content executable => .file content executable
  | [n], .directory entries => .directory (entries.filter fun e => e.1 ≠ n)
  | n :: way, .directory entries =>
    match entries.lookup n with
    | some child => .directory (putEntry n (eraseBelow way child) entries)
    | none => .directory entries

end Node

/-- All files, and the working directory. -/
structure Files where
  root : Node
  workingDirectory : Location
deriving Repr, Inhabited

namespace Files

/-- What stands at a location. -/
def node? (files : Files) (location : Location) : Option Node := files.root.below? location.reverse

/-- Stores a node at a location. -/
def put (files : Files) (location : Location) (node : Node) : Files :=
  { files with root := Node.putBelow node location.reverse files.root }

/-- Takes away what stands at a location. -/
def erase (files : Files) (location : Location) : Files :=
  { files with root := Node.eraseBelow location.reverse files.root }

/-! ## Finding what a path names -/

/-- Why an operation on files is refused. -/
inductive Fault where
  | notFound
  | permissionDenied
  | alreadyExists
  | notDirectory
  | isDirectory
  | nameTooLong
  /-- A path holds the byte that ends paths. -/
  | nulByte
  /-- A file that is read as text is none. -/
  | notText
deriving DecidableEq, Repr

/-- A fault in the words of the system, with its number. -/
def Fault.message : Fault → String
  | .notFound => "No such file or directory (os error 2)"
  | .permissionDenied => "Permission denied (os error 13)"
  | .alreadyExists => "File exists (os error 17)"
  | .notDirectory => "Not a directory (os error 20)"
  | .isDirectory => "Is a directory (os error 21)"
  | .nameTooLong => "File name too long (os error 36)"
  | .nulByte => "file name contained an unexpected NUL byte"
  | .notText => "stream did not contain valid UTF-8"

/-- A location and what stands there. -/
structure Place where
  location : Location
  node : Node

/-- The place of a location, if something stands there. -/
def place (files : Files) (location : Location) : Except Fault Place :=
  match files.node? location with
  | some node => .ok ⟨location, node⟩
  | none => .error .notFound

/-- One piece of a path further from a place, which must be a directory: an empty piece and a `.` stay,
    `..` goes up and stays at the root, and a name must be there. -/
def step (files : Files) (here : Place) (piece : Name) : Except Fault Place :=
  match here.node with
  | .file _ _ => .error .notDirectory
  | .directory entries =>
    if piece = [] ∨ piece = [Path.dot] then .ok here
    else if piece = [Path.dot, Path.dot] then files.place here.location.tail
    else if 255 < piece.length then .error .nameTooLong
    else match entries.lookup piece with
      | some node => .ok ⟨piece :: here.location, node⟩
      | none => .error .notFound

/-- Where a path starts. -/
def startOf (files : Files) (p : Path) : Location :=
  if p.isAbsolute then [] else files.workingDirectory

/-- Follows pieces from a location. -/
def follow (files : Files) (start : Location) (pieces : List Name) : Except Fault Place := do
  pieces.foldlM files.step (← files.place start)

/-- Paths have less than this many bytes. -/
def maxPathSize : Nat := 4096

/-- What is wrong with a path before any file is looked at. -/
def pathFault? (p : Path) : Option Fault :=
  if 0 ∈ p.bytes then some .nulByte
  else if p.isEmpty then some .notFound
  else if maxPathSize ≤ p.bytes.length then some .nameTooLong
  else none

/-- The place that a path names. -/
def find (files : Files) (p : Path) : Except Fault Place :=
  match pathFault? p with
  | some fault => .error fault
  | none => files.follow (files.startOf p) p.pieces

/-- The node that a path names. -/
def nodeOf? (files : Files) (p : Path) : Option Node := (files.find p).toOption.map Place.node

/-- A path exists if it leads to something. -/
def pathExists (files : Files) (p : Path) : Bool := (files.nodeOf? p).isSome

/-- A path leads to a file. -/
def isFile (files : Files) (p : Path) : Bool :=
  match files.nodeOf? p with
  | some (.file _ _) => true
  | _ => false

/-- A path leads to a directory. -/
def isDirectory (files : Files) (p : Path) : Bool :=
  match files.nodeOf? p with
  | some (.directory _) => true
  | _ => false

end Files
end BenchSweep
