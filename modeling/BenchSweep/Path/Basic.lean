/-
  Paths: byte strings in which a slash divides the names.

  A path is kept as it was written; what it means is read off its `components`.  Separators may be
  repeated and may trail, and a `.` says nothing, save for one at the very front of a relative path,
  which stays visible as `here` (so `./x` has two components and `x` has one).

  Nothing here looks at files: the module holds the reading of a path, its `parent?`, the path of an
  entry below a directory (`append`), and its text.
-/
import BenchSweep.Text.Split
import BenchSweep.Text.Utf8

namespace BenchSweep

/-- The bytes between two separators of a path. -/
abbrev Name := List UInt8

/-- A path as it was written. -/
structure Path where
  /-- The bytes of the path. -/
  bytes : List UInt8
deriving DecidableEq, Repr, Inhabited

namespace Path

/-- The separator, `/`. -/
def slash : UInt8 := 0x2F

/-- The byte `.`. -/
def dot : UInt8 := 0x2E

/-- One step of the way that a path describes. -/
inductive Component where
  /-- The root directory. -/
  | root
  /-- The directory where the way is already. -/
  | here
  /-- The directory above. -/
  | up
  /-- An entry of the directory. -/
  | name (n : Name)
deriving DecidableEq, Repr

/-- The path that a text names. -/
def ofString (s : String) : Path := ⟨Text.Utf8.encode s.toList⟩

/-- The text of a path whose bytes are one. -/
def text? (p : Path) : Option String := (Text.Utf8.decode? p.bytes).map String.ofList

/-- The text of a path, with U+FFFD for what is none. -/
def display (p : Path) : String := String.ofList (Text.Utf8.lossy p.bytes)

/-- The path has no bytes at all. -/
def isEmpty (p : Path) : Bool := p.bytes.isEmpty

/-- The path begins with a separator. -/
def isAbsolute (p : Path) : Bool := p.bytes.head? == some slash

/-- What a piece between separators adds to the way; an empty one and a `.` add nothing. -/
def Component.ofPiece? (piece : Name) : Option Component :=
  if piece = [] ∨ piece = [dot] then none
  else if piece = [dot, dot] then some .up
  else some (.name piece)

/-- The pieces of a path between its separators. -/
def pieces (p : Path) : List Name := List.splitOn slash p.bytes

/-- The steps of the way from the root or from the working directory. -/
def components (p : Path) : List Component :=
  let steps := p.pieces.filterMap Component.ofPiece?
  if p.isAbsolute then .root :: steps
  else if p.pieces.head? = some [dot] then .here :: steps
  else steps

/-- The path of `p` seen from the directory `base`.  An absolute `p` stands for itself. -/
def append (base p : Path) : Path :=
  if p.isAbsolute then p
  else if base.isEmpty || base.bytes.getLast? == some slash then ⟨base.bytes ++ p.bytes⟩
  else ⟨base.bytes ++ slash :: p.bytes⟩

/-- Drops the pieces at the end that add nothing to the way. -/
def trimEnd (ps : List Name) : List Name :=
  (ps.reverse.dropWhile (fun n => (Component.ofPiece? n).isNone)).reverse

/-- What stands in front of the last component, without the separators that trail there; none for a
    path that has no component or is the root.  The part that is left is spelled as it was written. -/
def parent? (p : Path) : Option Path :=
  let front := if p.isAbsolute then [slash] else if p.pieces.head? = some [dot] then [dot] else []
  match (trimEnd (List.splitOn slash (p.bytes.drop front.length))).reverse with
  | [] => if front = [dot] then some ⟨[]⟩ else none
  | _ :: before => some ⟨front ++ List.intercalate [slash] (trimEnd before.reverse)⟩

example : (ofString "./a//b/.").components =
    [.here, .name "a".toUTF8.toList, .name "b".toUTF8.toList] := by decide +kernel
example : (ofString "a//b/c/./").parent? = some (ofString "a//b") := by decide +kernel
example : (ofString "/a").parent? = some (ofString "/") ∧ (ofString "/").parent? = none ∧
    (ofString "a").parent? = some (ofString "") := by decide +kernel

end Path
end BenchSweep
