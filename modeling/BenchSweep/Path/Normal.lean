/-
  Where a path leads, as far as its text tells.

  `target` follows the components of a path without looking at files: a name descends, `..` takes
  back the last name, and where there is no name to take back it goes up from the working directory,
  or stays at the root.  `normalise` writes the target down again.  Two paths are spellings of one
  place when their normal forms are equal; `resolve` says the same from a known working directory.

  The program itself has no targets: it pushes components onto a path and pops them off again, and looks
  at the path to see which it has to do (`rebuild`).
-/
import BenchSweep.Path.Basic

namespace BenchSweep
namespace Path

/-- A place, from the root or from the working directory. -/
structure Target where
  /-- Whether the way starts at the root. -/
  absolute : Bool
  /-- How many directories it first goes up from the working directory. -/
  ups : Nat
  /-- The names it then descends, the last one in front. -/
  names : List Name
deriving DecidableEq, Repr

namespace Target

/-- The working directory. -/
def start : Target := ⟨false, 0, []⟩

/-- One step further. -/
def step (t : Target) : Component → Target
  | .root => { t with absolute := true }
  | .here => t
  | .name n => { t with names := n :: t.names }
  | .up => match t.names with
    | _ :: names => { t with names }
    | [] => if t.absolute then t else { t with ups := t.ups + 1 }

/-- The shortest path to the place; the working directory has the empty one. -/
def toPath (t : Target) : Path :=
  if t.absolute then ⟨slash :: List.intercalate [slash] t.names.reverse⟩
  else ⟨List.intercalate [slash] (List.replicate t.ups [dot, dot] ++ t.names.reverse)⟩

end Target

/-- The place to which a path leads. -/
def target (p : Path) : Target := p.components.foldl Target.step .start

/-- The normal form: no `.`, and no `..` but in front of a relative path. -/
def normalise (p : Path) : Path := p.target.toPath

/-! ## The normal form, put down step by step -/

/-- A path with one more component put down behind it.  What a `..` does depends on what the path ends with
    so far, and for that its text is read again. -/
def putDown (out : Path) : Component → Path
  | .root => out.append ⟨[slash]⟩
  | .here => out
  | .name n => out.append ⟨n⟩
  | .up => match out.components.getLast? with
    | some (.name _) => out.parent?.getD out
    | some .root => out
    | _ => out.append ⟨[dot, dot]⟩

/-- The normal form as the program finds it: the components are put down one after the other.  It is
    `normalise` (`rebuild_eq_normalise`), which does not read back what it has written. -/
def rebuild (p : Path) : Path := p.components.foldl putDown ⟨[]⟩

/-! ## Places -/

/-- One step from a known directory, given by the names on the way down to it, the last in front. -/
def descend (dir : List Name) : Component → List Name
  | .root => []
  | .here => dir
  | .up => dir.tail
  | .name n => n :: dir

/-- The place to which a path leads from the working directory `dir`: the names on the way down from
    the root, the last in front. -/
def resolve (dir : List Name) (p : Path) : List Name := p.components.foldl descend dir

example : (ofString "./a/../../b//c/.").normalise = ofString "../b/c" := by decide +kernel
example : (ofString "/../a/").normalise = ofString "/a" := by decide +kernel

end Path
end BenchSweep
