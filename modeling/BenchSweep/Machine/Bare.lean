/-
  A system with its programs and nothing else.

  The programs stand in `/bin` and in `/usr/bin`; the working directory is empty, and the directories above
  it hold the way down and nothing else.

  Part of the stand-in for the machine (`Machine/System`).
-/
import BenchSweep.Machine.System

namespace BenchSweep.Machine

/-- A text as the name of an entry. -/
def nameOf (s : String) : Name := Text.Utf8.encode s.toList

/-- A directory with all programs. -/
def programs : Node := .directory (Shell.Utility.names.map fun n => (nameOf n, utilityFile n))

/-- A directory with one entry. -/
def around (n : String) (node : Node) : Node := .directory [(nameOf n, node)]

/-- The directories down to the working directory, the outermost in front. -/
def wayDown : List String := ["work", "site", "group", "area", "machine", "sweeps", "current"]

/-- A directory of which the entries have nothing in them. -/
def withEmpty (make : Node) (names : List String) : List (Name × Node) := names.map fun n => (nameOf n, make)

/-- The directories of a system in which nothing stands that matters. -/
def idle : List (Name × Node) :=
  withEmpty (.directory []) ["boot", "etc", "home", "lib", "lib64", "media", "mnt", "opt", "proc", "root", "run",
    "sbin", "srv", "sys", "tmp", "var"]

/-- The devices. -/
def devices : Node :=
  .directory (withEmpty (.file [] false) ["full", "null", "random", "stderr", "stdin", "stdout", "tty",
    "urandom", "zero"])

/-- The system before anything is put into the working directory. -/
def bare : Files :=
  { root := .directory (
      [(nameOf "bin", programs), (nameOf "dev", devices),
        (nameOf "usr", .directory ((nameOf "bin", programs) ::
          withEmpty (.directory []) ["include", "lib", "local", "sbin", "share", "src"])),
        (nameOf "work", wayDown.tail.foldr around (.directory []))] ++ idle)
    workingDirectory := wayDown.reverse.map nameOf }

/-- The search path with which programs are found there. -/
def searchPath : List UInt8 := nameOf "/usr/bin:/bin"

/-- Makes the directory in which a path stands. -/
def addParent (files : Files) (p : Path) : Files :=
  match p.parent? with
  | some parent => (files.makeDirectories parent).2
  | none => files

/-- Puts a file in its place, with the directories above it. -/
def addFile (files : Files) (p : Path) (content : List UInt8) (executable : Bool) : Files :=
  let files := addParent files p
  match files.destination p with
  | .ok (some d) => files.put (d.last :: d.parent) (.file content executable)
  | _ => files

/-- The file of a script with the given commands. -/
def scriptContent (commands : String) : List UInt8 :=
  Text.Utf8.encode ("#!/bin/sh\n" ++ commands ++ "\n").toList

end BenchSweep.Machine
