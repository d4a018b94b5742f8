/-
  The dry run: every request is shown and none is carried out.

  Each request is written on a line of its own.  What the writer takes may be limited; it then takes the
  part that fits and refuses the rest.
-/
import BenchSweep.Harness.Basic

namespace BenchSweep
namespace Harness
namespace DryRun

/-- What was written, and how many more bytes there is room for; none for no limit. -/
structure Writer where
  written : List UInt8
  room : Option Nat
deriving DecidableEq, Repr, Inhabited

/-- Writes the bytes for which there is room, and tells whether these are all. -/
def Writer.write (writer : Writer) (bytes : List UInt8) : Bool × Writer :=
  match writer.room with
  | none => (true, { writer with written := writer.written ++ bytes })
  | some room =>
    let fitting := bytes.take room
    (fitting.length == bytes.length,
      { written := writer.written ++ fitting, room := some (room - fitting.length) })

/-- The writer did not take a line to its end. -/
inductive Fault where
  | full
deriving DecidableEq, Repr

/-- What went wrong, and what brought it about. -/
def Fault.causes : Fault → List String
  | .full => ["write dry-run command", "failed to write whole buffer"]

/-- The bytes of a request's line. -/
def lineOf (request : Request) : List UInt8 := Text.Utf8.encode (request.display.toList ++ ['\n'])

end DryRun

/-- The harness that writes each request on a line and lets it succeed. -/
def dryRun : Harness DryRun.Writer DryRun.Fault := fun request world =>
  let (whole, writer) := world.state.write (DryRun.lineOf request)
  (if whole then .ok .succeeded else .error .full, { world with state := writer })

end Harness
end BenchSweep
