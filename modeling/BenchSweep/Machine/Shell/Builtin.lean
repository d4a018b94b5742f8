/-
  The commands that the shell carries out by itself, by name.

  Those that start commands themselves, such as `eval` or `exec`, are not among them: they need the whole
  shell and stand where that is run.

  Part of the stand-in for the machine (`Machine/System`).
-/
import BenchSweep.Machine.Shell.Builtin.Control
import BenchSweep.Machine.Shell.Builtin.Directory
import BenchSweep.Machine.Shell.Builtin.Input
import BenchSweep.Machine.Shell.Builtin.Job
import BenchSweep.Machine.Shell.Builtin.Limit
import BenchSweep.Machine.Shell.Builtin.Name
import BenchSweep.Machine.Shell.Builtin.State

namespace BenchSweep.Machine.Shell.Builtin

/-- What a command of the shell does; none for a word that is none of them, or that runs commands. -/
def command? (name : String) (words : List Bytes) : Option (Act Unit) :=
  match name with
  | ":" | "true" => some (leave 0)
  | "false" => some (leave 1)
  | "echo" => some (echo words)
  | "printf" => some (printf words)
  | "test" => some (test "test" words)
  | "[" => some (bracket words)
  | "exit" => some (exit words)
  | "return" => some (leaveCall words)
  | "break" => some (leaveLoop "break" .leaveLoop words)
  | "continue" => some (leaveLoop "continue" .nextRound words)
  | "shift" => some (shift words)
  | "export" => some (declare "export" Variable.exported Session.exportAs words)
  | "readonly" => some (declare "readonly" Variable.readOnly Session.protectAs words)
  | "unset" => some (unset words)
  | "local" => some (keepLocal words)
  | "set" => some (setCommand words)
  | "getopts" => some (getopts words)
  | "read" => some (read words)
  | "cd" | "chdir" => some (cd words)
  | "pwd" => some (pwd words)
  | "kill" => some (kill words)
  | "wait" => some (wait words)
  | "trap" => some (trap words)
  | "type" => some (type words)
  | "alias" => some (aliasCommand words)
  | "unalias" => some (unalias words)
  | "umask" => some (umask words)
  | "hash" => some (hash words)
  | "times" => some (emit "times" (bytesOf "0m0.000000s 0m0.000000s\n0m0.000000s 0m0.000000s\n") 0)
  | "ulimit" => some (ulimit words)
  | "jobs" => some (leave 0)
  | "fg" | "bg" => some (refuse name (bytesOf "No current job"))
  | _ => none

end BenchSweep.Machine.Shell.Builtin
