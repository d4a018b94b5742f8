/-
  Signals: their names and numbers, and what they do to a shell.

  Part of the stand-in for the machine (`Machine/System`).
-/
import BenchSweep.Machine.Shell.Session

namespace BenchSweep.Machine.Shell.Signal

/-- The names of the signals from the number one on that have a name of their own. -/
def ownNames : List String :=
  ["HUP", "INT", "QUIT", "ILL", "TRAP", "ABRT", "BUS", "FPE", "KILL", "USR1", "SEGV", "USR2", "PIPE",
    "ALRM", "TERM", "16", "CHLD", "CONT", "STOP", "TSTP", "TTIN", "TTOU", "URG", "XCPU", "XFSZ",
    "VTALRM", "PROF", "WINCH", "IO", "PWR", "SYS"]

/-- The names of the signals from the number one on. -/
def names : List String :=
  ownNames ++ ["32", "33", "RTMIN"] ++ ((List.range 15).map fun i => "RTMIN+" ++ toString (i + 1)) ++
    ((List.range 14).map fun i => "RTMAX-" ++ toString (14 - i)) ++ ["RTMAX"]

/-- The name for the end of the shell, which has the number zero. -/
def exitName : String := "EXIT"

/-- The greatest number of a signal. -/
def maxNumber : Nat := 64

/-- The name of a number. -/
def nameOf (n : Nat) : String := if n = 0 then exitName else (names[n - 1]?).getD (toString n)

/-- The number of a signal that a word names, in whatever case, or is. -/
def numberOf? (word : Bytes) : Option Nat :=
  let text := textOf (word.map fun b => if 0x61 ≤ b ∧ b ≤ 0x7A then b - 0x20 else b)
  if word ≠ [] ∧ word.all (fun b => 0x30 ≤ b && b ≤ 0x39) then
    text.toNat?.bind fun n => if n ≤ maxNumber then some n else none
  else if text = exitName then some 0
  else (names.findIdx? (· = text)).map (· + 1)

/-- Whether a signal that nothing is done about ends a process. -/
def ends (n : Nat) : Bool := n ≠ 0 && !(["CHLD", "CONT", "URG", "WINCH"].contains (nameOf n))

/-- Whether something can be done about a signal. -/
def canBeTrapped (n : Nat) : Bool := nameOf n ≠ "KILL" && nameOf n ≠ "STOP"

/-- How the end of a process by a signal is told; some signals end it in silence. -/
def description? (n : Nat) : Option String :=
  if n = 2 ∨ n = 13 then none
  else
    let texts := ["Hangup", "Interrupt", "Quit", "Illegal instruction", "Trace/breakpoint trap", "Aborted",
      "Bus error", "Floating point exception", "Killed", "User defined signal 1", "Segmentation fault",
      "User defined signal 2", "Broken pipe", "Alarm clock", "Terminated", "Stack fault", "Child exited",
      "Continued", "Stopped (signal)", "Stopped", "Stopped (tty input)", "Stopped (tty output)",
      "Urgent I/O condition", "CPU time limit exceeded", "File size limit exceeded", "Virtual timer expired",
      "Profiling timer expired", "Window changed", "I/O possible", "Power failure", "Bad system call"]
    let unnamed := if 34 ≤ n then "Real-time signal " ++ toString (n - 34) else "Unknown signal " ++ toString n
    some ((texts[n - 1]?).getD unnamed)

/-- A signal comes to a process: it is left out, kept until a command is over, or ends the process.  The
    number zero is none. -/
def receive (process n : Nat) : Act Unit := do
  let s ← get
  let traps := (s.allTraps.lookup process).getD []
  match if n = 0 then some [] else if canBeTrapped n then traps.lookup (nameOf n) else none with
  | some [] => pure ()
  | some _ => set { s with pending := s.pending ++ [(process, nameOf n)] }
  | none => if ends n then throw (.killed process n)

end BenchSweep.Machine.Shell.Signal
