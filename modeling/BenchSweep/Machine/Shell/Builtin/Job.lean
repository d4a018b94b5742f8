/-
  Commands for signals and for commands that run beside the shell.

  No two commands run at once here.  One that runs beside the shell has come to its end before the shell
  goes on, and what is left of it is its number, its status and whether the shell has waited for it.

  Part of the stand-in for the machine (`Machine/System`).
-/
import BenchSweep.Machine.Shell.Builtin.Basic
import BenchSweep.Machine.Shell.Signal

namespace BenchSweep.Machine.Shell.Builtin

/-- What is said if there is nothing to send to. -/
def usageOfKill : Bytes :=
  bytesOf "Usage: kill [-s sigspec | -signum | -sigspec] [pid | job]... or\nkill -l [exitstatus]"

/-- Sends a signal to the process of a number. -/
def send (signal : Nat) (target : Bytes) : Act Unit := do
  if target.head? = some 0x25 then refuse "kill" (bytesOf "No such job: " ++ target)
  let n ← countOf "kill" (if target.head? = some 0x2D then target.tail else target)
  let s ← get
  if (s.allTraps.lookup n).isSome then Signal.receive n signal
  else
    match s.jobs.find? fun job => job.number = n && !job.waited with
    | some job =>
      -- the command has ended already, but its status is that of the signal until the shell has waited
      if Signal.ends signal then
        let ended : Job := { job with status := 128 + signal }
        set { s with jobs := s.jobs.map fun (other : Job) => if other.number = n then ended else other }
    | none =>
      warn "kill" (bytesOf "No such process\n")
      leave 1

/-- The names of the signals, or of the one that has ended a command with a status. -/
def listSignals (words : List Bytes) : Act Unit := do
  match words with
  | [] => emit "kill" (bytesOf ("0\n" ++ String.join (Signal.names.map (· ++ "\n")))) 0
  | word :: _ =>
    let n ← countOf "kill" word
    let n := if 128 < n then n - 128 else n
    if n = 0 ∨ Signal.maxNumber < n then
      refuse "kill" (bytesOf "invalid signal number or exit status: " ++ word)
    emit "kill" (bytesOf (Signal.nameOf n ++ "\n")) 0

/-- Sends a signal to processes, or lists the signals. -/
def kill (words : List Bytes) : Act Unit := do
  let sendAll (signal : Nat) (targets : List Bytes) : Act Unit := do
    if targets.isEmpty then refuse "kill" usageOfKill
    leave 0
    for target in targets do
      send signal target
  match words with
  | [] => refuse "kill" usageOfKill
  | word :: rest =>
    -- without an option it is the request to end
    if word.head? ≠ some 0x2D then sendAll 15 words
    else match Signal.numberOf? word.tail with
      | some n => sendAll n rest
      | none =>
        if hasBytes word "-l" then listSignals rest
        else if hasBytes word "--" then sendAll 15 rest
        else if hasBytes word "-s" then
          match rest with
          | [] => refuse "kill" (bytesOf "No arg for -s option")
          | name :: targets =>
            match Signal.numberOf? name with
            | some n => sendAll n targets
            | none => refuse "kill" (bytesOf "invalid signal number or name: " ++ name)
        else refuse "kill" (bytesOf "Illegal option " ++ word.take 2)

/-- Waits for the jobs that are chosen. -/
def waitFor (chosen : Job → Bool) : Act Unit :=
  modify fun s => { s with jobs := s.jobs.map fun job => { job with waited := job.waited || chosen job } }

/-- Waits for commands that run beside the shell. -/
def wait (words : List Bytes) : Act Unit := do
  let (_, operands) ← options "wait" "" words
  leave 0
  if operands.isEmpty then waitFor fun _ => true
  for word in operands do
    let s ← get
    match (integer? word).bind fun n => s.jobs.find? fun job => (job.number : Int) = n with
    | some job =>
      -- the end by a signal is told once
      let told := if 128 < job.status ∧ !job.waited then Signal.description? (job.status - 128) else none
      set (((told.map s.complain).getD s).withStatus job.status)
      waitFor fun other => other.number = job.number
    | none => leave 127

/-- Sets what is done at a signal, or lists that. -/
def trap (words : List Bytes) : Act Unit := do
  let (_, operands) ← options "trap" "" words
  let s ← get
  let isNumber (word : Bytes) : Bool :=
    (Signal.numberOf? word).isSome && word.all (fun b => 0x30 ≤ b && b ≤ 0x39)
  match operands with
  | [] =>
    let known := (List.range (Signal.maxNumber + 1)).filterMap fun n =>
      (s.traps.lookup (Signal.nameOf n)).map (Signal.nameOf n, ·)
    let line (name : String) (action : Bytes) : Bytes :=
      bytesOf "trap -- " ++ quoted action ++ bytesOf (" " ++ name ++ "\n")
    emit "trap" ((known.map fun (name, action) => line name action).flatten) 0
  | first :: rest =>
    let (action, names) : Option Bytes × List Bytes :=
      -- one word alone, or a number in front, resets signals
      if rest.isEmpty ∨ isNumber first then (none, operands)
      else (if hasBytes first "-" then none else some first, rest)
    leave 0
    for name in names do
      match Signal.numberOf? name with
      | some n =>
        modify fun s =>
          let others := s.traps.filter (·.1 ≠ Signal.nameOf n)
          { s with traps := (action.map fun a => (Signal.nameOf n, a)).toList ++ others }
      | none =>
        modify fun s => (s.complain ("trap: " ++ textOf name ++ ": bad trap")).withStatus 1
        break

end BenchSweep.Machine.Shell.Builtin
