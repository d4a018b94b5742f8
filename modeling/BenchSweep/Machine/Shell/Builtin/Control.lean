/-
  Commands that put out text, test conditions, and change how the script goes on.

  Part of the stand-in for the machine (`Machine/System`).
-/
import BenchSweep.Machine.Shell.Builtin.Basic
import BenchSweep.Machine.Shell.Condition
import BenchSweep.Machine.Shell.Format

namespace BenchSweep.Machine.Shell.Builtin

/-! ## Output and conditions -/

/-- Writes its words on one line. -/
def echo (words : List Bytes) : Act Unit :=
  let (plain, words) := match words with
    | w :: r => if hasBytes w "-n" then (true, r) else (false, w :: r)
    | [] => (false, [])
  let (out, ended) := unescape (Session.spaced words)
  emit "echo" (if ended || plain then out else out ++ [0x0A]) 0

/-- Writes its words as the first one says. -/
def printf (words : List Bytes) : Act Unit := do
  match (← options "printf" "" words).2 with
  | [] => refuse "printf" (bytesOf "usage: printf format [arg ...]")
  | form :: words =>
    let f := format form words
    for complaint in f.complaints.reverse do
      warn "printf" complaint
    match f.refusal with
    | some text =>
      warn "printf" text
      emit "printf" f.output 2
    | none => emit "printf" f.output (if f.complaints.isEmpty then 0 else 1)

/-- Tells by its status whether a condition holds. -/
def test (name : String) (words : List Bytes) : Act Unit := do
  match Condition.value (← get) words with
  | .ok b => leave (if b then 0 else 1)
  | .error fault => refuse name fault.message

/-- The same between brackets. -/
def bracket (words : List Bytes) : Act Unit :=
  if words.getLast? = some [0x5D] then test "[" words.dropLast else refuse "[" (bytesOf "missing ]")

/-! ## Control -/

/-- Ends the shell, with the status of the last command if no other is given. -/
def exit (words : List Bytes) : Act Unit := do
  match words with
  | [] =>
    modify fun s => s.withStatus (s.kept.getD s.status)
    throw .exit
  | word :: _ =>
    leave (← countOf "exit" word)
    throw .exit

/-- Ends the function or the script that is read. -/
def leaveCall (words : List Bytes) : Act Unit := do
  match words with
  | [] => throw .leaveCall
  | word :: _ =>
    leave (← countOf "return" word)
    throw .leaveCall

/-- Ends loops, or their rounds; outside of loops nothing happens. -/
def leaveLoop (name : String) (flow : Nat → Flow) (words : List Bytes) : Act Unit := do
  let n ← match words with
    | [] => pure 1
    | word :: _ => countOf name word
  if n = 0 then refuse name (bytesOf "Illegal number: " ++ words.headD [])
  leave 0
  let loops := (← get).loops
  if loops ≠ 0 then throw (flow (min n loops))

/-- Drops arguments from the front. -/
def shift (words : List Bytes) : Act Unit := do
  let n ← match words with
    | [] => pure 1
    | word :: _ => countOf "shift" word
  let s ← get
  if s.arguments.length < n then refuse "shift" (bytesOf "can't shift that many")
  set { s with arguments := s.arguments.drop n, status := 0, optionIndex := 1, optionOffset := none }

end BenchSweep.Machine.Shell.Builtin
