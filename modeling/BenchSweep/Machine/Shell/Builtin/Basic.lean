/-
  What the commands that the shell carries out by itself have in common.

  A command of the language itself that is refused ends the shell; of any other, only the command ends,
  which the one who calls it sees to.  Each leaves a status.

  Part of the stand-in for the machine (`Machine/System`).
-/
import BenchSweep.Machine.Shell.Expansion
import BenchSweep.Machine.Shell.Reader

namespace BenchSweep.Machine.Shell.Builtin

/-- The names of the commands that do not belong to the language itself. -/
def regularCommands : List String :=
  ["alias", "bg", "cd", "chdir", "command", "echo", "false", "fg", "getopts", "hash", "jobs", "kill",
    "printf", "pwd", "read", "test", "[", "true", "type", "ulimit", "umask", "unalias", "wait"]

/-- Ends the command with a status. -/
def leave (status : Nat) : Act Unit := modify (·.withStatus status)

/-- Ends the command with a complaint in its name. -/
def refuse {α : Type} (name : String) (text : Bytes) : Act α := do
  modify fun s => (s.reportAs (bytesOf name) text).withStatus 2
  throw .refused

/-- Complains in the name of the command and goes on. -/
def warn (name : String) (text : Bytes) : Act Unit := modify (·.reportAs (bytesOf name) text)

/-- Puts out the output of a command, which then has the given status. -/
def emit (name : String) (bytes : Bytes) (status : Nat) : Act Unit := do
  match (← get).put? 1 bytes with
  | some s => set (s.withStatus status)
  | none =>
    warn name (bytesOf (name ++ ": I/O error"))
    leave 1

/-- The count that a word is. -/
def countOf (name : String) (word : Bytes) : Act Nat := do
  match integer? word with
  | some n =>
    if 0 ≤ n ∧ n ≤ 2147483647 then return n.toNat
    else refuse name (bytesOf "Illegal number: " ++ word)
  | none => refuse name (bytesOf "Illegal number: " ++ word)

/-- The options in front of the words, of which only the known letters are allowed, and the other words. -/
def options (name known : String) : List Bytes → Act (List Char × List Bytes)
  | [] => return ([], [])
  | word :: rest =>
    if hasBytes word "--" then return ([], rest)
    else if word.head? = some 0x2D ∧ 1 < word.length then do
      let letters := (Text.Utf8.lossy word).tail
      match letters.find? fun c => !known.toList.contains c with
      | some c => refuse name (bytesOf ("Illegal option -" ++ String.ofList [c]))
      | none =>
        let (more, operands) ← options name known rest
        return (letters ++ more, operands)
    else return ([], word :: rest)

/-- A value between single quotation marks; such marks in it stand between double ones. -/
def quotedWithin : Nat → Bytes → Bytes
  | 0, _ => []
  | fuel + 1, s =>
    let part := s.takeWhile (· ≠ 0x27)
    let marks := (s.drop part.length).takeWhile (· = 0x27)
    let rest := s.drop (part.length + marks.length)
    let shown := 0x27 :: part ++ [0x27]
    if marks.isEmpty then shown
    else shown ++ 0x22 :: marks ++ [0x22] ++ if rest.isEmpty then [] else quotedWithin fuel rest

/-- A value in quotes, so that the shell reads it again. -/
def quoted (s : Bytes) : Bytes := quotedWithin (s.length + 1) s

/-- A word of the form `name=value`. -/
def nameAndValue (word : Bytes) : String × Option Bytes :=
  let name := textOf (word.takeWhile (· ≠ 0x3D))
  match word.dropWhile (· ≠ 0x3D) with
  | [] => (name, none)
  | _ :: value => (name, some value)

/-- Refuses a name that no variable can have. -/
def demandName (name : String) (word : String) : Act Unit :=
  if Reader.isName word.toList then pure () else refuse name (bytesOf (word ++ ": bad variable name"))

/-- Refuses to change a variable that is protected. -/
def demandChangeable (name : String) (word : String) : Act Unit := do
  if (← get).isReadOnly word then refuse name (bytesOf (word ++ ": is read only"))

/-- Lines with the variables among those chosen, by name. -/
def listed (start : String) (vs : List Variable) : Bytes :=
  let line (v : Variable) : Bytes :=
    bytesOf (start ++ v.name) ++ (match v.value with
      | some value => 0x3D :: quoted value
      | none => []) ++ [0x0A]
  ((vs.mergeSort fun a b => a.name ≤ b.name).map line).flatten

end BenchSweep.Machine.Shell.Builtin
