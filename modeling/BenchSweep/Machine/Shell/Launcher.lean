/-
  Programs that start other programs.

  Some run the other one in their own place, some beside them.  How words are run as a program in the place
  of a process is a parameter here.

  Part of the stand-in for the machine (`Machine/System`).
-/
import BenchSweep.Machine.Shell.Process
import BenchSweep.Machine.Shell.Utility.Value

namespace BenchSweep.Machine.Shell

/-- A way to start words as a program: what it does in its process, or why it is not started. -/
abbrev Starter := Session → List Bytes → Except Machine.Refusal (Act Unit)

/-- How a program has come to its end. -/
inductive Ending where
  | exited (status : Nat)
  | killed (signal : Nat)
deriving DecidableEq, Repr

/-- Does something as another process; how that has ended is the status as well. -/
def asProcess (act : Act Unit) : Act Ending := fun s =>
  let (result, child) := act s.child
  let after := s.after child
  match result with
  | .error (.killed process signal) =>
    if process = s.nextProcess then (.ok (.killed signal), after.withStatus (128 + signal))
    else (.error (.killed process signal), after)
  | _ => (.ok (.exited after.status), after)

/-- Why a program was not started, in words. -/
def reasonOf (refusal : Machine.Refusal) : String :=
  match refusal with
  | .file .notDirectory => "Not a directory"
  | .file fault => Utility.reasonOf fault
  | .unknownFormat => "Exec format error"
  | .tooManyInterpreters => "Too many levels of symbolic links"
  | .nulByte => "Invalid argument"
  | .argumentsTooLong => "Argument list too long"

/-- The status of a program that was not started. -/
def refusedStatus (refusal : Machine.Refusal) : Nat :=
  if refusal = .file .notFound then 127 else 126

namespace Launcher

/-- Complains in the name of a launcher that a program was not started. -/
def tell (name : String) (text : Bytes) (refusal : Machine.Refusal) : Act Unit :=
  modify fun s =>
    Utility.fail name (refusedStatus refusal) (text ++ bytesOf (": " ++ reasonOf refusal)) s

/-- Runs words in the place of the launcher. -/
def runInPlace (start : Starter) (name : String) (failed : Bytes → Bytes) (words : List Bytes) :
    Act Unit := do
  match start (← get) words with
  | .ok act => act
  | .error refusal => tell name (failed (words.headD [])) refusal

/-- How most launchers name a program that was not started. -/
def failedToRun (word : Bytes) : Bytes := bytesOf "failed to run command " ++ Utility.shown word

/-- Does something with the options in front of a program's words and with those. -/
def withFront (name : String) (known : Utility.Spec) (failure : Nat) (words : List Bytes)
    (run : Utility.Arguments → Act Unit) : Act Unit := do
  match Utility.parseFront known words with
  | .ok a =>
    modify (·.withStatus 0)
    run a
  | .error text => modify (Utility.misuse name failure text)

/-! ## In the place of the launcher -/

/-- Sets the variables that stand in front of the words. -/
def setVariables : List Bytes → Act (List Bytes)
  | [] => return []
  | word :: rest =>
    if word.contains 0x3D then do
      let (name, value) := (word.takeWhile (· ≠ 0x3D), (word.dropWhile (· ≠ 0x3D)).tail)
      modify (·.exportAs (textOf name) (some value))
      setVariables rest
    else return word :: rest

/-- Runs a command in another environment, or writes the environment. -/
def env (start : Starter) (words : List Bytes) : Act Unit :=
  let known : Utility.Spec :=
    ⟨"i0v", "uCS", [("ignore-environment", 'i'), ("unset", 'u'), ("chdir", 'C'), ("split-string", 'S')], ""⟩
  withFront "env" known 125 words fun a => do
    let dashed := a.operands.head?.any (hasBytes · "-")
    if a.has 'i' || dashed then modify fun s => { s with bindings := [] }
    (a.values 'u').forM fun name => modify (·.unset (textOf name))
    let split := (a.values 'S').flatMap fun text => (List.splitOn 0x20 text).filter (· ≠ [])
    match ← setVariables (split ++ if dashed then a.operands.tail else a.operands) with
    | [] => modify fun s => s.print (Utility.environmentLines s)
    | words => runInPlace start "env" Utility.shown words

/-- Runs a command; that it is less urgent makes no difference here. -/
def nice (start : Starter) (words : List Bytes) : Act Unit :=
  let words := match words with
    | word :: rest => if word.head? = some 0x2D ∧ (integer? word).isSome then rest else words
    | [] => []
  withFront "nice" (Utility.spec "" "n" [("adjustment", 'n')]) 125 words fun a =>
    if a.operands.isEmpty then modify fun s => s.print (bytesOf "0\n")
    else runInPlace start "nice" Utility.shown a.operands

/-- A launcher whose options change nothing that can be seen. -/
def plainly (start : Starter) (name : String) (known : Utility.Spec) (words : List Bytes) : Act Unit :=
  withFront name known 125 words fun a =>
    if a.operands.isEmpty then modify (Utility.misuse name 125 "missing operand")
    else runInPlace start name failedToRun a.operands

/-! ## Beside the launcher -/

/-- A duration in units of which so many make a second. -/
def durationIn (unit : Nat) (word : Bytes) : Nat :=
  let (number, factor) : Bytes × Nat := match word.getLast? with
    | some 0x73 => (word.dropLast, 1)
    | some 0x6D => (word.dropLast, 60)
    | some 0x68 => (word.dropLast, 3600)
    | some 0x64 => (word.dropLast, 86400)
    | _ => (word, 1)
  match Utility.Scaled.ofBytes? number with
  | some x => x.value.toNat * factor * unit / Nat.pow 10 x.places
  | none => 0

/-- How long a program sleeps, if it does nothing else. -/
def sleepIn (unit : Nat) (words : List Bytes) : Nat :=
  match words with
  | name :: durations =>
    if hasBytes name "sleep" then (durations.map (durationIn unit)).foldl (· + ·) 0 else 0
  | [] => 0

/-- Runs a command, unless it is a pause that takes longer than is allowed; nothing else takes time here. -/
def timeout (start : Starter) (words : List Bytes) : Act Unit :=
  let known := Utility.spec "fv" "ks" [("kill-after", 'k'), ("signal", 's'), ("preserve-status", 'p'),
    ("foreground", 'f'), ("verbose", 'v')]
  withFront "timeout" { known with flags := "fvp" } 125 words fun a => do
    match a.operands with
    | limit :: program :: rest =>
      if !Utility.isDuration limit then
        modify (Utility.misuse "timeout" 125 ("invalid time interval '" ++ textOf limit ++ "'"))
      else
        let unit := 1000000000
        let allowed := durationIn unit limit
        let signal := ((a.value? 's').bind Signal.numberOf?).getD 15
        if 0 < allowed ∧ allowed < sleepIn unit (program :: rest) then
          if signal = 9 then throw (.killed (← get).processId 9)
          else modify (·.withStatus (if a.has 'p' then 128 + signal else 124))
        else
          match start (← get) (program :: rest) with
          | .error refusal => tell "timeout" (failedToRun program) refusal
          | .ok act =>
            match ← asProcess act with
            | .exited _ => pure ()
            | .killed signal => throw (.killed (← get).processId signal)
    | _ =>
      modify fun s =>
        (s.complain "Try 'timeout --help' for more information.").withStatus 125

/-! ## Many times -/

/-- The items of an input: quotes hide what divides it, and a backslash hides the next byte. -/
def items (divides : UInt8 → Bool) : (quote : Option UInt8) → (current : Option Bytes) → Bytes →
    Except String (List Bytes)
  | some q, _, [] =>
    .error ("unmatched " ++ (if q = 0x27 then "single" else "double") ++
      " quote; by default quotes are special to xargs unless you use the -0 option")
  | none, current, [] => .ok current.toList
  | some q, current, b :: r =>
    if b = q then items divides none current r
    else items divides (some q) (some (current.getD [] ++ [b])) r
  | none, current, 0x5C :: b :: r => items divides none (some (current.getD [] ++ [b])) r
  | none, current, b :: r =>
    if b = 0x27 ∨ b = 0x22 then items divides (some b) (some (current.getD [])) r
    else if b = 0x0A ∨ divides b ∨ (current.isNone ∧ b = 0x20) then do
      return current.toList ++ (← items divides none none r)
    else items divides none (some (current.getD [] ++ [b])) r

/-- A word in which each occurrence of a mark, which is not empty, is replaced. -/
def replaced (mark value : Bytes) : Nat → Bytes → Bytes
  | 0, word => word
  | _, [] => []
  | fuel + 1, b :: r =>
    if mark ≠ [] ∧ mark.isPrefixOf (b :: r) then value ++ replaced mark value fuel ((b :: r).drop mark.length)
    else b :: replaced mark value fuel r

/-- How many items one call takes: so many at most, and with the command no more than so many bytes, of
    which each word needs one for its end. -/
structure Batch where
  count : Nat
  size : Nat
  /-- The bytes that the command needs. -/
  taken : Nat

/-- Items in lists for one call each.  `current` is the list that is being filled, the last item in front;
    it has place for `count` more items, and `taken` bytes are taken. -/
def Batch.fill (b : Batch) (current : List Bytes) (count taken : Nat) : List Bytes → List (List Bytes)
  | [] => if current.isEmpty then [] else [current.reverse]
  | item :: rest =>
    let grown := taken + item.length + 1
    if current ≠ [] ∧ (count = 0 ∨ b.size < grown) then
      current.reverse :: b.fill [item] (b.count - 1) (b.taken + item.length + 1) rest
    else b.fill (item :: current) (count - 1) grown rest

/-- Items in batches that a command line has room for. -/
def Batch.of (b : Batch) (items : List Bytes) : List (List Bytes) := b.fill [] b.count b.taken items

/-- The bytes that words need. -/
def sizeOf (words : List Bytes) : Nat := words.foldl (fun n w => n + w.length + 1) 0

/-- The bytes that the words of one call need at most, if nothing else is said. -/
def usualSize : Nat := 131072

/-- Runs a program with each of some lists of words, up to one that ends all, and does something at last. -/
def runEach (start : Starter) (last : Act Unit) (calls : List (List Bytes)) : Act Unit := do
  match calls with
  | [] => last
  | words :: rest =>
    let s ← get
    let name := words.headD []
    let stop (status : Nat) (text : String) : Act Unit :=
      modify (Utility.fail "xargs" status (name ++ bytesOf (": " ++ text)))
    match start s words with
    | .error refusal => tell "xargs" name refusal
    | .ok act =>
      match ← asProcess act with
      | .exited 0 =>
        modify (·.withStatus s.status)
        runEach start last rest
      | .exited 255 => stop 124 "exited with status 255; aborting"
      | .exited _ =>
        modify (·.withStatus 123)
        runEach start last rest
      | .killed signal => stop 125 ("terminated by signal " ++ toString signal)

/-- Runs a command with the items of its input as arguments. -/
def xargs (start : Starter) (words : List Bytes) : Act Unit :=
  let known : Utility.Spec :=
    ⟨"0rtpxo", "nILPdasE", [("null", '0'), ("no-run-if-empty", 'r'), ("max-args", 'n'), ("max-procs", 'P'),
      ("delimiter", 'd'), ("replace", 'I'), ("max-lines", 'L'), ("arg-file", 'a'), ("verbose", 't')], ""⟩
  withFront "xargs" known 1 words fun a => do
    let (input, s) := (← get).takeAll 0
    set (s.openStream 0 ⟨.nothing, 0, false, true, false⟩)
    let command := if a.operands.isEmpty then [bytesOf "echo"] else a.operands
    let size (letter : Char) : Option Nat := (a.value? letter).bind fun w => (textOf w).toNat?
    let isBlank (b : UInt8) : Bool := b = 0x20 || b = 0x09
    let dividedBy (b : UInt8) : List Bytes :=
      let parts := List.splitOn b input
      if parts.getLast? = some [] then parts.dropLast else parts
    let found : Except String (List (List Bytes)) :=
      if a.has '0' then .ok [dividedBy 0]
      else match (a.value? 'd').bind (fun w => (unescape w).1.head?) with
        | some b => .ok [dividedBy b]
        | none =>
          if (a.value? 'I').isSome then (items (fun _ => false) none none input).map fun found => [found]
          else if (size 'L').isSome then
            ((Utility.linesOf input).filter (· ≠ [])).mapM (items isBlank none none)
          else (items isBlank none none input).map fun found => [found]
    match found with
    | .error text => modify (Utility.fail "xargs" 1 (bytesOf text))
    | .ok lines =>
      let all := lines.flatten
      let limit := (size 's').getD usualSize
      let batch (count : Nat) : Batch := ⟨max count 1, limit, sizeOf command⟩
      let grouped (count : Nat) (items : List Bytes) : List (List Bytes) :=
        ((batch count).of items).map (command ++ ·)
      let short := all.takeWhile fun item => sizeOf command + item.length < limit
      let isWhole := short.length = all.length
      let calls : List (List Bytes) := match a.value? 'I', size 'n', size 'L' with
        | some mark, _, _ => all.map fun item => command.map fun w => replaced mark item (w.length + 1) w
        | none, some n, _ => grouped n short
        | none, none, some n =>
          (List.range ((lines.length + n - 1) / max n 1)).flatMap fun i =>
            grouped all.length ((lines.drop (i * n)).take n).flatten
        | none, none, none => grouped all.length short
      let isIdle := all.isEmpty && (a.has 'r' || (a.value? 'I').isSome)
      if isWhole || (a.value? 'I').isSome then
        runEach start (pure ()) (if isIdle then [] else if calls.isEmpty then [command] else calls)
      else
        let isFull := (size 'n').any fun n => short.length % max n 1 = 0
        runEach start (modify (Utility.fail "xargs" 1 (bytesOf "argument line too long")))
          (if isFull then calls else calls.dropLast)

end Launcher
end BenchSweep.Machine.Shell
