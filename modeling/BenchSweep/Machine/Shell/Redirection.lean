/-
  Redirections.

  The words of a redirection are expanded before anything is opened.  A redirection that cannot be carried
  out is refused; those before it stay until the one who asked for them puts the streams back.

  Part of the stand-in for the machine (`Machine/System`).
-/
import BenchSweep.Machine.Shell.Expansion
import BenchSweep.Machine.Shell.Utility.Options

namespace BenchSweep.Machine.Shell

/-- A redirection of which the word is expanded. -/
inductive Target where
  | file (stream : Nat) (opening : Opening) (path : Bytes)
  /-- To where another stream leads, or to nowhere. -/
  | same (stream : Nat) (source : Option Nat)
  | document (stream : Nat) (content : Word)

/-- The stream that is led elsewhere. -/
def Target.stream : Target → Nat
  | .file stream _ _ | .same stream _ | .document stream _ => stream

namespace Redirect

/-- The stream that a word names; none inside for a dash. -/
def streamOf? (word : Bytes) : Option (Option Nat) :=
  match word with
  | [b] => if b = 0x2D then some none else if 0x30 ≤ b ∧ b ≤ 0x39 then some (some (b.toNat - 48)) else none
  | _ => none

/-- Expands the word of a redirection; a document is expanded when it is opened. -/
def target (capture : Capture) : Redirect → Act Target
  | .file stream opening word => return .file stream opening (← expandValue capture word)
  | .document stream content => return .document stream content
  | .same stream word => do
    match streamOf? (← expandValue capture word) with
    | some source => return .same stream source
    | none => Act.abort (bytesOf "Syntax error: Bad fd number") 2

/-- Expands the words of some redirections. -/
def targets (capture : Capture) : List Redirect → Act (List Target)
  | [] => pure []
  | redirect :: rest => do
    let first ← target capture redirect
    let others ← targets capture rest
    return first :: others

end Redirect

/-! ## Opening files -/

/-- Why a file cannot be opened, in words. -/
def openingFault (opening : Opening) (fault : Files.Fault) : String :=
  if fault = .notFound ∨ fault = .notDirectory then
    if opening = .input then "No such file" else "Directory nonexistent"
  else Utility.reasonOf fault

/-- The channel to a file that is to be read. -/
def inputChannel (files : Files) (path : Bytes) : Except Files.Fault Channel :=
  match files.find ⟨path⟩ with
  | .error fault => .error fault
  | .ok ⟨location, .file _ _⟩ => .ok ⟨.file location, 0, false, true, false⟩
  | .ok ⟨_, .directory _⟩ => .ok ⟨.nothing, 0, false, true, false⟩

/-- The channel to a file that is to be written, and the files with it. -/
def outputChannel (files : Files) (opening : Opening) (protect : Bool) (path : Bytes) :
    Except Files.Fault (Channel × Files) := do
  if opening = .replace false ∧ protect ∧ files.isFile ⟨path⟩ then throw .alreadyExists
  let files ← match opening with
    | .replace _ => files.write ⟨path⟩ (.replace [])
    | _ => if files.isFile ⟨path⟩ then .ok files else files.write ⟨path⟩ (.append [])
  let place ← files.find ⟨path⟩
  return (⟨.file place.location, 0, opening = .append, opening = .update, true⟩, files)

/-- Opens the channel to a path. -/
def openChannel (opening : Opening) (path : Bytes) (s : Session) :
    Except Files.Fault (Channel × Session) := do
  let device (writes : Bool) : Channel :=
    ⟨.nothing, 0, false, opening = .input || opening = .update, writes && opening ≠ .input⟩
  if hasBytes path "/dev/null" ∨ hasBytes path "/dev/zero" then return (device true, s)
  else if hasBytes path "/dev/full" then return (device false, s)
  else if opening = .input then return (← inputChannel s.files path, s)
  else
    let (channel, files) ← outputChannel s.files opening s.switches.protect path
    return (channel, { s with files })

/-! ## Carrying out -/

namespace Target

/-- Leads a stream to where another one leads. -/
def share (stream source : Nat) : Act Unit := do
  let s ← get
  match s.streams.lookup source with
  | some i => set { s with streams := (stream, i) :: s.streams.filter (·.1 ≠ stream) }
  | none => Act.abort (bytesOf (toString source ++ ": Bad file descriptor")) 2

/-- Leads a stream to what a path names. -/
def openPath (stream : Nat) (opening : Opening) (path shown : Bytes) : Act Unit := do
  match openChannel opening path (← get) with
  | .ok (channel, s) => set (s.openStream stream channel)
  | .error fault =>
    let action := if opening = .input then "cannot open " else "cannot create "
    Act.abort (bytesOf action ++ shown ++ bytesOf (": " ++ openingFault opening fault)) 2

/-- Leads a stream to what another one is open for: a file is opened once more. -/
def reopen (stream : Nat) (opening : Opening) (source : Nat) (shown : Bytes) : Act Unit := do
  let s ← get
  match s.channel? source with
  | none => openPath stream opening [] shown
  | some (_, ⟨.file location, _, _, _, _⟩) =>
    openPath stream opening (Path.slash :: List.intercalate [Path.slash] location.reverse) shown
  | some _ => share stream source

/-- Carries out a redirection. -/
def apply (capture : Capture) : Target → Act Unit
  | .same stream none => modify (·.closeStream stream)
  | .same stream (some source) => share stream source
  | .document stream content => do
    let channel := Channel.ofBytes (Fragment.value (← expand capture (.value false) content))
    modify (·.openStream stream { channel with writes := false })
  | .file stream opening path =>
    match Session.deviceStream? path with
    | some source => reopen stream opening source path
    | none => openPath stream opening path path

/-- Carries out redirections up to the first one that is refused; whether none is. -/
def applyAll (capture : Capture) (targets : List Target) : Act Bool := do
  match ← Act.attempt (targets.forM (apply capture)) with
  | none => return true
  | some .refused => return false
  | some flow => throw flow

end Target

/-- Leads streams to where they have led before. -/
def Session.restoreStreams (s before : Session) (streams : List Nat) : Session :=
  let kept := s.streams.filter fun e => !streams.contains e.1
  { s with streams := before.streams.filter (fun e => streams.contains e.1) ++ kept }

end BenchSweep.Machine.Shell
