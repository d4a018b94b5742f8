/-
  Shells and their lives.

  A shell reads the commands of a text line by line and runs them, acts on the signals that have come, and
  does what it has been told to do at its end.  How one command is run is a parameter here.

  Part of the stand-in for the machine (`Machine/System`).
-/
import BenchSweep.Machine.Shell.Expansion
import BenchSweep.Machine.Shell.Reader
import BenchSweep.Machine.Shell.Signal

namespace BenchSweep.Machine.Shell

/-- A way to run a command; `tested` holds where someone looks at its failure. -/
abbrev Runner := (tested : Bool) → Command → Act Unit

/-! ## Texts -/

/-- Runs the commands of a text from some place on, those that end with a line after those before it. -/
def runRest (run : Runner) (tested : Bool) (source : Reader.Source) : Nat → List Char → Act Unit
  | 0, _ => pure ()
  | fuel + 1, rest => fun s =>
    match Reader.next { source with aliases := s.aliases } rest with
    | .finished => (.ok (), s)
    | .fault line => Act.abort (bytesOf "Syntax error") 2 { s with line }
    | .commands command rest =>
      match run tested command s with
      | (.ok (), s) => runRest run tested source fuel rest s
      | interrupted => interrupted

/-- Runs the commands of a text; where there are none, it succeeds. -/
def runText (run : Runner) (tested : Bool) (text : List Char) : Act Unit := do
  if (Reader.skipLines false text).isEmpty then modify (·.withStatus 0)
  let source := Reader.Source.of [] text
  runRest run tested source source.size text

/-- Runs what has been added to a script while it ran: `source` is the channel from which it is read, and
    `text` what has been read so far. -/
def runAdded (run : Runner) (source : Nat) : Nat → (text : List Char) → Act Unit
  | 0, _ => pure ()
  | fuel + 1, text => do
    let s ← get
    match s.channels[source]? with
    | none => pure ()
    | some channel =>
      let added := (s.contentOf channel).drop channel.position
      if !added.isEmpty then
        let now := { channel with position := channel.position + added.length }
        set { s with channels := s.channels.setIfInBounds source now }
        let rest := Text.Utf8.lossy added
        let whole := Reader.Source.of [] (text ++ rest)
        runRest run false whole whole.size rest
        runAdded run source fuel (text ++ rest)

/-- How often a script may be added to while it runs. -/
def maxAdditions : Nat := 10000

/-- Runs the commands in a file, which is read as far as it goes when they have run. -/
def runFile (run : Runner) (location : Location) (content : Bytes) : Act Unit := do
  let s ← get
  let source := s.channels.size
  set { s with channels := s.channels.push ⟨.file location, content.length, false, true, false⟩ }
  let text := Text.Utf8.lossy content
  runText run false text
  runAdded run source maxAdditions text

/-! ## Signals -/

/-- Runs what is to be done about a signal; the status comes back. -/
def runTrap (run : Runner) (name : String) : Act Unit := do
  let s ← get
  match s.traps.lookup name with
  | none | some [] => pure ()
  | some action =>
    set { s with kept := s.kept.or (some s.status) }
    runText run false (Text.Utf8.lossy action)
    modify fun t => { t with kept := s.kept, status := s.status }

/-- Acts on the signals that have come to the process, if this shell is it. -/
def runPending (run : Runner) : Act Unit := do
  let s ← get
  if !s.pending.isEmpty && s.isProcess then
    let (mine, others) := s.pending.partition (·.1 = s.processId)
    set { s with pending := others }
    mine.forM fun (_, name) => runTrap run name

/-! ## Ends -/

/-- What a shell does at its end, which something may have brought about. -/
def atEnd (run : Runner) (flow : Option Flow) : Act Unit := do
  match flow with
  | some .replaced => pure ()
  | some (.killed process signal) => throw (.killed process signal)
  | _ =>
    let s ← get
    match s.traps.lookup Signal.exitName with
    | none | some [] => pure ()
    | some action =>
      let traps := s.traps.filter (·.1 ≠ Signal.exitName)
      set { s with traps, kept := some s.status, context := none, loops := 0, scopes := [] }
      match ← Act.attempt (runText run false (Text.Utf8.lossy action)) with
      | some (.killed process signal) => throw (.killed process signal)
      | some .exit | some .refused | some .replaced => pure ()
      | _ => modify (·.withStatus s.status)

/-- A shell from its beginning to its end. -/
def live (run : Runner) (act : Act Unit) : Act Unit := do
  let flow ← Act.attempt act
  atEnd run flow

/-- Does something in a shell of its own, which leaves its status. -/
def inShell (run : Runner) (act : Act Unit) : Act Unit := fun s =>
  let (result, inner) := live run act s.inner
  (result, s.after inner)

/-- Bytes as they become part of a word: without zeros, and without the line ends at their end. -/
def asWord (bytes : Bytes) : Bytes :=
  ((bytes.filter (· ≠ 0)).reverse.dropWhile (· = 0x0A)).reverse

/-- The output of a command that runs in a shell of its own. -/
def capture (run : Runner) : Capture := fun body s =>
  let (result, inner) := live run (run false body) (s.inner.openStream 1 (.ofBytes []))
  let output := ((inner.channels[s.channels.size]?).map inner.contentOf).getD []
  let after := { s.after inner with status := s.status, outputStatus := inner.status % 256 }
  (result.map fun _ => asWord output, after)

end BenchSweep.Machine.Shell
