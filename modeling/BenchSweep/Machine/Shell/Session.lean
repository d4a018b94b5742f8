/-
  The state of a running shell.

  What the shell reads and writes goes through channels.  A channel is an open file, or text in memory; a
  stream is a number under which a command knows a channel, and several streams may share one.  A shell
  that another one starts shares its files and channels and has everything else for itself.

  Part of the stand-in for the machine (`Machine/System`).
-/
import BenchSweep.Files.Operations
import BenchSweep.Machine.Shell.Script

namespace BenchSweep.Machine.Shell

/-! ## Parts of the state -/

/-- What a channel leads to. -/
inductive Medium where
  | file (location : Location)
  | memory (content : Bytes)
  /-- What is written vanishes, and there is nothing to read. -/
  | nothing
deriving DecidableEq, Repr

/-- An open file or text: where it is read or written next, and what may be done with it. -/
structure Channel where
  medium : Medium
  position : Nat
  /-- Whether what is written goes to the end. -/
  appends : Bool
  reads : Bool
  writes : Bool
deriving DecidableEq, Repr

/-- Text in memory, to be read from its beginning and written at its end. -/
def Channel.ofBytes (content : Bytes) : Channel := ⟨.memory content, 0, true, true, true⟩

/-- A variable, and whether the programs that the shell starts see it.  It may be known without a value. -/
structure Variable where
  name : String
  value : Option Bytes
  exported : Bool
  readOnly : Bool
deriving DecidableEq, Repr

/-- What can be switched on. -/
structure Switches where
  /-- A command that fails ends the script. -/
  stopOnFailure : Bool
  /-- Patterns in words are not replaced by the names of files. -/
  noPaths : Bool
  /-- Commands are read and not run. -/
  onlyRead : Bool
  /-- Commands are shown before they run. -/
  trace : Bool
  /-- Redirections do not empty files that are there. -/
  protect : Bool
  /-- Variables that are set are seen by programs. -/
  exportAll : Bool
  /-- A parameter that is not set ends the script. -/
  onlySet : Bool
  /-- Lines are shown when they are read. -/
  verbose : Bool
deriving DecidableEq, Repr

/-- No switch is on. -/
def Switches.off : Switches := ⟨false, false, false, false, false, false, false, false⟩

/-- A command that runs beside the shell: its number, the status with which it ends, and whether the shell
    has waited for that. -/
structure Job where
  number : Nat
  status : Nat
  waited : Bool
deriving DecidableEq, Repr

/-- A limit on what processes take: a soft one, which holds, and a hard one, up to which it may be raised.
    There may be none. -/
structure Limit where
  letter : Char
  title : String
  /-- The unit in which it is told. -/
  unit : Nat
  soft : Option Nat
  hard : Option Nat
deriving DecidableEq, Repr

/-- The limits of a system. -/
def Limit.usual : List Limit :=
  let free (letter : Char) (title : String) (unit : Nat) : Limit := ⟨letter, title, unit, none, none⟩
  [free 't' "time(seconds)" 1, free 'f' "file(blocks)" 512, free 'd' "data(kbytes)" 1024,
    ⟨'s', "stack(kbytes)", 1024, some 8388608, none⟩, free 'c' "coredump(blocks)" 512,
    free 'm' "memory(kbytes)" 1024, ⟨'l', "locked memory(kbytes)", 1024, some 8388608, some 8388608⟩,
    free 'p' "process" 1, ⟨'n', "nofiles" , 1, some 1048576, some 1048576⟩, free 'v' "vmemory(kbytes)" 1024,
    free 'w' "locks" 1, ⟨'r', "rtprio", 1, some 0, some 0⟩]

/-- A program that the shell has found, with the number of the entry of the search path that has it, and
    whether the working directory has changed since. -/
structure Found where
  name : Bytes
  entry : Nat
  stale : Bool
deriving DecidableEq, Repr

/-- A running shell. -/
structure Session where
  files : Files
  channels : Array Channel
  /-- The numbers of the streams, with the channels to which they lead. -/
  streams : List (Nat × Nat)
  bindings : List Variable
  functions : List (String × Command)
  aliases : List (String × List Char)
  /-- The programs that the shell has found on its search path, which it does not look for again. -/
  found : List Found
  /-- The name by which the script or the program was called. -/
  calledAs : Bytes
  arguments : List Bytes
  /-- The status of the last command. -/
  status : Nat
  /-- The line of the command that runs. -/
  line : Nat
  switches : Switches
  /-- What is done when a signal comes, or at the end (under the name `EXIT`). -/
  traps : List (String × Bytes)
  /-- The number of the process that runs the script, which commands know. -/
  processId : Nat
  /-- The next number of a process. -/
  nextProcess : Nat
  /-- What other processes, by their numbers, do about signals.  The one that runs the script is among them
      when this shell is not itself that process, but one that it has started. -/
  outerTraps : List (Nat × List (String × Bytes))
  /-- Signals that have come, with the processes that have to act on them. -/
  pending : List (Nat × String)
  /-- The status from before the action for a signal or for the end, while one runs. -/
  kept : Option Nat
  /-- The command that carries out others, in whose name complaints are. -/
  context : Option Bytes
  /-- How many loops are around the command. -/
  loops : Nat
  /-- For each function that runs, the variables that come back when it ends, as they were. -/
  scopes : List (List (String × Option Variable))
  jobs : List Job
  /-- The word in which `getopts` looks for the next option, and how far that word is read, if it is. -/
  optionIndex : Nat
  optionOffset : Option Nat
  mask : Nat
  limits : List Limit
  /-- The status of the last commands whose output a word has taken. -/
  outputStatus : Nat

/-- What interrupts the commands one after the other. -/
inductive Flow where
  /-- The shell ends. -/
  | exit
  /-- A command is refused, which ends the shell unless the one who called the command goes on. -/
  | refused
  /-- Another program has run in the place of the shell. -/
  | replaced
  /-- A signal ends a process. -/
  | killed (process signal : Nat)
  /-- So many loops around the command end. -/
  | leaveLoop (loops : Nat)
  /-- The loop so many loops around the command goes on with its next round. -/
  | nextRound (loops : Nat)
  /-- The function or the file that runs ends. -/
  | leaveCall
deriving DecidableEq, Repr

/-- What a shell does: a change of its state that gives a value, or is interrupted. -/
abbrev Act := ExceptT Flow (StateM Session)

/-- Bytes are those of a text. -/
def hasBytes (s : Bytes) (text : String) : Bool := s = bytesOf text

/-- Bytes as a text, with marks for what is none. -/
def textOf (s : Bytes) : String := String.ofList (Text.Utf8.lossy s)

namespace Session

/-- The number of the first process. -/
def firstProcess : Nat := 4242

/-- The session with another status of the last command. -/
def withStatus (s : Session) (status : Nat) : Session := { s with status }

/-! ## Channels -/

/-- The channel of a stream, with its number, if the stream is open. -/
def channel? (s : Session) (stream : Nat) : Option (Nat × Channel) := do
  let i ← s.streams.lookup stream
  return (i, ← s.channels[i]?)

/-- The session with one more channel, to which a stream leads. -/
def openStream (s : Session) (stream : Nat) (channel : Channel) : Session :=
  { s with
    channels := s.channels.push channel
    streams := (stream, s.channels.size) :: s.streams.filter (·.1 ≠ stream) }

/-- Closes a stream; its channel stays for others. -/
def closeStream (s : Session) (stream : Nat) : Session :=
  { s with streams := s.streams.filter (·.1 ≠ stream) }

/-- What a channel leads to, as a whole. -/
def contentOf (s : Session) (channel : Channel) : Bytes :=
  match channel.medium with
  | .memory content => content
  | .nothing => []
  | .file location =>
    match s.files.node? location with
    | some (.file content _) => content
    | _ => []

/-- A content with bytes in place of what stands at a position. -/
def overwrite (content : Bytes) (position : Nat) (bytes : Bytes) : Bytes :=
  if position = content.length then content ++ bytes
  else
    let before := content.take position
    before ++ List.replicate (position - before.length) 0 ++ bytes ++
      content.drop (position + bytes.length)

/-- Writes bytes to a stream; none when it leads nowhere. -/
def put? (s : Session) (stream : Nat) (bytes : Bytes) : Option Session :=
  if bytes.isEmpty then some s
  else do
    let (i, channel) ← s.channel? stream
    if !channel.writes then none
    else match channel.medium with
      | .nothing => return s
      | .memory content =>
        return { s with channels := s.channels.setIfInBounds i { channel with medium := .memory (content ++ bytes) } }
      | .file location =>
        match s.files.node? location with
        | some (.file old executable) =>
          let position := if channel.appends then old.length else channel.position
          return { s with
            files := s.files.put location (.file (overwrite old position bytes) executable)
            channels := s.channels.setIfInBounds i { channel with position := position + bytes.length } }
        | _ => return s

/-- Writes to the stream of results; what cannot be written is lost. -/
def print (s : Session) (bytes : Bytes) : Session := (s.put? 1 bytes).getD s

/-- Writes a line to the stream of errors. -/
def complain (s : Session) (text : String) : Session :=
  (s.put? 2 (bytesOf (text ++ "\n"))).getD s

/-- What is left to read from a stream; none when it cannot be read. -/
def unread? (s : Session) (stream : Nat) : Option Bytes := do
  let (_, channel) ← s.channel? stream
  if !channel.reads then none
  else return (s.contentOf channel).drop channel.position

/-- Counts bytes of a stream as read. -/
def advance (s : Session) (stream : Nat) (n : Nat) : Session :=
  match s.channel? stream with
  | some (i, channel) =>
    { s with channels := s.channels.setIfInBounds i { channel with position := channel.position + n } }
  | none => s

/-- Changes where the channels to some files lead. -/
def withMedia (s : Session) (change : Location → Medium) : Session :=
  { s with channels := s.channels.map fun channel =>
      match channel.medium with
      | .file location => { channel with medium := change location }
      | _ => channel }

/-- Keeps the contents of files that are open at a location, or below it, in memory: what stands there goes
    away, and those who have it open go on with it. -/
def keepOpen (s : Session) (location : Location) : Session :=
  s.withMedia fun l =>
    if location.isSuffixOf l then
      .memory (match s.files.node? l with
        | some (.file content _) => content
        | _ => [])
    else .file l

/-- Lets those who have files open at a location, or below it, follow them to another place. -/
def followOpen (s : Session) (old new : Location) : Session :=
  s.withMedia fun l => .file (if old.isSuffixOf l then l.take (l.length - old.length) ++ new else l)

/-- Takes away what stands at a location. -/
def remove (s : Session) (location : Location) : Session :=
  { s.keepOpen location with files := s.files.erase location }

/-- All that is left to read from a stream, which is read then. -/
def takeAll (s : Session) (stream : Nat) : Bytes × Session :=
  let bytes := (s.unread? stream).getD []
  (bytes, s.advance stream bytes.length)

/-- Lets the last bytes that were read from a file be read again; what does not come from a file is gone. -/
def giveBack (s : Session) (stream : Nat) (n : Nat) : Session :=
  match s.channel? stream with
  | some (i, ⟨.file location, position, appends, reads, writes⟩) =>
    let before : Channel := ⟨.file location, position - n, appends, reads, writes⟩
    { s with channels := s.channels.setIfInBounds i before }
  | _ => s

/-- The stream whose path among the devices this is. -/
def deviceStream? (path : Bytes) : Option Nat :=
  match textOf path with
  | "/dev/stdin" => some 0
  | "/dev/stdout" => some 1
  | "/dev/stderr" => some 2
  | _ =>
    let start := bytesOf "/dev/fd/"
    if start.isPrefixOf path then (textOf (path.drop start.length)).toNat? else none

/-- What has been written to a stream in memory. -/
def written (s : Session) (stream : Nat) : Bytes :=
  ((s.channel? stream).map fun (_, channel) => s.contentOf channel).getD []

/-! ## Variables -/

/-- What is known of a variable. -/
def binding? (s : Session) (name : String) : Option Variable := s.bindings.find? (·.name = name)

/-- The value of a variable. -/
def valueOf? (s : Session) (name : String) : Option Bytes := (s.binding? name).bind Variable.value

/-- Whether a variable must not change. -/
def isReadOnly (s : Session) (name : String) : Bool := (s.binding? name).any Variable.readOnly

/-- Forgets where programs are when the search path changes. -/
def forgetFor (s : Session) (name : String) : Session := if name = "PATH" then { s with found := [] } else s

/-- Puts a variable in the place of the one with its name. -/
def bind (s : Session) (v : Variable) : Session :=
  { s.forgetFor v.name with bindings := v :: s.bindings.filter (·.name ≠ v.name) }

/-- Sets a variable; one that is seen by programs stays so. -/
def assign (s : Session) (name : String) (value : Bytes) : Session :=
  let old := s.binding? name
  s.bind ⟨name, some value, s.switches.exportAll || old.any Variable.exported, old.any Variable.readOnly⟩

/-- Sets a variable, which for `OPTIND` begins a new search for options. -/
def assignAnew (s : Session) (name : String) (value : Bytes) : Session :=
  let s := s.assign name value
  if name = "OPTIND" then
    let n := ((textOf value).toNat?).getD 1
    { s with optionIndex := max n 1, optionOffset := none }
  else s

/-- Makes a variable one that programs see, with a value if one is given. -/
def exportAs (s : Session) (name : String) (value : Option Bytes) : Session :=
  let old := s.binding? name
  s.bind ⟨name, value.or (old.bind Variable.value), true, old.any Variable.readOnly⟩

/-- Protects a variable, with a value if one is given. -/
def protectAs (s : Session) (name : String) (value : Option Bytes) : Session :=
  let old := s.binding? name
  s.bind ⟨name, value.or (old.bind Variable.value), old.any Variable.exported, true⟩

/-- Forgets a variable. -/
def unset (s : Session) (name : String) : Session :=
  { s.forgetFor name with bindings := s.bindings.filter (·.name ≠ name) }

/-- The variables that programs see. -/
def environment (s : Session) : List (String × Bytes) :=
  s.bindings.filterMap fun v => if v.exported then v.value.map (v.name, ·) else none

/-- Opens a scope: variables that are kept from now on come back when it is closed. -/
def openScope (s : Session) : Session := { s with scopes := [] :: s.scopes }

/-- Keeps a variable in the scope that was opened last. -/
def keep (s : Session) (name : String) : Session :=
  match s.scopes with
  | [] => s
  | scope :: outer =>
    if scope.any (·.1 = name) then s
    else { s with scopes := ((name, s.binding? name) :: scope) :: outer }

/-- Closes the scope that was opened last. -/
def closeScope (s : Session) : Session :=
  match s.scopes with
  | [] => s
  | scope :: outer =>
    scope.foldl (fun s (name, old) =>
      match old with
      | some v => s.bind v
      | none => s.unset name) { s with scopes := outer }

/-! ## Parameters -/

/-- A number in decimal digits. -/
def decimal (n : Nat) : Bytes := Text.Utf8.encode (Nat.toDigits 10 n)

/-- Arguments with a space between each two. -/
def spaced (words : List Bytes) : Bytes := List.intercalate [0x20] words

/-- The bytes at which words are divided. -/
def separators (s : Session) : Bytes :=
  match s.binding? "IFS" with
  | some v => v.value.getD [0x20, 0x09, 0x0A]
  | none => [0x20, 0x09, 0x0A]

/-- Arguments with the first of the separators between each two. -/
def separated (s : Session) (words : List Bytes) : Bytes :=
  match s.separators with
  | [] => words.flatten
  | b :: _ => List.intercalate [b] words

/-- The letters of what is switched on. -/
def switchLetters (s : Session) : String :=
  let w := s.switches
  String.ofList ([('u', w.onlySet), ('a', w.exportAll), ('C', w.protect), ('v', w.verbose), ('x', w.trace),
    ('n', w.onlyRead), ('f', w.noPaths), ('e', w.stopOnFailure)].filterMap fun (c, on) =>
      if on then some c else none)

/-- The value of a parameter. -/
def parameter? (s : Session) (name : String) : Option Bytes :=
  match name with
  | "#" => some (decimal s.arguments.length)
  | "?" => some (decimal s.status)
  | "$" => some (decimal s.processId)
  | "0" => some s.calledAs
  | "@" | "*" => some (s.separated s.arguments)
  | "-" => some (bytesOf s.switchLetters)
  | "!" => s.jobs.head?.map fun job => decimal job.number
  | _ =>
    match name.toNat? with
    | some n => s.arguments[n - 1]?
    | none => s.valueOf? name

/-! ## Complaints -/

/-- Writes a complaint with the name of the script, the line of the command and a name, if one is given. -/
def reportAs (s : Session) (name : Option Bytes) (text : Bytes) : Session :=
  let place := s.calledAs ++ bytesOf (": " ++ toString s.line ++ ": ")
  let named := (name.map (· ++ bytesOf ": ")).getD []
  (s.put? 2 (place ++ named ++ text ++ [0x0A])).getD s

/-- Writes a complaint. -/
def report (s : Session) (text : Bytes) : Session := s.reportAs s.context text

/-! ## Shells that a shell starts -/

/-- Whether the shell is the process that runs the script. -/
def isProcess (s : Session) : Bool := !s.outerTraps.any (·.1 = s.processId)

/-- What processes do about signals, the shell's own among them. -/
def allTraps (s : Session) : List (Nat × List (String × Bytes)) :=
  if s.isProcess then (s.processId, s.traps) :: s.outerTraps else s.outerTraps

/-- A shell that `s` starts for commands of its own script. -/
def inner (s : Session) : Session :=
  { s with traps := s.traps.filter (·.2 = []), outerTraps := s.allTraps }

/-- Another process that `s` starts, which has the variables that programs see. -/
def child (s : Session) : Session :=
  { s.inner with
    bindings := s.bindings.filter fun v => v.exported && v.value.isSome
    functions := []
    aliases := []
    found := []
    status := 0
    switches := .off
    processId := s.nextProcess
    nextProcess := s.nextProcess + 1
    kept := none
    context := none
    loops := 0
    scopes := []
    jobs := []
    optionIndex := 1
    optionOffset := none
    outputStatus := 0 }

/-- The session `s` after a shell or another process that it has started: files and channels are shared. -/
def after (s inner : Session) : Session :=
  { s with
    files := { inner.files with workingDirectory := s.files.workingDirectory }
    channels := inner.channels.shrink s.channels.size
    pending := inner.pending
    nextProcess := inner.nextProcess
    status := inner.status % 256 }

end Session

/-- The integer that a word is, with blanks around it. -/
def integer? (s : Bytes) : Option Int :=
  let isSpace (b : UInt8) : Bool := b = 0x20 || (0x09 ≤ b && b ≤ 0x0D)
  let trimmed := ((s.dropWhile isSpace).reverse.dropWhile isSpace).reverse
  let (negative, digits) := match trimmed with
    | 0x2D :: r => (true, r)
    | 0x2B :: r => (false, r)
    | r => (false, r)
  if digits ≠ [] ∧ digits.all (fun b => 0x30 ≤ b && b ≤ 0x39) then
    let n : Nat := digits.foldl (fun (n : Nat) b => 10 * n + (b.toNat - 48)) 0
    some (if negative then -(n : Int) else n)
  else none

/-! ## What a shell does -/

namespace Act

/-- Refuses a command with a complaint and a status. -/
def abort {α : Type} (text : Bytes) (status : Nat) : Act α := do
  modify fun s => (s.report text).withStatus status
  throw .refused

/-- Runs an act and gives what has interrupted it, if something has. -/
def attempt (act : Act Unit) : Act (Option Flow) := fun s =>
  match act s with
  | (.ok (), s) => (.ok none, s)
  | (.error flow, s) => (.ok (some flow), s)

/-- Goes on with what has interrupted an act, if something has. -/
def resume : Option Flow → Act Unit
  | none => pure ()
  | some flow => throw flow

end Act

end BenchSweep.Machine.Shell
