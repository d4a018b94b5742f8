/-
  Running commands.

  `step` carries out one command and is told how commands within it are run; `run` ties the knot, with
  fuel for how deep commands and scripts are nested.  A command that fails ends the shell when it is told
  to stop on failure and nobody looks at the failure.

  Part of the stand-in for the machine (`Machine/System`).
-/
import BenchSweep.Machine.Shell.Call
import BenchSweep.Machine.Shell.Programs
import BenchSweep.Machine.Shell.Redirection

namespace BenchSweep.Machine.Shell

/-! ## Failure and redirection -/

/-- Ends the shell after a failure, if it is to stop then. -/
def checkFailure (tested : Bool) : Act Unit := do
  let s ← get
  if !tested && s.switches.stopOnFailure && s.status != 0 then throw .exit

/-- Does something with redirections, which end with it unless they are `lasting`; something else is done
    when one is refused. -/
def withTargets (capture : Capture) (lasting : Bool) (targets : List Target) (refused act : Act Unit) :
    Act Unit := do
  if targets.isEmpty then act
  else
    let before ← get
    let restore (s : Session) : Session := s.restoreStreams before (targets.map Target.stream)
    if ← Target.applyAll capture targets then
      let flow ← Act.attempt act
      if !lasting then modify restore
      Act.resume flow
    else
      modify restore
      refused

/-! ## Functions and programs -/

/-- How deep functions may call one another. -/
def maxCalls : Nat := 1000

/-- Runs the body of a function with arguments. -/
def callFunction (run : Runner) (tested : Bool) (body : Command) (arguments : List Bytes) : Act Unit := do
  let s ← get
  if maxCalls < s.scopes.length then
    Act.abort (bytesOf "Maximum function recursion depth (1000) reached") 2
  set { s with arguments, loops := 0, optionIndex := 1, optionOffset := none }
  let flow ← Act.attempt (run tested body)
  modify fun t =>
    { t with
      arguments := s.arguments, loops := s.loops, optionIndex := s.optionIndex
      optionOffset := s.optionOffset }
  match flow with
  | some .leaveCall => pure ()
  | flow => Act.resume flow

/-- Why a program is not started, as the shell says it. -/
def reasonFor (refusal : Machine.Refusal) : String :=
  if refusal.isMissing then "not found" else reasonOf refusal

/-- The status when a program that was found is not started. -/
def unstartedStatus (refusal : Machine.Refusal) : Nat :=
  match refusal with
  | .file .notFound | .file .notDirectory | .file .nameTooLong | .tooManyInterpreters => 127
  | _ => 126

/-- Whether a byte stands in no text. -/
def isForeign (b : UInt8) : Bool := (b < 0x20 && !(0x09 ≤ b && b ≤ 0x0F) && b ≠ 0x1B) || b = 0x7F

/-- Whether a content that is no image is to be read by the shell: its first line, of which so much is looked
    at, must be text. -/
def isText (content : Bytes) : Bool := !((content.take 128).takeWhile (· ≠ 0x0A)).any isForeign

/-- What it comes to when a program is started, from some entry of a search path on if it is a bare name. -/
def startFrom (s : Session) (path : Bytes) (entry : Nat) (words : List Bytes) :
    Except Machine.Refusal Machine.Started :=
  let name : Path := ⟨words.headD []⟩
  let start (p : Path) : Except Machine.Refusal Machine.Started :=
    match Machine.contentOf s.files p with
    | .ok content =>
      if isText content then Machine.startOrRead s.files s.environment words p
      else Machine.start s.files s.environment words p
    | .error refusal => .error refusal
  if name.bytes.contains Path.slash then start name
  else Machine.firstOf start ((Machine.candidates path name).drop entry) (.file .notFound)

/-- Runs a program beside the shell and waits for its end. -/
def runProgram (run : Runner) (usual : Bool) (name : Bytes) (arguments : List Bytes) : Act Unit := do
  let complain (refusal : Machine.Refusal) (status : Nat) : Act Unit :=
    modify fun s => (s.report (name ++ bytesOf (": " ++ reasonFor refusal))).withStatus status
  let s ← get
  let path := if usual then usualPath else Builtin.searchPath s
  match ← Builtin.entryOf path name with
  | .error refusal => complain refusal 127
  | .ok entry =>
    match startFrom (← get) path entry (name :: arguments) with
    | .error refusal => complain refusal (unstartedStatus refusal)
    | .ok started =>
      match ← runProcess run started with
      | .killed signal =>
        match Signal.description? signal with
        | some text => modify (·.complain text)
        | none => pure ()
      | _ => pure ()

/-- Runs a program in the place of the shell. -/
def replaceShell (run : Runner) (words : List Bytes) : Act Unit := do
  let s ← get
  match startFrom s (Builtin.searchPath s) 0 words with
  | .error refusal =>
    let text := words.headD [] ++ bytesOf (": " ++ reasonFor refusal)
    set ((s.reportAs (bytesOf "exec") text).withStatus (unstartedStatus refusal))
    throw .exit
  | .ok started =>
    if s.isProcess then
      set { s.child with processId := s.processId, outerTraps := s.outerTraps }
      Shell.program run maxLaunchers started
    else let _ ← runProcess run started
    throw .replaced

/-! ## Commands that run commands -/

/-- Does something in whose name complaints are. -/
def inContext (name : Bytes) (act : Act Unit) : Act Unit := do
  let context := (← get).context
  modify fun s => { s with context := some name }
  let flow ← Act.attempt act
  modify fun s => { s with context }
  Act.resume flow

/-- The path of a file with commands: a bare name is looked for on the search path. -/
def sourcePath? (s : Session) (name : Bytes) : Option Path :=
  if name.contains Path.slash then some ⟨name⟩
  else
    (Machine.candidates (Builtin.searchPath s) ⟨name⟩).find? s.files.isFile

/-- Runs the commands of a file in this shell. -/
def source (run : Runner) (words : List Bytes) : Act Unit := do
  let words := if words.head?.any (hasBytes · "--") then words.tail else words
  match words with
  | [] => Builtin.leave 0
  | name :: _ =>
    let s ← get
    match sourcePath? s name with
    | none => Builtin.refuse "." (name ++ bytesOf ": not found")
    | some p =>
      match s.files.find p with
      | .error fault =>
        Builtin.refuse "." (bytesOf "cannot open " ++ p.bytes ++ bytesOf (": " ++ openingFault .input fault))
      | .ok place =>
        let act := match place.node with
          | .file content _ => runFile run place.location content
          | .directory _ => Builtin.leave 0
        match ← Act.attempt (inContext p.bytes act) with
        | some .leaveCall => pure ()
        | flow => Act.resume flow

/-- Tells what names stand for as commands. -/
def describeAll (words : List Bytes) : Act Unit := do
  let opts := words.takeWhile fun w => w.head? = some 0x2D && 1 < w.length && !hasBytes w "--"
  let names := (words.drop opts.length).dropWhile (hasBytes · "--")
  let brief := !opts.flatten.contains 0x56
  Builtin.leave 0
  for word in names.take 1 do
    match ← Builtin.describe brief word with
    | some text => Builtin.emit "command" (text ++ [0x0A]) 0
    | none =>
      if !brief then modify (·.print (word ++ bytesOf ": not found\n"))
      Builtin.leave 127

/-- Carries out a command of the shell. -/
def runBuiltin (run : Runner) (tested : Bool) (name : String) (arguments : List Bytes) : Act Unit :=
  match name with
  | "eval" =>
    inContext (bytesOf "eval") (runText run tested (Text.Utf8.lossy (Session.spaced arguments)))
  | "." => source run arguments
  | "exec" =>
    match if arguments.head?.any (hasBytes · "--") then arguments.tail else arguments with
    | [] => Builtin.leave 0
    | words => replaceShell run words
  | "command" => describeAll arguments
  | _ => (Builtin.command? name arguments).getD (Builtin.leave 0)

/-- Carries out a command of the shell; the one who calls it goes on after a refusal. -/
def runGuarded (act : Act Unit) : Act Unit := do
  match ← Act.attempt act with
  | some .refused => pure ()
  | flow => Act.resume flow

/-- Carries out a call. -/
def runCall (run : Runner) (tested : Bool) (call : Call) : Act Unit :=
  match call.callee with
  | .nothing => modify fun s => s.withStatus s.outputStatus
  | .special name =>
    let act := runBuiltin run tested name call.arguments
    if call.guarded then runGuarded act else act
  | .regular name => runGuarded (runBuiltin run tested name call.arguments)
  | .function body => callFunction run tested body call.arguments
  | .program name => runProgram run call.usual name call.arguments

/-- Does something in a scope of variables. -/
def inScope (act : Act Unit) : Act Unit := do
  modify Session.openScope
  let flow ← Act.attempt act
  modify Session.closeScope
  Act.resume flow

/-- A simple command. -/
def runSimple (run : Runner) (tested : Bool) (line : Nat) (assignments : List (String × Word))
    (words : List Word) (redirects : List Redirect) : Act Unit := do
  modify fun s => { s with line, outputStatus := 0 }
  let capture := capture run
  let fields ← expandCommand capture [] words
  let call := callOf (← get) fields
  let targets ← Redirect.targets capture redirects
  let streams := (← get).streams
  let act : Act Unit := do
    let shown ← assignAll capture call.isScoped assignments
    if call.isLasting && !call.arguments.isEmpty then
      assignments.forM fun (name, _) => modify (·.exportAs name none)
    showCommand streams (shown ++ fields)
    runCall run tested call
  withTargets capture call.isLasting targets (if call.isFatal then throw .refused else pure ())
    (if call.isScoped then inScope act else act)
  checkFailure tested

/-! ## Loops and branches -/

/-- How a round of a loop has come to its end. -/
inductive Round where
  | completed
  /-- The next round is to begin. -/
  | skipped
  /-- The loop is to end. -/
  | ended
deriving DecidableEq, Repr

/-- Runs a part of a loop. -/
def runRound (run : Runner) (tested : Bool) (command : Command) : Act Round := do
  let s ← get
  set { s with loops := s.loops + 1 }
  let flow ← Act.attempt (run tested command)
  modify fun t => { t with loops := s.loops }
  match flow with
  | none => return .completed
  | some (.leaveLoop n) => if n ≤ 1 then return .ended else throw (.leaveLoop (n - 1))
  | some (.nextRound n) => if n ≤ 1 then return .skipped else throw (.nextRound (n - 1))
  | some flow => throw flow

/-- A loop that goes on while the condition's success is `wanted`, for at most so many rounds. -/
def runLoop (run : Runner) (tested wanted : Bool) (condition body : Command) :
    (rounds : Nat) → (status : Nat) → Act Unit
  | 0, _ => fun s => (.error (.killed s.processId 9), s)
  | rounds + 1, status => fun s =>
    match runRound run true condition s with
    | (.error flow, s) => (.error flow, s)
    | (.ok .ended, s) => (.ok (), s.withStatus status)
    | (.ok .skipped, s) => runLoop run tested wanted condition body rounds status s
    | (.ok .completed, s) =>
      if (s.status == 0) != wanted then (.ok (), s.withStatus status)
      else match runRound run tested body s with
        | (.error flow, s) => (.error flow, s)
        | (.ok .ended, s) => (.ok (), s)
        | (.ok _, s) => runLoop run tested wanted condition body rounds s.status s

/-- How many rounds a loop may take. -/
def maxRounds : Nat := 1000000

/-- A loop over values. -/
def runEach (run : Runner) (tested : Bool) (name : String) (body : Command) :
    List Bytes → (status : Nat) → Act Unit
  | [], status => modify (·.withStatus status)
  | value :: rest, _ => fun s =>
    match (do setVariable name value; runRound run tested body : Act Round) s with
    | (.error flow, s) => (.error flow, s)
    | (.ok .ended, s) => (.ok (), s)
    | (.ok _, s) => runEach run tested name body rest s.status s

/-- Whether one of some patterns stands for a value. -/
def anyMatches (capture : Capture) (value : Bytes) : List Word → Act Bool
  | [] => return false
  | word :: rest => do
    let pattern ← expandPattern capture word
    if pattern.matchesAll value then return true else anyMatches capture value rest

/-- The first branch that has a pattern for the subject. -/
def runSelect (run : Runner) (tested : Bool) (subject : Bytes) : List (List Word × Command) → Act Unit
  | [] => modify (·.withStatus 0)
  | (patterns, body) :: rest => do
    if ← anyMatches (capture run) subject patterns then run tested body
    else runSelect run tested subject rest

/-! ## Shells of their own -/

/-- One command of several, of which each reads what the one before it has put out; what it puts out, if
    that is kept. -/
def runStage (run : Runner) (tested : Bool) (input : Option Bytes) (keeps : Bool) (command : Command) :
    Act Bytes := fun s =>
  let fed := input.elim s.inner fun bytes => s.inner.openStream 0 (.ofBytes bytes)
  let opened := if keeps then fed.openStream 1 (.ofBytes []) else fed
  let (result, inner) := live run (run tested command) opened
  let output := ((inner.channels[fed.channels.size]?).map inner.contentOf).getD []
  (result.map fun _ => if keeps then output else [], s.after inner)

/-- Commands of which each reads what the one before it puts out. -/
def runPiped (run : Runner) (tested : Bool) (input : Option Bytes) : List Command → Act Unit
  | [] => pure ()
  | [last] => do let _ ← runStage run tested input false last
  | first :: rest => do
    let output ← runStage run tested input true first
    runPiped run tested (some output) rest

/-- A command beside the shell, which comes to its end before the shell goes on. -/
def runBeside (run : Runner) (command : Command) : Act Unit := do
  let s ← get
  set { s with nextProcess := s.nextProcess + 1 }
  inShell run do
    modify (·.openStream 0 ⟨.nothing, 0, false, true, false⟩)
    run false command
  modify fun t =>
    let others := t.jobs.filter fun job => !job.waited
    { t with jobs := ⟨s.nextProcess, t.status, false⟩ :: others, status := 0 }

/-- A compound command with redirections. -/
def runRedirected (run : Runner) (tested : Bool) (command : Command) (redirects : List Redirect) :
    Act Unit := do
  let capture := capture run
  match command with
  | .subshell _ body =>
    inShell run do
      let targets ← Redirect.targets capture redirects
      if ← Target.applyAll capture targets then run tested body else throw .refused
    checkFailure tested
  | _ =>
    let targets ← Redirect.targets capture redirects
    withTargets capture false targets (checkFailure tested) (run tested command)

/-! ## Commands -/

/-- Commands one after the other. -/
def runAll (run : Runner) (tested : Bool) : List Command → Act Unit
  | [] => pure ()
  | command :: rest => fun s =>
    match run tested command s with
    | (.ok (), s) => runAll run tested rest s
    | interrupted => interrupted

/-- Carries out a command; those within it are run by `run`. -/
def carryOut (run : Runner) (tested : Bool) : Command → Act Unit
  | .simple line assignments words redirects => runSimple run tested line assignments words redirects
  | .define name body =>
    modify fun s =>
      { s with functions := (name, body) :: s.functions.filter (·.1 ≠ name), status := 0 }
  | .sequence [] => modify (·.withStatus 0)
  | .sequence commands => runAll run tested commands
  | .both first second => do
    run true first
    if (← get).status = 0 then run tested second
  | .either first second => do
    run true first
    if (← get).status ≠ 0 then run tested second
  | .negated command => do
    run true command
    modify fun s => s.withStatus (if s.status = 0 then 1 else 0)
  | .piped commands => do
    runPiped run tested none commands
    checkFailure tested
  | .background command => runBeside run command
  | .choice condition yes no => do
    run true condition
    if (← get).status = 0 then run tested yes else run tested no
  | .loop wanted condition body => runLoop run tested wanted condition body maxRounds 0
  | .each line name words body => do
    modify fun s => { s with line }
    let values ← match words with
      | some words => expandWords (capture run) words
      | none => do pure (← get).arguments
    runEach run tested name body values 0
  | .select line subject branches => do
    modify fun s => { s with line }
    let value ← expandValue (capture run) subject
    runSelect run tested value branches
  | .redirected line command redirects => do
    modify fun s => { s with line }
    runRedirected run tested command redirects
  | .subshell line command => do
    modify fun s => { s with line }
    inShell run (run tested command)
    checkFailure tested

/-- Carries out a command, unless commands are only read, and acts on the signals that have come. -/
def step (run : Runner) (tested : Bool) (command : Command) : Act Unit := do
  if !(← get).switches.onlyRead then
    carryOut run tested command
    runPending run

/-- Runs a command; what is nested deeper than the fuel allows ends the process. -/
def run : Nat → Runner
  | 0, _, _ => fun s => (.error (.killed s.processId 9), s)
  | fuel + 1, tested, command => step (run fuel) tested command

/-! ## Programs by themselves -/

/-- How deep commands and scripts may be nested. -/
def maxDepth : Nat := 20000

/-- What a program leaves behind. -/
structure Remains where
  ending : Ending
  files : Files
  /-- What it has put out. -/
  output : Bytes

/-- A process of which the programs have files and variables, and put their output into memory. -/
def Session.first (files : Files) (environment : List (String × Bytes)) : Session :=
  { files
    channels := #[⟨.nothing, 0, false, true, false⟩, .ofBytes [], .ofBytes []]
    streams := [(0, 0), (1, 1), (2, 2)]
    bindings := environment.map fun (name, value) => ⟨name, some value, true, false⟩
    functions := [], aliases := [], found := [], calledAs := [], arguments := [], status := 0, line := 0
    switches := .off, traps := [], processId := firstProcess, nextProcess := firstProcess + 1
    outerTraps := [], pending := [], kept := none, context := none, loops := 0, scopes := [], jobs := []
    optionIndex := 1, optionOffset := none, mask := 0o022, limits := Limit.usual, outputStatus := 0 }

/-- Runs a program to its end. -/
def execute (files : Files) (environment : Machine.Environment) (started : Machine.Started) : Remains :=
  let (result, s) := runProcess (run maxDepth) started (Session.first files environment)
  let ending := match result with
    | .ok ending => ending
    | .error _ => .exited s.status
  ⟨ending, s.files, s.written 1⟩

end BenchSweep.Machine.Shell
