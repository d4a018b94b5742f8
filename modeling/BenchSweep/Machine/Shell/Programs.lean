/-
  Running programs.

  Whatever is started, it comes down to a program of the system.  The shell is one of them, and so are those
  that start others.

  Part of the stand-in for the machine (`Machine/System`).
-/
import BenchSweep.Machine.Shell.Builtin
import BenchSweep.Machine.Shell.Finding
import BenchSweep.Machine.Shell.Utility

namespace BenchSweep.Machine.Shell

/-! ## The shell as a program -/

/-- Where programs are looked for when nothing is said about it. -/
def usualPath : Bytes := bytesOf "/usr/local/sbin:/usr/local/bin:/usr/sbin:/usr/bin:/sbin:/bin"

/-- Sets what a shell knows from its beginning. -/
def Session.asShell (s : Session) : Session :=
  let parent := (s.outerTraps.head?.map Prod.fst).getD 1
  let s := [("IFS", " \t\n"), ("OPTIND", "1"), ("PS1", "# "), ("PS2", "> "), ("PS4", "+ "),
    ("PPID", toString parent)].foldl (fun s (name, value) => s.bind ⟨name, some (bytesOf value), false, false⟩) s
  let s := if (s.valueOf? "PATH").isSome then s else s.assign "PATH" usualPath
  s.exportAs "PWD" (some (Builtin.currentPath s))

/-- How a shell is called: whether a text of commands is among the words, whether the commands are its
    input, and the other words. -/
structure Invocation where
  hasText : Bool
  readsInput : Bool
  operands : List Bytes

/-- Turns the switches on or off that the letters of a word name. -/
def invocationLetters (on : Bool) : List Char → Invocation → List Bytes → Act (Invocation × List Bytes)
  | [], i, rest => return (i, rest)
  | 'c' :: letters, i, rest => invocationLetters on letters { i with hasText := true } rest
  | 's' :: letters, i, rest => invocationLetters on letters { i with readsInput := true } rest
  | 'l' :: letters, i, rest => invocationLetters on letters i rest
  | 'o' :: letters, i, rest => do
    match (Builtin.switchNames.lookup (textOf (rest.headD []))).join with
    | some letter =>
      modify fun s =>
        { s with switches := (Builtin.Switches.turn? s.switches letter on).getD s.switches }
      invocationLetters on letters i rest.tail
    | none => Act.abort (bytesOf "Illegal option -o " ++ rest.headD []) 2
  | letter :: letters, i, rest => do
    let s ← get
    match Builtin.Switches.turn? s.switches letter on with
    | some switches =>
      set { s with switches }
      invocationLetters on letters i rest
    | none => Act.abort (bytesOf ("Illegal option " ++ (if on then "-" else "+") ++ String.ofList [letter])) 2

/-- Reads the words with which a shell is called. -/
def invocation : Nat → Invocation → List Bytes → Act Invocation
  | 0, i, _ => return i
  | _, i, [] => return i
  | fuel + 1, i, word :: rest => do
    match Text.Utf8.lossy word with
    | ['-'] | ['-', '-'] => return { i with operands := rest }
    | '-' :: letters =>
      let (i, rest) ← invocationLetters true letters i rest
      invocation fuel i rest
    | '+' :: letters =>
      let (i, rest) ← invocationLetters false letters i rest
      invocation fuel i rest
    | _ => return { i with operands := word :: rest }

/-- Runs the commands that a shell is to run, when its name and arguments are set. -/
def runInvocation (run : Runner) (i : Invocation) : Act Unit := do
  let s ← get
  match i.hasText, i.readsInput, i.operands with
  | true, _, [] => Act.abort (bytesOf "-c requires an argument") 2
  | true, _, text :: rest =>
    set { s with calledAs := rest.headD s.calledAs, arguments := rest.tail }
    runText run false (Text.Utf8.lossy text)
  | false, false, file :: rest =>
    match s.files.find ⟨file⟩ with
    | .ok ⟨location, .file content _⟩ =>
      set { s with calledAs := file, arguments := rest }
      runFile run location content
    | _ => Act.abort (bytesOf "cannot open " ++ file ++ bytesOf ": No such file") 2
  | false, _, words =>
    let (input, s) := s.takeAll 0
    set { s with arguments := words }
    runText run false (Text.Utf8.lossy input)

/-- The shell as a program with words. -/
def shell (run : Runner) (words : List Bytes) : Act Unit :=
  live run do
    modify fun s => { s.asShell with arguments := [], line := 0 }
    let i ← invocation words.length ⟨false, false, []⟩ words
    runInvocation run i

/-! ## Programs -/

/-- How many programs may start one another without a shell between them. -/
def maxLaunchers : Nat := 64

/-- What a program of the system does, in its own process. -/
def program (run : Runner) : Nat → Machine.Started → Act Unit
  | 0, _ => modify (·.withStatus 126)
  | depth + 1, started => do
    let start : Starter := fun s words =>
      (Machine.call s.files s.environment ((s.valueOf? "PATH").getD (bytesOf "/bin:/usr/bin")) words).map
        (program run depth)
    let words := started.words.tail
    modify fun s => { s with calledAs := started.words.headD [] }
    match started.name with
    | "sh" | "dash" | "bash" => shell run words
    | "env" => Launcher.env start words
    | "nice" => Launcher.nice start words
    | "nohup" => Launcher.plainly start "nohup" (Utility.spec "" "" []) words
    | "setsid" =>
      Launcher.plainly start "setsid" (Utility.spec "cfw" "" [("wait", 'w'), ("fork", 'f')]) words
    | "stdbuf" =>
      Launcher.plainly start "stdbuf"
        (Utility.spec "" "ioe" [("input", 'i'), ("output", 'o'), ("error", 'e')]) words
    | "ionice" =>
      Launcher.plainly start "ionice" (Utility.spec "t" "cn" [("class", 'c'), ("classdata", 'n')]) words
    | "timeout" => Launcher.timeout start words
    | "xargs" => Launcher.xargs start words
    | "find" => Finding.find start words
    | "kill" =>
      match ← Act.attempt (Builtin.kill words) with
      | some .refused => modify (·.withStatus 1)
      | flow => Act.resume flow
    | name => modify (Utility.run name words)

/-- Runs a program of the system as another process. -/
def runProcess (run : Runner) (started : Machine.Started) : Act Ending :=
  asProcess (program run maxLaunchers started)

end BenchSweep.Machine.Shell
