/-
  The words of the command line.

  The options of a run stand in front of the command `show`, which has an option of its own.  A value stands
  behind `=` or is the next word, unless that looks like an option.  A value that is the next word is looked
  at when the next option comes or the words are at their end; so a word that is no option at all is
  reported before the value in front of it.
-/
import BenchSweep.Matrix
import BenchSweep.Path.Basic
import BenchSweep.Text.Terminal

namespace BenchSweep.CommandLine

/-- The options. -/
inductive Flag where
  | matrix
  | config
  | repetitions
  | dryRun
  | summary
  | baseDir
  | version
  | help
deriving DecidableEq, Repr

namespace Flag

/-- The long name of an option. -/
def name : Flag → String
  | .matrix => "matrix"
  | .config => "config"
  | .repetitions => "repetitions"
  | .dryRun => "dry-run"
  | .summary => "summary"
  | .baseDir => "base-dir"
  | .version => "version"
  | .help => "help"

/-- The single letter of an option that has one. -/
def letter? : Flag → Option Char
  | .version => some 'V'
  | .help => some 'h'
  | _ => none

/-- What the value of an option is called, if it takes one. -/
def value? : Flag → Option String
  | .matrix => some "NAME"
  | .config | .summary => some "FILE"
  | .repetitions => some "N"
  | .baseDir => some "DIR"
  | .dryRun | .version | .help => none

/-- The option as messages name it. -/
def label (flag : Flag) : String :=
  "--" ++ flag.name ++ match flag.value? with
    | some value => " <" ++ value ++ ">"
    | none => ""

/-- Whether the word behind a flag may be its value. -/
def takesValue (flag : Flag) : Bool := flag.value?.isSome

end Flag

/-- Where on the command line a word stands. -/
inductive Place where
  | run
  | showing
deriving DecidableEq, Repr

/-- The options that can stand at a place. -/
def Place.flags : Place → List Flag
  | .run => [.matrix, .config, .repetitions, .dryRun, .summary, .baseDir, .help, .version]
  | .showing => [.matrix, .help]

/-- The option of a long name. -/
def Place.flag? (place : Place) (name : String) : Option Flag := place.flags.find? (·.name = name)

/-- The option of a single letter. -/
def Place.letter? (place : Place) (letter : Char) : Option Flag :=
  place.flags.find? (·.letter? = some letter)

/-- What is wrong with a command line. -/
inductive Fault where
  | unexpected (word : String)
  | unknownCommand (word : String)
  | valueMissing (flag : Flag)
  | valueUnneeded (value : String) (flag : Flag)
  | valueInvalid (value : String) (flag : Flag) (reason : String)
  | repeated (flag : Flag)
  | conflict (flag other : Flag)
deriving DecidableEq, Repr

/-- A value that is not to be had, in the colour of errors. -/
def marked (value : String) : String := s!"\x1b[33m{value}\x1b[0m"

/-- What is put to a terminal about a fault. -/
def Fault.notice (fault : Fault) : String :=
  (match fault with
    | .unexpected word => s!"unexpected argument '{marked word}' found"
    | .unknownCommand word => s!"unrecognized subcommand '{marked word}'"
    | .valueMissing flag => s!"a value is required for '{flag.label}' but none was supplied"
    | .valueUnneeded value flag =>
      s!"unexpected value '{marked value}' for '{flag.label}' found; no more were expected"
    | .valueInvalid value flag reason => s!"invalid value '{marked value}' for '{flag.label}': {reason}"
    | .repeated flag => s!"the argument '{flag.label}' cannot be used multiple times"
    | .conflict flag other => s!"the argument '{flag.label}' cannot be used with '{other.label}'") ++
  "\n\nFor more information, try '\x1b[1m--help\x1b[0m'.\n"

/-- The first line of the notice, as it is shown where there is no terminal. -/
def Fault.message (fault : Fault) : String := Text.firstLine (Text.withoutControls fault.notice)

/-- How a run is to be done. -/
structure Options where
  matrices : List Matrix := []
  config : Option Path := none
  repetitions : Option UInt32 := none
  dryRun : Bool := false
  summary : Option Path := none
  baseDir : Option Path := none
deriving DecidableEq, Repr, Inhabited

/-- What there is help on: the program, or one of its commands. -/
inductive Topic where
  | program
  | show
  | help
deriving DecidableEq, Repr

/-- What the option for help asks for at a place. -/
def Place.topic : Place → Topic
  | .run => .program
  | .showing => .show

/-- What a command line asks for. -/
inductive Task where
  | run (options : Options)
  | showPlan (matrix : Matrix)
  | version
  | help (topic : Topic)
deriving DecidableEq, Repr

/-! ## Values -/

/-- The number of 64 bits that digits spell behind those of `n`.  The first character that is no digit, or
    with which the number no longer fits, is what is wrong. -/
def digits64? (negative : Bool) (n : Int) : List Char → Except String Int
  | [] => .ok n
  | c :: r =>
    let digit : Int := (c.toNat - 48 : Nat)
    let next := if negative then 10 * n - digit else 10 * n + digit
    if !c.isDigit then .error "invalid digit found in string"
    else if Int64.maxValue.toInt < next then .error "number too large to fit in target type"
    else if next < Int64.minValue.toInt then .error "number too small to fit in target type"
    else digits64? negative next r

/-- The number of repetitions that a text is. -/
def repetitions? (text : String) : Except String UInt32 := do
  let (negative, digits) := match text.toList with
    | '-' :: r => (true, r)
    | '+' :: r => (false, r)
    | r => (false, r)
  if text.isEmpty then throw "cannot parse integer from empty string"
  if digits.isEmpty then throw "invalid digit found in string"
  let value ← digits64? negative 0 digits
  if 0 ≤ value ∧ value < UInt32.size then return UInt32.ofNat value.toNat
  else throw s!"{value} is not in 0..=4294967295"

/-- A path that is given; it must not be empty. -/
def path? (flag : Flag) (text : String) : Except Fault Path :=
  if text.isEmpty then .error (.valueMissing flag) else .ok (.ofString text)

/-! ## Reading -/

/-- The words that are read so far. -/
structure Reading where
  options : Options := {}
  /-- The options that were given, the first one in front. -/
  given : List Flag := []
  /-- An option whose value is still to come, or is not looked at yet. -/
  pending : Option (Flag × Option String) := none

namespace Reading

/-- Whether an option may be given more than once. -/
def mayRepeat (place : Place) (flag : Flag) : Bool := place == .run && flag == .matrix

/-- Takes an option with its value. -/
def take (place : Place) (r : Reading) (flag : Flag) (value : String) : Except Fault Reading := do
  if r.given.contains flag ∧ !mayRepeat place flag then throw (.repeated flag)
  let r := if r.given.contains flag then r else { r with given := r.given ++ [flag] }
  let o := r.options
  match flag with
  | .matrix =>
    match Matrix.ofName value with
    | .ok matrix => return { r with options := { o with matrices := o.matrices ++ [matrix] } }
    | .error unknown => throw (.valueInvalid value flag unknown.message)
  | .repetitions =>
    match repetitions? value with
    | .ok n => return { r with options := { o with repetitions := some n } }
    | .error reason => throw (.valueInvalid value flag reason)
  | .config => return { r with options := { o with config := some (← path? flag value) } }
  | .summary => return { r with options := { o with summary := some (← path? flag value) } }
  | .baseDir => return { r with options := { o with baseDir := some (← path? flag value) } }
  | .dryRun => return { r with options := { o with dryRun := true } }
  | .version | .help => return r

/-- Looks at the value of the option that is pending. -/
def settle (place : Place) (r : Reading) : Except Fault Reading :=
  match r.pending with
  | none => .ok r
  | some (flag, none) => .error (.valueMissing flag)
  | some (flag, some value) => { r with pending := none }.take place flag value

/-- Two options that exclude each other, the one that was given first in front. -/
def conflict? (r : Reading) : Option Fault :=
  match r.given.filter (fun flag => flag == .matrix || flag == .config) with
  | first :: second :: _ => some (.conflict first second)
  | _ => none

end Reading

/-- The kinds of words. -/
inductive Word where
  /-- Two dashes, after which no word is an option. -/
  | separator
  | long (name : String) (value : Option String)
  | short (letter : Char)
  | plain (text : String)
deriving DecidableEq, Repr

/-- A word by its form: dashes in front make it a flag. -/
def Word.ofText (text : String) : Word :=
  match text.toList with
  | ['-', '-'] => .separator
  | '-' :: '-' :: r =>
    match r.dropWhile (· ≠ '=') with
    | [] => .long (String.ofList r) none
    | _ :: value => .long (String.ofList (r.takeWhile (· ≠ '='))) (some (String.ofList value))
  | '-' :: c :: _ => .short c
  | _ => .plain text

/-- What comes of an option: the words go on, or they are at their end. -/
inductive Step where
  | reading (r : Reading)
  | done (task : Task)

/-- Takes an option, with a value if one was attached. -/
def takeFlag (place : Place) (r : Reading) (flag : Flag) (value : Option String) : Except Fault Step := do
  match flag.takesValue, value with
  | true, some value => return .reading (← (← r.settle place).take place flag value)
  | true, none => return .reading { ← r.settle place with pending := some (flag, none) }
  | false, some value => throw (.valueUnneeded value flag)
  | false, none =>
    let r ← r.settle place
    match flag with
    | .version => return .done .version
    | .help => return .done (.help place.topic)
    | _ => return .reading (← r.take place flag "")

/-- A word that no option can take. -/
def strayWord (place : Place) (word : String) : Fault :=
  if place = .showing ∨ word = "show" ∨ word = "help" then .unexpected word else .unknownCommand word

/-- What the words behind `help` ask for: they are to name a command, which has no commands of its own. -/
def helpOn : List String → Except Fault Task
  | [] => .ok (.help .program)
  | word :: rest =>
    if word = "show" ∨ word = "help" then
      match rest with
      | [] => .ok (.help (if word = "show" then .show else .help))
      | stray :: _ => .error (.unknownCommand stray)
    else .error (.unknownCommand word)

/-- Reads the words to their end; a command ends the reading of a run's options. -/
def readWords (place : Place) (r : Reading) : List String →
    Except Fault (Reading × Option Task × List String)
  | [] => .ok (r, none, [])
  | word :: rest =>
    let next (step : Except Fault Step) : Except Fault (Reading × Option Task × List String) :=
      match step with
      | .error fault => .error fault
      | .ok (.done task) => .ok (r, some task, [])
      | .ok (.reading r) => readWords place r rest
    match Word.ofText word with
    | .separator =>
      match rest with
      | [] => .ok (r, none, [])
      | stray :: _ => .error (strayWord place stray)
    | .long name value =>
      match place.flag? name with
      | some flag => next (takeFlag place r flag value)
      | none => .error (.unexpected ("--" ++ name))
    | .short letter =>
      match place.letter? letter with
      | some flag => next (takeFlag place r flag none)
      | none => .error (.unexpected (String.ofList ['-', letter]))
    | .plain text =>
      match r.pending with
      | some (flag, none) => readWords place { r with pending := some (flag, some text) } rest
      | _ =>
        if place = .run ∧ text = "show" then .ok (r, none, text :: rest)
        else if place = .run ∧ text = "help" then (helpOn rest).map fun task => (r, some task, [])
        else .error (if place = .run then .unknownCommand text else .unexpected text)

/-- The words behind `show`. -/
def readShow (words : List String) : Except Fault Task := do
  let (r, task, _) ← readWords .showing {} words
  match task with
  | some task => return task
  | none =>
    let r ← r.settle .showing
    return .showPlan (r.options.matrices.head?.getD .general)

/-- What a command line asks for. -/
def read (words : List String) : Except Fault Task := do
  let (r, task, rest) ← readWords .run {} words
  match task with
  | some task => return task
  | none =>
    let shown ← match rest with
      | _ :: words => some <$> readShow words
      | [] => pure none
    let r ← r.settle .run
    if let some fault := r.conflict? then throw fault
    match shown with
    | some task => return task
    | none => return .run r.options

end BenchSweep.CommandLine
