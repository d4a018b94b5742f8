/-
  Commands that change what the shell knows: variables, switches and arguments.

  Part of the stand-in for the machine (`Machine/System`).
-/
import BenchSweep.Machine.Shell.Builtin.Basic

namespace BenchSweep.Machine.Shell.Builtin

/-! ## Variables

  Names are checked before values, and a variable that must not change stops the command at the word that
  would change it; the words before it have had their effect. -/

/-- Exports or protects variables, or lists those that are. -/
def declare (name : String) (chosen : Variable → Bool)
    (change : Session → String → Option Bytes → Session) (words : List Bytes) : Act Unit := do
  let (letters, operands) ← options name "p" words
  if operands.isEmpty ∨ letters ≠ [] then
    emit name (listed (name ++ " ") ((← get).bindings.filter chosen)) 0
  else
    for word in operands do
      let (target, value) := nameAndValue word
      demandName name target
      if value.isSome then demandChangeable name target
      modify fun s => change s target value
    leave 0

/-- Forgets variables or functions. -/
def unset (words : List Bytes) : Act Unit := do
  let (letters, operands) ← options "unset" "fv" words
  for word in operands do
    let name := textOf word
    if letters.getLast? = some 'f' then
      modify fun s => { s with functions := s.functions.filter (·.1 ≠ name) }
    else
      demandName "unset" name
      demandChangeable "unset" name
      modify (·.unset name)
  leave 0

/-- Keeps the values of variables for the end of the function. -/
def keepLocal (words : List Bytes) : Act Unit := do
  if (← get).scopes.isEmpty then refuse "local" (bytesOf "not in a function")
  for word in words do
    let (name, value) := nameAndValue word
    -- the switches are not kept
    if name = "-" then pure ()
    else
      demandName "local" name
      if value.isSome then demandChangeable "local" name
      modify fun s =>
        let s := s.keep name
        match value with
        | some value => s.assignAnew name value
        | none => s
  leave 0

/-! ## Switches and arguments

  Options turn switches, and what follows them becomes the arguments.  The word `--` makes a list of
  arguments even if nothing follows. -/

/-- The names of the switches, with their letters. -/
def switchNames : List (String × Option Char) :=
  [("errexit", some 'e'), ("noglob", some 'f'), ("ignoreeof", some 'I'), ("interactive", some 'i'),
    ("monitor", some 'm'), ("noexec", some 'n'), ("stdin", some 's'), ("xtrace", some 'x'),
    ("verbose", some 'v'), ("vi", some 'V'), ("emacs", some 'E'), ("noclobber", some 'C'),
    ("allexport", some 'a'), ("notify", some 'b'), ("nounset", some 'u'), ("privileged", some 'p'),
    ("nolog", none), ("debug", none)]

/-- Turns a switch on or off; those without meaning for scripts stay off. -/
def Switches.turn? (w : Switches) (letter : Char) (on : Bool) : Option Switches :=
  match letter with
  | 'e' => some { w with stopOnFailure := on }
  | 'f' => some { w with noPaths := on }
  | 'n' => some { w with onlyRead := on }
  | 'x' => some { w with trace := on }
  | 'C' => some { w with protect := on }
  | 'a' => some { w with exportAll := on }
  | 'u' => some { w with onlySet := on }
  | 'v' => some { w with verbose := on }
  | 'I' | 'i' | 'm' | 's' | 'V' | 'E' | 'b' | 'p' => some w
  | _ => none

/-- Turns a switch on or off, if there is one with the letter. -/
def turn (letter : Char) (on : Bool) : Act Unit := do
  let s ← get
  match Switches.turn? s.switches letter on with
  | some switches => set { s with switches }
  | none => refuse "set" (bytesOf ("Illegal option " ++ (if on then "-" else "+") ++ String.ofList [letter]))

/-- The switches with their names. -/
def listSwitches (commands : Bool) : Act Unit := do
  let s ← get
  let isOn (letter : Option Char) : Bool := letter.any fun c => s.switchLetters.toList.contains c
  let line (name : String) (letter : Option Char) : String :=
    if commands then "set " ++ (if isOn letter then "-o " else "+o ") ++ name ++ "\n"
    else name ++ String.ofList (List.replicate (16 - name.length) ' ') ++
      (if isOn letter then "on" else "off") ++ "\n"
  let lines := switchNames.map fun (name, letter) => line name letter
  emit "set" (bytesOf ((if commands then "" else "Current option settings\n") ++ String.join lines)) 0

/-- Turns the switches that letters name; each `o` among them takes a name from the words. -/
def turnLetters (on : Bool) : List Char → List Bytes → Act (List Bytes)
  | [], words => return words
  | 'o' :: letters, words => do
    match words with
    | [] =>
      listSwitches (!on)
      turnLetters on letters []
    | word :: rest =>
      match switchNames.lookup (textOf word) with
      | some letter =>
        match letter with
        | some c => turn c on
        | none => pure ()
        turnLetters on letters rest
      | none => refuse "set" (bytesOf ("Illegal option " ++ (if on then "-o " else "+o ")) ++ word)
  | c :: letters, words => do
    turn c on
    turnLetters on letters words

/-- Carries out the options in front; the arguments that are to be set, if some are. -/
def turnAll : Nat → List Bytes → Act (Option (List Bytes))
  | 0, _ => return none
  | _, [] => return none
  | fuel + 1, word :: rest => do
    match Text.Utf8.lossy word with
    | ['-'] =>
      -- a dash alone ends the options and turns tracing off
      turn 'x' false
      turn 'v' false
      return if rest.isEmpty then none else some rest
    | ['-', '-'] => return some rest
    | '-' :: letters => turnAll fuel (← turnLetters true letters rest)
    | '+' :: letters => turnAll fuel (← turnLetters false letters rest)
    | _ => return some (word :: rest)

/-- Turns switches, sets the arguments, or lists the variables. -/
def setCommand (words : List Bytes) : Act Unit := do
  if words.isEmpty then emit "set" (listed "" ((← get).bindings.filter (·.value.isSome))) 0
  else
    match ← turnAll words.length words with
    | some arguments =>
      modify fun s => { s with arguments, optionIndex := 1, optionOffset := none }
    | none => pure ()
    leave 0

end BenchSweep.Machine.Shell.Builtin
