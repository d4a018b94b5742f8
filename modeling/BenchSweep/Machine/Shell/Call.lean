/-
  What the words of a simple command call.

  A name stands for a command of the language itself, a function, another command that the shell carries out
  by itself, or a program, in this order.  The word `command` passes functions over.

  Part of the stand-in for the machine (`Machine/System`).
-/
import BenchSweep.Machine.Shell.Builtin

namespace BenchSweep.Machine.Shell

/-! ## What words call -/

/-- What the first word of a command stands for. -/
inductive Callee where
  /-- There is no word. -/
  | nothing
  /-- A command of the language itself. -/
  | special (name : String)
  | function (body : Command)
  /-- Another command that the shell carries out by itself. -/
  | regular (name : String)
  | program (name : Bytes)

/-- A command whose words are expanded. -/
structure Call where
  callee : Callee
  arguments : List Bytes
  /-- Functions are passed over, and a refusal does not end the shell. -/
  guarded : Bool
  /-- The program is looked for where programs usually are. -/
  usual : Bool

/-- What the first word of a command stands for: a special command, a function, a command of the shell or a
    program. -/
def calleeOf (s : Session) (guarded : Bool) (word : Bytes) : Callee :=
  let name := textOf word
  if Reader.specialCommands.contains name then .special name
  else match if guarded then none else s.functions.lookup name with
    | some body => .function body
    | none => if Builtin.regularCommands.contains name then .regular name else .program word

/-- The words behind `command` and its options, and whether the usual path is asked for; none when the
    options want something else or no word is left. -/
def behindCommand : List Bytes → Bool → Option (List Bytes × Bool)
  | [], _ => none
  | word :: rest, usual =>
    if hasBytes word "--" then if rest.isEmpty then none else some (rest, usual)
    else if word.head? = some 0x2D ∧ 1 < word.length then
      if word.tail.all (· = 0x70) then behindCommand rest true else none
    else some (word :: rest, usual)

/-- Follows `command` in front of words, with at most `fuel` of them. -/
def callWithin (s : Session) : Nat → (guarded usual : Bool) → List Bytes → Call
  | _, guarded, usual, [] => ⟨.nothing, [], guarded, usual⟩
  | 0, guarded, usual, word :: rest => ⟨calleeOf s guarded word, rest, guarded, usual⟩
  | fuel + 1, guarded, usual, word :: rest =>
    let callee := calleeOf s guarded word
    match callee with
    | .regular "command" =>
      match behindCommand rest usual with
      | some (words, usual) => callWithin s fuel true usual words
      | none => ⟨callee, rest, guarded, usual⟩
    | _ => ⟨callee, rest, guarded, usual⟩

/-- What words call. -/
def callOf (s : Session) (words : List Bytes) : Call := callWithin s words.length false false words

/-- Whether a refusal in the command ends the shell. -/
def Call.isFatal (call : Call) : Bool :=
  match call.callee with
  | .special _ => !call.guarded
  | _ => false

/-- Whether redirections stay. -/
def Call.isLasting (call : Call) : Bool :=
  match call.callee with
  | .special "exec" => true
  | _ => false

/-- Whether assignments in front of the words are for the command alone. -/
def Call.isScoped (call : Call) : Bool :=
  match call.callee with
  | .nothing => false
  | .special _ => call.guarded
  | _ => true

/-- Whether the command takes assignments as arguments; none when the words so far do not tell. -/
def declares? (s : Session) (words : List Bytes) : Option Bool :=
  match (callOf s words).callee with
  | .nothing => none
  | .special name => some (["export", "readonly", "local"].contains name)
  | .regular "command" => none
  | .regular name => some (name = "alias")
  | _ => some false

/-! ## Words and assignments -/

/-- The fields of arguments; for some commands assignments among them are values. -/
def expandArguments (capture : Capture) (assigning : Bool) : List Word → Act (List Bytes)
  | [] => pure []
  | word :: rest => do
    let first ← if assigning && word.isAssignment then do pure [← expandValue capture word]
      else expandWord capture word
    let others ← expandArguments capture assigning rest
    return first ++ others

/-- The fields of the words of a command, of which some are known. -/
def expandCommand (capture : Capture) (found : List Bytes) : List Word → Act (List Bytes)
  | [] => pure found
  | word :: rest => do
    match declares? (← get) found with
    | some assigning => return found ++ (← expandArguments capture assigning (word :: rest))
    | none =>
      let fields ← expandWord capture word
      expandCommand capture (found ++ fields) rest

/-- Carries out assignments, for a command alone when they are `passing`; how they are shown. -/
def assignAll (capture : Capture) (passing : Bool) : List (String × Word) → Act (List Bytes)
  | [] => pure []
  | (name, word) :: rest => do
    let value ← expandValue capture word
    if passing then
      if (← get).isReadOnly name then Act.abort (bytesOf (name ++ ": is read only")) 2
      modify fun s => (s.keep name).exportAs name (some value)
    else setVariable name value
    let others ← assignAll capture passing rest
    return (bytesOf (name ++ "=") ++ value) :: others

/-- Shows a command on the stream of errors, as it leads somewhere with the given streams. -/
def showCommand (streams : List (Nat × Nat)) (words : List Bytes) : Act Unit :=
  modify fun s =>
    if s.switches.trace then
      let start := (s.valueOf? "PS4").getD (bytesOf "+ ")
      let shown := { s with streams := streams }.put? 2 (start ++ Session.spaced words ++ [0x0A])
      { shown.getD s with streams := s.streams }
    else s

end BenchSweep.Machine.Shell
