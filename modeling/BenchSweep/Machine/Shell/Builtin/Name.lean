/-
  Commands for what names stand for.

  Part of the stand-in for the machine (`Machine/System`).
-/
import BenchSweep.Machine.SearchPath
import BenchSweep.Machine.Shell.Builtin.Basic

namespace BenchSweep.Machine.Shell.Builtin

/-- The words that begin and end commands. -/
def keywords : List String :=
  ["!", "\x7b", "\x7d", "case", "do", "done", "elif", "else", "esac", "fi", "for", "if", "in", "then",
    "until", "while"]

/-- The search path of a session. -/
def searchPath (s : Session) : Bytes := (s.valueOf? "PATH").getD (bytesOf "/nowhere")

/-! ## Programs on the search path -/

/-- The number of the first path that names a file which may be executed, among paths with their numbers.
    What is known of an absolute path holds wherever the working directory is. -/
def firstEntry (files : Files) (known : Option Nat) : List (Path × Nat) → (held : Machine.Refusal) →
    Except Machine.Refusal Nat
  | [], held => .error held
  | (p, i) :: rest, held =>
    if p.isAbsolute && known.any (i < ·) then firstEntry files known rest held
    else if p.isAbsolute && known == some i then .ok i
    else match Machine.contentOf files p with
      | .ok _ => .ok i
      | .error refusal => firstEntry files known rest (if refusal.isMissing then held else refusal)

/-- The number of the entry of a search path at which a program is found, which the shell keeps if it is its
    own search path; for a path, which is not looked for, it is 0. -/
def entryOf (path name : Bytes) : Act (Except Machine.Refusal Nat) := do
  let s ← get
  let among (known : Option Nat) : Except Machine.Refusal Nat :=
    firstEntry s.files known (Machine.candidates path ⟨name⟩).zipIdx (.file .notFound)
  if name.contains Path.slash then return .ok 0
  else if path ≠ searchPath s ∨ (s.functions.lookup (textOf name)).isSome then return among none
  else match s.found.find? (·.name = name) with
    | some ⟨_, entry, false⟩ => return .ok entry
    | known =>
      let result := among (known.map Found.entry)
      let others := s.found.filter (·.name ≠ name)
      let now : List Found := result.toOption.toList.map fun entry => ⟨name, entry, false⟩
      set { s with found := others ++ now }
      return result

/-- The path of a program at an entry of the search path. -/
def pathAt (s : Session) (name : Bytes) (entry : Nat) : Bytes :=
  ((Machine.candidates (searchPath s) ⟨name⟩)[entry]?.map Path.bytes).getD name

/-- The place of a name among the programs that are kept, which are shown in this order. -/
def slotOf (name : Bytes) : Nat :=
  let start := (name.headD 0).toNat * 16
  (name.foldl (fun n b => n + b.toNat) start) % 32768 % 31

/-- Forgets, looks for or writes where commands are. -/
def hash (words : List Bytes) : Act Unit := do
  let (letters, operands) ← options "hash" "rv" words
  if letters.contains 'r' then
    modify fun s => { s with found := [] }
    leave 0
  else if operands.isEmpty then
    let s ← get
    let kept := s.found.mergeSort fun a b => slotOf a.name ≤ slotOf b.name
    emit "hash" (kept.flatMap fun f =>
      pathAt s f.name f.entry ++ (if f.stale then bytesOf "*" else []) ++ [0x0A]) 0
  else
    leave 0
    for word in operands do
      let s ← get
      let name := textOf word
      if !(Reader.specialCommands.contains name || (s.functions.lookup name).isSome ||
          regularCommands.contains name) then
        set { s with found := s.found.filter (·.name ≠ word) }
        match ← entryOf (searchPath s) word with
        | .ok _ => pure ()
        | .error refusal =>
          warn "hash" (word ++ bytesOf (if refusal.isMissing then ": not found" else ": Permission denied"))
          leave 1

/-! ## What names stand for -/

/-- What a name stands for as a command, in the words of `type` or, when `brief`, as it is called; none for
    a name that stands for nothing. -/
def describe (brief : Bool) (word : Bytes) : Act (Option Bytes) := do
  let s ← get
  let name := textOf word
  let answer (text : String) : Act (Option Bytes) :=
    return some (if brief then word else word ++ bytesOf (" " ++ text))
  let program (text : String) (path : Bytes) : Act (Option Bytes) :=
    return some (if brief then path else word ++ bytesOf (" " ++ text ++ " ") ++ path)
  if keywords.contains name then answer "is a shell keyword"
  else if let some value := s.aliases.lookup name then
    let shown := quoted (Text.Utf8.encode value)
    return some (if brief then bytesOf "alias " ++ word ++ 0x3D :: shown
      else word ++ bytesOf " is an alias for " ++ Text.Utf8.encode value)
  else if Reader.specialCommands.contains name then answer "is a special shell builtin"
  else if (s.functions.lookup name).isSome then answer "is a shell function"
  else if regularCommands.contains name then answer "is a shell builtin"
  else if word.contains Path.slash then
    if s.files.pathExists ⟨word⟩ then program "is" word else return none
  else if let some f := s.found.find? (·.name = word) then
    program "is a tracked alias for" (pathAt s word f.entry)
  else match ← entryOf (searchPath s) word with
    | .ok entry => program "is" (pathAt s word entry)
    | .error _ => return none

/-- Says for each word what it stands for as a command. -/
def type (words : List Bytes) : Act Unit := do
  leave 0
  for word in words do
    match ← describe false word with
    | some text => modify (·.print (text ++ [0x0A]))
    | none =>
      modify fun s => (s.print (word ++ bytesOf ": not found\n")).withStatus 127

/-- Sets or writes words that stand for others. -/
def aliasCommand (words : List Bytes) : Act Unit := do
  let line (name : String) (value : List Char) : Bytes :=
    bytesOf (name ++ "=") ++ quoted (Text.Utf8.encode value) ++ [0x0A]
  if words.isEmpty then
    emit "alias" (((← get).aliases.map fun (name, value) => line name value).flatten) 0
  else
    leave 0
    for word in words do
      let s ← get
      match nameAndValue word with
      | (name, some value) =>
        set { s with aliases := (name, Text.Utf8.lossy value) :: s.aliases.filter (·.1 ≠ name) }
      | (name, none) =>
        match s.aliases.lookup name with
        | some value => set (s.print (line name value))
        | none => set ((s.complain ("alias: " ++ name ++ " not found")).withStatus 1)

/-- Forgets such words. -/
def unalias (words : List Bytes) : Act Unit := do
  let (letters, operands) ← options "unalias" "a" words
  leave 0
  if letters ≠ [] then modify fun s => { s with aliases := [] }
  for word in operands do
    let s ← get
    let name := textOf word
    if (s.aliases.lookup name).isSome then set { s with aliases := s.aliases.filter (·.1 ≠ name) }
    else set ((s.complain ("unalias: " ++ name ++ " not found")).withStatus 1)

end BenchSweep.Machine.Shell.Builtin
