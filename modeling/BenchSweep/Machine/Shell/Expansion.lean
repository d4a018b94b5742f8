/-
  Expanding words.

  The pieces of a word become fragments, which know where fields may be divided and which bytes have no
  meaning in patterns; `fields` divides them, and `paths` replaces a field that is a pattern by the paths
  that it stands for.  Where a word is to be one value, nothing is divided and nothing replaced.

  Part of the stand-in for the machine (`Machine/System`).
-/
import BenchSweep.Machine.Shell.Arithmetic
import BenchSweep.Machine.Shell.Pattern

namespace BenchSweep.Machine.Shell

/-- A part of an expanded word. -/
inductive Fragment where
  /-- Bytes; separators among them divide fields when `splits` holds, and they have no patterns when
      `literal` holds. -/
  | bytes (bytes : Bytes) (splits literal : Bool)
  /-- The end of a field. -/
  | fieldBreak
deriving DecidableEq, Repr

namespace Fragment

/-- Where the division into fields stands. -/
structure Division where
  /-- The fields that are complete, the last one in front. -/
  done : List Marked
  /-- The field that is open. -/
  current : Option Marked
  /-- Whether blanks have ended the last field, so that a separator behind them belongs to its end. -/
  ended : Bool

/-- No field is there and none is open. -/
def Division.start : Division := ⟨[], none, false⟩

/-- Adds bytes to the open field, and opens one if none is. -/
def Division.add (d : Division) (bytes : Marked) : Division :=
  { d with current := some (d.current.getD [] ++ bytes), ended := false }

/-- Ends the field that is open, if one is. -/
def Division.close (d : Division) : Division :=
  { done := d.current.toList ++ d.done, current := none, ended := d.current.isSome || d.ended }

/-- A byte that divides fields when it is a separator: blanks count once however many they are, and every
    other separator ends a field, which may be empty. -/
def Division.step (separators : Bytes) (literal : Bool) (d : Division) (b : UInt8) : Division :=
  if !separators.contains b then d.add [(b, literal)]
  else if b = 0x20 ∨ b = 0x09 ∨ b = 0x0A then d.close
  else if d.current.isSome then { d.close with ended := false }
  else if d.ended then { d with ended := false }
  else { d with done := [] :: d.done }

/-- One fragment more. -/
def Division.take (separators : Bytes) (d : Division) : Fragment → Division
  | .fieldBreak => { d.close with ended := false }
  | .bytes bs true literal => bs.foldl (Division.step separators literal) d
  | .bytes bs false literal => d.add (bs.map (·, literal))

/-- The fields of a word. -/
def fields (separators : Bytes) (fragments : List Fragment) : List Marked :=
  (fragments.foldl (Division.take separators) .start).close.done.reverse

/-- A word as one value. -/
def value (fragments : List Fragment) : Bytes :=
  fragments.flatMap fun
    | .bytes bs _ _ => bs
    | .fieldBreak => []

/-- A word as a pattern. -/
def pattern (fragments : List Fragment) : Pattern :=
  Pattern.ofMarked <| fragments.flatMap fun
    | .bytes bs _ literal => bs.map (·, literal)
    | .fieldBreak => []

end Fragment

/-! ## Paths -/

/-- Whether one byte string stands before another one in order. -/
def precedes : Bytes → Bytes → Bool
  | _, [] => false
  | [], _ :: _ => true
  | a :: r, b :: s => a < b || (a = b && precedes r s)

/-- Byte strings in order. -/
def inOrder (words : List Bytes) : List Bytes := words.mergeSort fun a b => !precedes b a

/-- The names in a directory. -/
def entryNames (files : Files) (directory : Bytes) : List Bytes :=
  match files.find ⟨if directory.isEmpty then [Path.dot] else directory⟩ with
  | .ok ⟨_, .directory entries⟩ => entries.map Prod.fst
  | _ => []

/-- The paths that begin with `before` and go on with parts for which a pattern stands, the parts divided
    by slashes. -/
def pathsFrom (files : Files) (before : Bytes) : List Marked → List Bytes
  | [] => if files.pathExists ⟨before⟩ then [before] else []
  | part :: rest =>
    let pattern := Pattern.ofMarked part
    let goOn (name : Bytes) : List Bytes :=
      let path := before ++ name
      match rest with
      | [] => if files.pathExists ⟨path⟩ then [path] else []
      | _ :: _ => pathsFrom files (path ++ [Path.slash]) rest
    if pattern.isOpen then
      let dotted := part.head?.any (·.1 = Path.dot)
      let names := entryNames files before ++ if dotted then [[Path.dot], [Path.dot, Path.dot]] else []
      let found := names.filter fun n => (dotted || n.head? ≠ some Path.dot) && pattern.matchesAll n
      (inOrder found).flatMap goOn
    else goOn (part.map Prod.fst)

/-- The parts of a field between slashes. -/
def partsOf : Marked → List Marked
  | [] => [[]]
  | (b, literal) :: r =>
    if b = Path.slash then [] :: partsOf r
    else match partsOf r with
      | [] => [[(b, literal)]]
      | p :: ps => ((b, literal) :: p) :: ps

/-- What stands for a field: the paths of its pattern in order, or the field itself when there are none. -/
def paths (files : Files) (field : Marked) : List Bytes :=
  let plain := field.map Prod.fst
  if (Pattern.ofMarked field).isOpen then
    match inOrder (pathsFrom files [] (partsOf field)) with
    | [] => [plain]
    | found => found
  else [plain]

/-! ## Parameters -/

/-- The fragments of a value. -/
def valueFragments (quoted : Bool) (bytes : Bytes) : List Fragment := [.bytes bytes (!quoted) quoted]

/-- The fragments of a word that stands for a parameter, which is a field between quotes even when there are
    none. -/
def alternativeFragments (quoted : Bool) (fragments : List Fragment) : List Fragment :=
  if quoted ∧ fragments.isEmpty then valueFragments true [] else fragments

/-- The fragments of the arguments, each a field. -/
def argumentFragments (quoted : Bool) (arguments : List Bytes) : List Fragment :=
  [Fragment.fieldBreak].intercalate (arguments.map (valueFragments quoted))

/-- What a word is expanded for. -/
inductive Purpose where
  /-- For fields; with `divides`, the text that is not quoted is divided too. -/
  | fields (divides : Bool)
  /-- For one value, which may be one that is assigned. -/
  | value (isAssigned : Bool)
deriving DecidableEq, Repr

/-- The purpose of a word within another one, in place of a parameter. -/
def Purpose.within (purpose : Purpose) (quoted : Bool) : Purpose :=
  match purpose with
  | .fields _ => .fields (!quoted)
  | .value _ => .value false

/-- What is cut from the value of a parameter, or from all arguments. -/
structure Cut where
  one : Bytes → Bytes
  all : List Bytes → List Bytes

/-- Leaves everything as it is. -/
def Cut.nothing : Cut := ⟨id, id⟩

/-- Takes off the front what a pattern matches. -/
def Cut.front (pattern : Pattern) (longest : Bool) : Cut :=
  ⟨pattern.cutFront longest, pattern.cutFrontOfAll longest⟩

/-- Takes off the end what a pattern matches. -/
def Cut.back (pattern : Pattern) (longest : Bool) : Cut :=
  ⟨pattern.cutBack longest, pattern.cutBackOfAll longest⟩

/-- Whether a parameter stands for all arguments. -/
def isAllArguments (name : String) : Bool := name = "@" || name = "*"

/-- The fragments of a parameter, from which something is cut.  Where fields are wanted, the arguments are
    fields of their own. -/
def parameterFragments (s : Session) (purpose : Purpose) (name : String) (quoted : Bool) (cut : Cut) :
    List Fragment :=
  let fieldwise := name = "@" || (name = "*" && !quoted)
  match purpose, fieldwise with
  | .fields _, true => argumentFragments quoted (cut.all s.arguments)
  | _, _ => valueFragments quoted (cut.one ((s.parameter? name).getD []))

/-- Refuses a parameter that is not set, when such ones end the script. -/
def demandSet (name : String) : Act Unit := do
  let s ← get
  if s.switches.onlySet ∧ (s.parameter? name).isNone ∧ !isAllArguments name then
    Act.abort (bytesOf (name ++ ": parameter not set")) 2

/-- Whether a parameter counts as given; two arguments are more than nothing. -/
def isGiven (s : Session) (name : String) (orEmpty : Bool) : Bool :=
  if isAllArguments name then !orEmpty || s.arguments.any (· ≠ []) || 1 < s.arguments.length
  else match s.parameter? name with
  | none => false
  | some value => !(orEmpty && value.isEmpty)

/-- Sets a variable, unless its name is none or it is protected. -/
def setVariable (name : String) (value : Bytes) : Act Unit := do
  let s ← get
  if name.toList.head?.any (fun c => !(c.isAlpha || c = '_')) then
    Act.abort (bytesOf (name ++ ": bad variable name")) 2
  if s.isReadOnly name then Act.abort (bytesOf (name ++ ": is read only")) 2
  set (s.assignAnew name value)

/-! ## Words -/

/-- A way to get the output of commands. -/
abbrev Capture := Command → Act Bytes

mutual

/-- The fragments of the pieces of a word. -/
def expand (capture : Capture) (purpose : Purpose) : List Piece → Act (List Fragment)
  | [] => pure []
  | piece :: rest => do
    let first ← expandPiece capture purpose piece
    let others ← expand capture purpose rest
    return first ++ others

/-- The fragments of a piece. -/
def expandPiece (capture : Capture) (purpose : Purpose) : Piece → Act (List Fragment)
  | .text bytes quoted => pure [.bytes bytes (purpose = .fields true && !quoted) quoted]
  | .home always => do
    match (← get).valueOf? "HOME" with
    | some home => return [.bytes (if always || purpose = .value true then home else [0x7E]) false true]
    | none => return [.bytes [0x7E] false true]
  | .arithmetic expression quoted => do
    let text := Fragment.value (← expand capture (.value false) expression)
    match Arithmetic.value (← get) text with
    | .ok (n, s) =>
      set s
      return valueFragments quoted (bytesOf (toString n.toInt))
    | .error fault => Act.abort (fault.message text) 2
  | .output body quoted => do return valueFragments quoted (← capture body)
  | .parameter name edit quoted => expandEdit capture purpose name quoted edit

/-- The fragments of a parameter with which something is done. -/
def expandEdit (capture : Capture) (purpose : Purpose) (name : String) (quoted : Bool) :
    Edit → Act (List Fragment)
  | .keep => do
    demandSet name
    return parameterFragments (← get) purpose name quoted .nothing
  | .length => do
    demandSet name
    let value := ((← get).parameter? name).getD []
    return valueFragments quoted (Session.decimal value.length)
  | .orElse orEmpty word => do
    let s ← get
    if isGiven s name orEmpty then
      return alternativeFragments quoted (parameterFragments s purpose name quoted .nothing)
    else return alternativeFragments quoted (← expand capture (purpose.within quoted) word)
  | .ifGiven orEmpty word => do
    if isGiven (← get) name orEmpty then
      return alternativeFragments quoted (← expand capture (purpose.within quoted) word)
    else return alternativeFragments quoted []
  | .assign orEmpty word => do
    let s ← get
    if isGiven s name orEmpty then return parameterFragments s purpose name quoted .nothing
    else
      let value := Fragment.value (← expand capture (.value false) word)
      setVariable name value
      return valueFragments quoted value
  | .require orEmpty word => do
    let s ← get
    if isGiven s name orEmpty then return parameterFragments s purpose name quoted .nothing
    else
      let given := Fragment.value (← expand capture (.value false) word)
      let usual := bytesOf (if orEmpty then "parameter not set or null" else "parameter not set")
      Act.abort (bytesOf (name ++ ": ") ++ if word.isEmpty then usual else given) 2
  | .cutFront longest word => do
    demandSet name
    let pattern := Fragment.pattern (← expand capture (.value false) word)
    return parameterFragments (← get) purpose name quoted (.front pattern longest)
  | .cutBack longest word => do
    demandSet name
    let pattern := Fragment.pattern (← expand capture (.value false) word)
    return parameterFragments (← get) purpose name quoted (.back pattern longest)
  | .unknown => Act.abort (bytesOf "Bad substitution") 2

end

/-- A word as one value. -/
def expandValue (capture : Capture) (word : Word) : Act Bytes := do
  return Fragment.value (← expand capture (.value true) word)

/-- A word as a pattern. -/
def expandPattern (capture : Capture) (word : Word) : Act Pattern := do
  return Fragment.pattern (← expand capture (.value true) word)

/-- The fields of a word. -/
def expandWord (capture : Capture) (word : Word) : Act (List Bytes) := do
  let fragments ← expand capture (.fields false) word
  let s ← get
  let fields := Fragment.fields s.separators fragments
  return if s.switches.noPaths then fields.map (·.map Prod.fst) else fields.flatMap (paths s.files)

/-- The fields of some words. -/
def expandWords (capture : Capture) : List Word → Act (List Bytes)
  | [] => pure []
  | word :: rest => do
    let first ← expandWord capture word
    let others ← expandWords capture rest
    return first ++ others

end BenchSweep.Machine.Shell
