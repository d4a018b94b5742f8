/-
  Commands that take options and lines of input apart.

  Part of the stand-in for the machine (`Machine/System`).
-/
import BenchSweep.Machine.Shell.Builtin.Basic

namespace BenchSweep.Machine.Shell.Builtin

/-! ## Options of scripts

  How far the options are read is kept in the session: the number of the next word, and where in a word of
  several letters the next one stands. -/

/-- Looks for the next option among words. -/
def nextOption (letters : Bytes) (target : String) (words : List Bytes) : Act Unit := do
  let s ← get
  let finish (found : UInt8) (index : Nat) (offset : Option Nat) (status : Nat) : Act Unit := do
    modify fun s =>
      { (s.assign "OPTIND" (Session.decimal index)).assign target [found] with
        optionIndex := index, optionOffset := offset }
    leave status
  let word (n : Nat) : Option Bytes := if n = 0 then none else words[n - 1]?
  let begun : Bytes := match s.optionOffset, word (s.optionIndex - 1) with
    | some offset, some w => w.drop offset
    | _, _ => []
  let opened : Option (Bytes × Nat) :=
    if !begun.isEmpty then some (begun, s.optionIndex)
    else match word s.optionIndex with
      | some (0x2D :: c :: r) => if c = 0x2D ∧ r.isEmpty then none else some (c :: r, s.optionIndex + 1)
      | _ => none
  match opened with
  | none =>
    let isEnd := word s.optionIndex = some [0x2D, 0x2D]
    finish 0x3F (if isEnd then s.optionIndex + 1 else s.optionIndex) none 1
  | some ([], _) => finish 0x3F s.optionIndex none 1
  | some (c :: rest, index) =>
    -- a colon in front of the letters leaves complaining to the script
    let silent := letters.head? = some 0x3A
    let offset : Option Nat :=
      if rest.isEmpty then none else (word (index - 1)).map fun w => w.length - rest.length
    let known := (if silent then letters.tail else letters).dropWhile (· ≠ c)
    if known.isEmpty ∨ c = 0x3A then
      if silent then modify (·.assign "OPTARG" [c])
      else modify fun s => (s.complain ("Illegal option -" ++ textOf [c])).unset "OPTARG"
      finish 0x3F index offset 0
    -- the letter wants a value: the rest of the word, or the next word
    else if known.tail.head? = some 0x3A then
      if rest ≠ [] then
        modify (·.assign "OPTARG" rest)
        finish c index none 0
      else match word index with
        | some value =>
          modify (·.assign "OPTARG" value)
          finish c (index + 1) none 0
        | none =>
          if silent then
            modify (·.assign "OPTARG" [c])
            finish 0x3A index none 0
          else
            modify fun s => (s.complain ("No arg for -" ++ textOf [c] ++ " option")).unset "OPTARG"
            finish 0x3F index none 0
    else
      modify (·.assign "OPTARG" [])
      finish c index offset 0

/-- Takes the next option from the arguments. -/
def getopts (words : List Bytes) : Act Unit := do
  match words with
  | letters :: target :: rest => do
    let s ← get
    nextOption letters (textOf target) (if rest.isEmpty then s.arguments else rest)
  | _ => refuse "getopts" (bytesOf "Usage: getopts optstring var [arg...]")

/-! ## Input

  A line is taken byte by byte with marks for what a backslash has hidden, since what is hidden divides
  nothing.  Only the bytes of the line are taken, so the next command reads on behind it. -/

/-- A line of input: its bytes, of which each is marked when a backslash stood before it, how many bytes
    are read, and whether the line has its end. -/
def lineOf (raw : Bool) : Bytes → Marked × Nat × Bool
  | [] => ([], 0, false)
  | 0x0A :: _ => ([], 1, true)
  | 0x5C :: b :: r =>
    if raw then
      let (line, n, ended) := lineOf raw (b :: r)
      ((0x5C, false) :: line, n + 1, ended)
    else
      let (line, n, ended) := lineOf raw r
      (if b = 0x0A then line else (b, true) :: line, n + 2, ended)
  | b :: r =>
    let (line, n, ended) := lineOf raw r
    -- bytes of zero are dropped
    (if b = 0 then line else (b, false) :: line, n + 1, ended)

/-- Whether a byte of a line divides it, and is a blank. -/
def isBlankIn (separators : Bytes) (m : UInt8 × Bool) : Bool :=
  !m.2 && separators.contains m.1 && (m.1 = 0x20 || m.1 = 0x09 || m.1 = 0x0A)

/-- A byte divides fields if it is a separator and not marked. -/
def dividesIn (separators : Bytes) (m : UInt8 × Bool) : Bool := !m.2 && separators.contains m.1

/-- The first field of a line without blanks in front, and what stands behind the separator after it. -/
def firstField (separators : Bytes) (line : Marked) : Marked × Marked :=
  let field := line.takeWhile fun m => !dividesIn separators m
  let rest := (line.drop field.length).dropWhile (isBlankIn separators)
  match rest with
  | m :: r => if dividesIn separators m then (field, r.dropWhile (isBlankIn separators)) else (field, rest)
  | [] => (field, [])

/-- The values of so many variables from a line; the last one takes all that is left. -/
def valuesOf (separators : Bytes) : Nat → Marked → List Bytes
  | 0, _ => []
  | 1, line =>
    let (field, rest) := firstField separators line
    -- the last variable keeps the separators between the fields that are left
    let whole := (line.reverse.dropWhile (isBlankIn separators)).reverse
    [(if rest.isEmpty then field else whole).map Prod.fst]
  | n + 2, line =>
    let (field, rest) := firstField separators line
    field.map Prod.fst :: valuesOf separators (n + 1) rest

/-- The options of `read`; a prompt, which `p` asks for, takes a word and is not shown. -/
def readOptions : Nat → List Bytes → Act (Bool × List Bytes)
  | 0, words => return (false, words)
  | _, [] => return (false, [])
  | fuel + 1, word :: rest =>
    if hasBytes word "--" then return (false, rest)
    else if word.head? ≠ some 0x2D ∨ word.length < 2 then return (false, word :: rest)
    else do
      let letters := (Text.Utf8.lossy word).tail
      match letters.find? fun c => c ≠ 'r' ∧ c ≠ 'p' with
      | some c => refuse "read" (bytesOf ("Illegal option -" ++ String.ofList [c]))
      | none =>
        let prompted := letters.getLast? = some 'p'
        let (raw, names) ← readOptions fuel (if prompted then rest.tail else rest)
        return (raw || letters.contains 'r', names)

/-- Reads a line into variables. -/
def read (words : List Bytes) : Act Unit := do
  let (raw, names) ← readOptions words.length words
  if names.isEmpty then refuse "read" (bytesOf "arg count")
  let s ← get
  let (line, n, ended) := lineOf raw ((s.unread? 0).getD [])
  set (s.advance 0 n)
  let separators := s.separators
  let values := valuesOf separators names.length (line.dropWhile (isBlankIn separators))
  for (name, value) in names.zip values do
    demandName "read" (textOf name)
    demandChangeable "read" (textOf name)
    modify (·.assignAnew (textOf name) value)
  leave (if ended then 0 else 1)

end BenchSweep.Machine.Shell.Builtin
