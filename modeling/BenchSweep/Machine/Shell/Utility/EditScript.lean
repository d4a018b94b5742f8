/-
  Scripts of the stream editor, and how they are read.

  Part of the stand-in for the machine (`Machine/System`).
-/
import BenchSweep.Machine.Shell.Utility.Lines
import BenchSweep.Machine.Shell.Utility.Regex

namespace BenchSweep.Machine.Shell.Utility

/-! ## Scripts -/

/-- An expression of a script, and how it is matched. -/
structure Expression where
  regex : Regex
  reading : Regex.Reading

/-- Which lines an address chooses. -/
inductive Address where
  | line (n : Nat)
  | last
  | matching (e : Expression)
  /-- Every so many lines from one on. -/
  | every (first step : Nat)
  /-- So many lines behind the first line of the range. -/
  | further (n : Nat)
  /-- Up to the next line whose number is a multiple. -/
  | multiple (n : Nat)

/-- A part of a replacement. -/
inductive ReplacementPart where
  | text (bytes : Bytes)
  /-- What a group has matched; the whole match for zero. -/
  | group (n : Nat)
  /-- A change of letters: `U`, `L`, `u`, `l` or `E`. -/
  | letters (c : Char)

/-- The commands of a script. -/
inductive Instruction where
  | openBlock
  | closeBlock
  | label (name : Bytes)
  /-- Replaces matches; the line then may be put out and written into a file. -/
  | substitute (e : Expression) (replacement : List ReplacementPart) (every print : Bool) (which : Nat)
      (file : Option Bytes)
  | exchange (pairs : List (UInt8 × UInt8))
  | append (text : Bytes)
  | insert (text : Bytes)
  | change (text : Bytes)
  | readFile (name : Bytes)
  | writeFile (name : Bytes)
  | jump (name : Bytes)
  | jumpIfReplaced (name : Bytes)
  | jumpUnlessReplaced (name : Bytes)
  | quit (print : Bool) (status : Nat)
  /-- An instruction that is a letter alone. -/
  | simple (c : Char)

/-- An instruction with its addresses. -/
structure Step where
  first : Option Address
  second : Option Address
  negated : Bool
  instruction : Instruction

/-! ## Reading scripts -/

/-- A space, or another byte that counts as one. -/
def isSpaceByte (b : UInt8) : Bool := b = 0x20 || (0x09 ≤ b && b ≤ 0x0D)

/-- The text up to a delimiter, where a backslash hides it, and the rest.  In the text a hidden delimiter
    stands alone, and every other backslash stays; a delimiter between brackets is none when `brackets`
    holds. -/
def delimited? (delimiter : UInt8) (brackets inside : Bool) : Bytes → Option (Bytes × Bytes)
  | [] => none
  | 0x5C :: c :: r =>
    (delimited? delimiter brackets inside r).map fun (s, rest) =>
      (if c = delimiter ∧ !inside then c :: s
        else if c = 0x0A then 0x5C :: c :: s
        else 0x5C :: c :: s, rest)
  | b :: r =>
    if b = delimiter ∧ !inside then some ([], r)
    else
      let inside := brackets && (if b = 0x5B then true else if b = 0x5D then false else inside)
      (delimited? delimiter brackets inside r).map fun (s, rest) => (b :: s, rest)

/-- A number at the front, and the rest. -/
def leadingNumber (s : Bytes) : Option (Nat × Bytes) :=
  let ds := s.takeWhile fun b => 0x30 ≤ b && b ≤ 0x39
  (countOf? ds).map fun n => (n, s.drop ds.length)

/-- What is known while a script is read: the form of expressions, and the last one. -/
structure Syntax where
  extended : Bool
  last : Option Regex

/-- An expression as it is written; nothing stands for the last one. -/
def Syntax.expression? (x : Syntax) (text : Bytes) (fold : Bool) : Option Expression :=
  if text.isEmpty then x.last.map (⟨·, ⟨fold⟩⟩) else (Regex.parse? x.extended text).map (⟨·, ⟨fold⟩⟩)

/-- An address at the front, and the rest. -/
def address? (x : Syntax) (s : Bytes) : Option (Option Address × Syntax × Bytes) :=
  let expression (delimiter : UInt8) (r : Bytes) : Option (Option Address × Syntax × Bytes) := do
    let (text, rest) ← delimited? delimiter true false r
    let fold := rest.head? = some 0x49
    let e ← x.expression? text fold
    return (some (.matching e), { x with last := some e.regex }, if fold then rest.tail else rest)
  match s with
  | 0x24 :: r => some (some .last, x, r)
  | 0x2F :: r => expression 0x2F r
  | 0x5C :: d :: r => expression d r
  | 0x2B :: r => (leadingNumber r).map fun (n, rest) => (some (.further n), x, rest)
  | 0x7E :: r => (leadingNumber r).map fun (n, rest) => (some (.multiple n), x, rest)
  | _ =>
    match leadingNumber s with
    | none => some (none, x, s)
    | some (n, 0x7E :: r) => (leadingNumber r).map fun (m, rest) => (some (.every n m), x, rest)
    | some (n, rest) => some (some (.line n), x, rest)

/-- The parts of a replacement. -/
def replacementParts : Bytes → List ReplacementPart
  | [] => []
  | 0x26 :: r => .group 0 :: replacementParts r
  | 0x5C :: c :: r =>
    if 0x30 ≤ c ∧ c ≤ 0x39 then .group (c.toNat - 48) :: replacementParts r
    else match Char.ofNat c.toNat with
      | 'n' => .text [0x0A] :: replacementParts r
      | 't' => .text [0x09] :: replacementParts r
      | 'U' | 'L' | 'u' | 'l' | 'E' => .letters (Char.ofNat c.toNat) :: replacementParts r
      | _ => .text [c] :: replacementParts r
  | b :: r => .text [b] :: replacementParts r

/-- The text of an instruction that takes one, up to a line end that is not hidden, and the rest. -/
def lineText : Bytes → Bytes × Bytes
  | [] => ([], [])
  | 0x0A :: r => ([], r)
  | 0x5C :: c :: r =>
    let (s, rest) := lineText r
    (c :: s, rest)
  | b :: r =>
    let (s, rest) := lineText r
    (b :: s, rest)

/-- The text behind the letter of such an instruction: in the same line, or behind a hidden line end. -/
def textArgument (s : Bytes) : Bytes × Bytes :=
  let s := s.dropWhile isBlankOnly
  let s := match s with
    | 0x5C :: r =>
      match r.dropWhile isBlankOnly with
      | 0x0A :: r => r
      | r => r
    | s => s
  let (text, rest) := lineText s
  (text ++ [0x0A], rest)
where
  isBlankOnly (b : UInt8) : Bool := b = 0x20 || b = 0x09

/-- A word up to a blank, a semicolon or a line end, and the rest. -/
def labelArgument (s : Bytes) : Bytes × Bytes :=
  let s := s.dropWhile fun b => b = 0x20 || b = 0x09
  let name := s.takeWhile fun b => !(isSpaceByte b || b = 0x3B || b = 0x7D)
  (name, s.drop name.length)

/-- The flags of a substitution: whether all matches are replaced, whether the line is put out, which match
    is the first, whether letters of both cases are alike, and a file for the line. -/
structure Flags where
  every : Bool
  print : Bool
  which : Nat
  fold : Bool
  file : Option Bytes

/-- The name of a file up to the end of the line, and the rest. -/
def fileArgument (s : Bytes) : Bytes × Bytes :=
  let s := s.dropWhile fun b => b = 0x20 || b = 0x09
  let name := s.takeWhile (· ≠ 0x0A)
  (name, s.drop name.length)

/-- The letters and the number behind a substitution. -/
def flags? : Nat → Flags → Bytes → Option (Flags × Bytes)
  | 0, f, s => some (f, s)
  | fuel + 1, f, s =>
    match s with
    | [] => some (f, [])
    | b :: r =>
      match Char.ofNat b.toNat with
      | 'g' => flags? fuel { f with every := true } r
      | 'p' => flags? fuel { f with print := true } r
      | 'i' | 'I' => flags? fuel { f with fold := true } r
      | 'm' | 'M' => flags? fuel f r
      | 'w' =>
        let (name, rest) := fileArgument r
        some ({ f with file := some name }, rest)
      | _ =>
        match leadingNumber s with
        | some (n, rest) => flags? fuel { f with which := n } rest
        | none => some (f, s)

/-- The bytes of one side of an exchange of bytes. -/
def exchangeSide : Bytes → Bytes
  | [] => []
  | 0x5C :: c :: r =>
    (if c = 0x6E then 0x0A else if c = 0x74 then 0x09 else c) :: exchangeSide r
  | b :: r => b :: exchangeSide r

/-- The instruction of a letter, and the rest. -/
def instruction? (x : Syntax) (letter : Char) (s : Bytes) : Option (Instruction × Syntax × Bytes) :=
  let plain (i : Instruction) : Option (Instruction × Syntax × Bytes) := some (i, x, s)
  let withText (make : Bytes → Instruction) : Option (Instruction × Syntax × Bytes) :=
    let (text, rest) := textArgument s
    some (make text, x, rest)
  let withLabel (make : Bytes → Instruction) : Option (Instruction × Syntax × Bytes) :=
    let (name, rest) := labelArgument s
    some (make name, x, rest)
  let withLine (make : Bytes → Instruction) : Option (Instruction × Syntax × Bytes) :=
    let (name, rest) := fileArgument s
    some (make name, x, rest)
  match letter with
  | '{' => plain .openBlock
  | '}' => plain .closeBlock
  | ':' => withLabel .label
  | 'b' => withLabel .jump
  | 't' => withLabel .jumpIfReplaced
  | 'T' => withLabel .jumpUnlessReplaced
  | 'a' => withText .append
  | 'i' => withText .insert
  | 'c' => withText .change
  | 'r' => withLine .readFile
  | 'w' => withLine .writeFile
  | 'q' | 'Q' =>
    let s := s.dropWhile fun b => b = 0x20 || b = 0x09
    let (n, rest) := (leadingNumber s).getD (0, s)
    some (.quit (letter = 'q') n, x, rest)
  | 's' =>
    match s with
    | [] => none
    | d :: r => do
      let (text, r) ← delimited? d true false r
      let (replacement, r) ← delimited? d false false r
      let (f, rest) ← flags? r.length ⟨false, false, 1, false, none⟩ r
      let e ← x.expression? text f.fold
      return (.substitute e (replacementParts replacement) f.every f.print f.which f.file,
        { x with last := some e.regex }, rest)
  | 'y' =>
    match s with
    | [] => none
    | d :: r => do
      let (left, r) ← delimited? d false false r
      let (right, rest) ← delimited? d false false r
      let (left, right) := (exchangeSide left, exchangeSide right)
      if left.length ≠ right.length then none
      return (.exchange (left.zip right), x, rest)
  | c => if "dDgGhHxnNpP=lz".toList.contains c then plain (.simple c) else none

/-- The instructions of a script. -/
def steps? : Nat → Syntax → Bytes → Option (List Step)
  | 0, _, _ => none
  | fuel + 1, x, s =>
    let isBetween (b : UInt8) : Bool := isSpaceByte b || b = 0x3B
    match s.dropWhile isBetween with
    | [] => some []
    | 0x23 :: r => steps? fuel x (r.dropWhile (· ≠ 0x0A))
    | s => do
      let (first, x, r) ← address? x s
      let r := r.dropWhile isSpaceByte
      let (second, x, r) ← match first, r with
        | some _, 0x2C :: r => do
          let (second, x, r) ← address? x (r.dropWhile isSpaceByte)
          if second.isNone then none
          pure (second, x, r)
        | _, r => pure (none, x, r)
      let r := r.dropWhile isSpaceByte
      let negated := r.head? = some 0x21
      let r := (r.dropWhile (· = 0x21)).dropWhile isSpaceByte
      match r with
      | [] => none
      | c :: r =>
        let (instruction, x, r) ← instruction? x (Char.ofNat c.toNat) r
        let more ← steps? fuel x r
        return ⟨first, second, negated, instruction⟩ :: more

end BenchSweep.Machine.Shell.Utility
