/-
  Programs that put out texts, sequences and what the system is.

  Part of the stand-in for the machine (`Machine/System`).
-/
import BenchSweep.Machine.SearchPath
import BenchSweep.Machine.Shell.Condition
import BenchSweep.Machine.Shell.Format
import BenchSweep.Machine.Shell.Utility.Lines

namespace BenchSweep.Machine.Shell.Utility

/-! ## Texts

  The shell has commands of the same names; these here are the programs, which a script gets by a path or
  through a launcher, and they differ in their options. -/

/-- Writes its words on one line. -/
def echo : Program := fun words s =>
  let isOption (w : Bytes) : Bool :=
    w.head? = some 0x2D && 1 < w.length && w.tail.all fun b => (bytesOf "neE").contains b
  let opts := words.takeWhile isOption
  let text := Session.spaced (words.drop opts.length)
  let letters := opts.flatten
  let lastOf := (letters.filter fun b => b = 0x65 || b = 0x45).getLast?
  let (out, ended) := if lastOf = some 0x65 then unescapeWithin ⟨true, true⟩ text.length text else (text, false)
  (s.print (if ended || letters.contains 0x6E then out else out ++ [0x0A])).withStatus 0

/-- Writes its words as the first one says. -/
def printf : Program := fun words s =>
  match words with
  | [] => misuse "printf" 1 "missing operand" s
  | form :: words =>
    let f := format form words
    let s := f.complaints.reverse.foldl (fun s text => fail "printf" 1 text s) (s.withStatus 0)
    match f.refusal with
    | some text => (fail "printf" 1 text s).print f.output
    | none => s.print f.output

/-- Tells by its status whether a condition holds. -/
def test (name : String) : Program := fun words s =>
  match Condition.value s words with
  | .ok b => s.withStatus (if b then 0 else 1)
  | .error fault => fail name 2 fault.message s

/-- The same between brackets. -/
def bracket : Program := fun words s =>
  if words.getLast? = some [0x5D] then test "[" words.dropLast s
  else fail "[" 2 (bytesOf "missing ']'") s

/-- The variables that programs see, one a line. -/
def environmentLines (s : Session) : Bytes :=
  s.environment.flatMap fun (name, value) => bytesOf name ++ 0x3D :: value ++ [0x0A]

/-- Writes variables of the environment. -/
def printenv : Program :=
  withOptions "printenv" (spec "0" "" []) 2 fun a s =>
    if a.operands.isEmpty then s.print (environmentLines s)
    else a.operands.foldl (fun s w =>
      match s.environment.lookup (textOf w) with
      | some value => s.print (value ++ [0x0A])
      | none => s.withStatus 1) s

/-- Where programs are found on the search path. -/
def which : Program :=
  withOptions "which" (spec "as" "" []) 2 fun a s =>
    let entries := (Locator.splitPath ((s.environment.lookup "PATH").getD [])).map fun entry =>
      -- an empty entry of the search path is the working directory
      if entry.isEmpty then ⟨[Path.dot]⟩ else entry
    let s := if a.operands.isEmpty then s.withStatus 1 else s
    a.operands.foldl (fun s w =>
      let paths := if w.contains Path.slash then [⟨w⟩] else entries.map (Machine.inEntry ⟨w⟩)
      let found := paths.filter (Machine.isExecutable s.files)
      let shown := if a.has 'a' then found else found.take 1
      if found.isEmpty then s.withStatus 1
      else s.print (if a.has 's' then [] else shown.flatMap fun p => p.bytes ++ [0x0A])) s

/-- The prime factors of a number, the least first. -/
def factorsOf : (fuel : Nat) → (least n : Nat) → List Nat
  | 0, _, n => [n]
  | fuel + 1, least, n =>
    if n < 2 then []
    else if n < least * least then [n]
    else if n % least = 0 then least :: factorsOf fuel least (n / least)
    else factorsOf fuel (least + 1) n

/-- Writes numbers with their prime factors. -/
def factor : Program :=
  withOptions "factor" (spec "h" "" []) 1 fun a s =>
    let (words, s) := if a.operands.isEmpty then
        let (input, s) := s.takeAll 0
        ((List.splitOn 0x20 (input.map fun b => if b = 0x0A || b = 0x09 then 0x20 else b)).filter (· ≠ []), s)
      else (a.operands, s)
    words.foldl (fun s w =>
      match countOf? w with
      | some n =>
        let factors := (factorsOf 1000000 2 n).map fun k => 0x20 :: Session.decimal k
        s.print (Session.decimal n ++ 0x3A :: factors.flatten ++ [0x0A])
      | none => fail "factor" 1 (shown w ++ bytesOf " is not a valid positive integer") s) s

/-- A word that says how long to sleep. -/
def isDuration (w : Bytes) : Bool :=
  let number := if w.getLast?.any (bytesOf "smhd").contains then w.dropLast else w
  number.any (fun b => 0x30 ≤ b && b ≤ 0x39) && number.all fun b => (0x30 ≤ b && b ≤ 0x39) || b = 0x2E

/-- Waits, which takes no time here. -/
def sleep : Program := fun words s =>
  if words.isEmpty then misuse "sleep" 1 "missing operand" s
  else match words.find? (!isDuration ·) with
    | some w => misuse "sleep" 1 ("invalid time interval '" ++ textOf w ++ "'") s
    | none => s.withStatus 0

/-- A program that puts out one line and does not look at its words. -/
def line (text : String) : Program := fun _ s => (s.print (bytesOf (text ++ "\n"))).withStatus 0

/-- Writes who runs it. -/
def identity : Program :=
  withOptions "id" (spec "ugnrG" "" []) 1 fun a s =>
    let named := a.has 'n'
    s.print (bytesOf (if (a.last? "ugG").isSome then (if named then "root\n" else "0\n")
      else "uid=0(root) gid=0(root) groups=0(root)\n"))

/-! ## Sequences

  Numbers are kept as integers with a number of places, so that steps of tenths add up exactly. -/

/-- A decimal number as an integer and the number of its places. -/
structure Scaled where
  value : Int
  places : Nat

/-- The number that a word spells. -/
def Scaled.ofBytes? (s : Bytes) : Option Scaled :=
  let isDigit (b : UInt8) : Bool := 0x30 ≤ b && b ≤ 0x39
  let (negative, s) := match s with
    | 0x2D :: r => (true, r)
    | 0x2B :: r => (false, r)
    | r => (false, r)
  let whole := s.takeWhile isDigit
  let fraction? : Option Bytes := match s.drop whole.length with
    | [] => some []
    | 0x2E :: r => if r.all isDigit then some r else none
    | _ => none
  match fraction? with
  | none => none
  | some fraction =>
    if whole.isEmpty ∧ fraction.isEmpty then none
    else
      let n : Nat := (whole ++ fraction).foldl (fun (n : Nat) b => 10 * n + (b.toNat - 48)) 0
      some ⟨if negative then -(n : Int) else n, fraction.length⟩

/-- The number with so many places. -/
def Scaled.at (x : Scaled) (places : Nat) : Int := x.value * (Nat.pow 10 (places - x.places) : Nat)

/-- The digits of an integer of which the last `places` stand behind a point. -/
def scaledText (places : Nat) (n : Int) : Bytes :=
  (if n < 0 then [0x2D] else []) ++ pointed false places n.natAbs

/-- From one integer to another in steps. -/
def progression (first step last : Int) : List Int :=
  if step = 0 then []
  else
    let count := if 0 < step then (last - first) / step + 1 else (first - last) / (-step) + 1
    -- the bound keeps a sequence without an end from filling everything
    (List.range (min count.toNat 100000)).map fun (k : Nat) => first + step * k

/-- The words with negative numbers in front kept from being options. -/
def numbersLast (words : List Bytes) : List Bytes :=
  match words.findIdx? fun w => (Scaled.ofBytes? w).isSome with
  | some n =>
    let (opts, rest) := (words.take n, words.drop n)
    if opts.contains (bytesOf "--") ∨ opts.getLast?.any (fun w => hasBytes w "-s" ∨ hasBytes w "-f") then words
    else opts ++ bytesOf "--" :: rest
  | none => words

/-- Writes the numbers from one to another. -/
def seq : Program := fun words =>
  withOptions "seq" (spec "w" "sf" [("separator", 's'), ("format", 'f'), ("equal-width", 'w')]) 1 (fun a s =>
    if a.operands.isEmpty then misuse "seq" 1 "missing operand" s
    else if 3 < a.operands.length then misuse "seq" 1 ("extra operand '" ++ textOf ((a.operands[3]?).getD []) ++ "'") s
    else match a.operands.find? fun w => (Scaled.ofBytes? w).isNone with
      | some w => misuse "seq" 1 ("invalid floating point argument: '" ++ textOf w ++ "'") s
      | none =>
        let numbers := a.operands.filterMap Scaled.ofBytes?
        let one : Scaled := ⟨1, 0⟩
        let (first, step, last) := match numbers with
          | [last] => (one, one, last)
          | [first, last] => (first, one, last)
          | first :: step :: last :: _ => (first, step, last)
          | [] => (one, one, one)
        if step.value = 0 then
          misuse "seq" 1 ("invalid Zero increment value: '" ++ textOf ((a.operands[1]?).getD []) ++ "'") s
        else
          let places := max first.places step.places
          let exact := max places last.places
          -- the last number has no part in how many places are shown
          let unit : Int := (Nat.pow 10 (exact - places) : Nat)
          let values := (progression (first.at exact) (step.at exact) (last.at exact)).map (· / unit)
          let texts := values.map (scaledText places)
          let width := (texts.map List.length).foldl max 0
          let texts := if a.has 'w' then texts.map fun t =>
              let (sign, digits) := if t.head? = some 0x2D then ([0x2D], t.tail) else ([], t)
              sign ++ List.replicate (width - t.length) 0x30 ++ digits
            else texts
          let texts := match a.value? 'f' with
            | some form => texts.map fun t => (format form [t]).output
            | none => texts
          if texts.isEmpty then s
          else s.print (joinWith ((a.value? 's').getD [0x0A]) texts ++ [0x0A])) (numbersLast words)

/-! ## The system

  What a program tells about the system is the same on every run. -/

/-- The names of the system and its parts. -/
def uname : Program :=
  withOptions "uname" (spec "asnrvmpio" "" [("all", 'a')]) 1 fun a s =>
    let parts := [('s', "Linux"), ('n', "localhost"), ('r', "6.1.0"), ('v', "#1 SMP"), ('m', "x86_64"),
      ('o', "GNU/Linux")]
    let chosen := if a.options.isEmpty then parts.take 1 else parts.filter fun (c, _) => a.has 'a' || a.has c
    s.print (bytesOf (" ".intercalate (chosen.map Prod.snd) ++ "\n"))

/-- The text of a form for the first moment of all, when the clock stands still. -/
def dateText : List Char → List Char
  | '%' :: c :: r =>
    let part : String := match c with
      | 's' => "0"
      | 'Y' => "1970"
      | 'm' | 'd' => "01"
      | 'j' => "001"
      | 'H' | 'M' | 'S' | 'y' => if c = 'y' then "70" else "00"
      | 'N' => "000000000"
      | 'F' => "1970-01-01"
      | 'T' => "00:00:00"
      | 'R' => "00:00"
      | 'D' => "01/01/70"
      | 'Z' => "UTC"
      | 'z' => "+0000"
      | 'a' => "Thu"
      | 'A' => "Thursday"
      | 'b' | 'h' => "Jan"
      | 'B' => "January"
      | 'n' => "\n"
      | 't' => "\t"
      | '%' => "%"
      | c => String.ofList ['%', c]
    part.toList ++ dateText r
  | c :: r => c :: dateText r
  | [] => []

/-- Writes the time of the clock. -/
def date : Program :=
  withOptions "date" (spec "uR" "dr" [("utc", 'u'), ("date", 'd'), ("reference", 'r')]) 1 fun a s =>
    match a.operands with
    | (0x2B :: form) :: _ => s.print (Text.Utf8.encode (dateText (Text.Utf8.lossy form)) ++ [0x0A])
    | _ => s.print (bytesOf "Thu Jan  1 00:00:00 UTC 1970\n")

end BenchSweep.Machine.Shell.Utility
