/-
  Sorting lines.

  Lines are compared by keys, in order: parts of the lines that are compared as texts or as numbers.  Lines
  with equal keys are compared as a whole at last, unless their order is to stay.

  Part of the stand-in for the machine (`Machine/System`).
-/
import BenchSweep.Machine.Shell.Expansion
import BenchSweep.Machine.Shell.Utility.Lines

namespace BenchSweep.Machine.Shell.Utility

/-- How parts of lines are compared. -/
structure Comparison where
  numeric : Bool
  reverse : Bool
  fold : Bool
  skipBlanks : Bool
  dictionary : Bool
deriving DecidableEq, Repr

/-- The comparison that letters ask for. -/
def Comparison.ofLetters (letters : Bytes) : Comparison :=
  let has (c : Char) : Bool := letters.contains c.toNat.toUInt8
  ⟨has 'n' || has 'g' || has 'h', has 'r', has 'f', has 'b', has 'd'⟩

/-- A place in a line: a field, and a character in it; both count from one. -/
structure Spot where
  field : Nat
  char : Option Nat

/-- A key: from one place to another one, and how it is compared. -/
structure Key where
  start : Spot
  stop : Option Spot
  comparison : Comparison
  /-- Whether the key says itself how it is compared. -/
  own : Bool

/-- A decimal number at the front, and the rest. -/
def leadingCount (s : Bytes) : Option (Nat × Bytes) :=
  let ds := s.takeWhile fun b => 0x30 ≤ b && b ≤ 0x39
  (countOf? ds).map fun n => (n, s.drop ds.length)

/-- A place such as `2.3`, and the letters behind it. -/
def spot? (s : Bytes) : Option (Spot × Bytes) := do
  let (field, rest) ← leadingCount s
  match rest with
  | 0x2E :: r =>
    let (char, rest) ← leadingCount r
    return (⟨field, some char⟩, rest)
  | _ => return (⟨field, none⟩, rest)

/-- A key such as `2,3n`. -/
def key? (s : Bytes) : Option Key := do
  let (start, rest) ← spot? s
  let letters := rest.takeWhile (· ≠ 0x2C)
  match rest.drop letters.length with
  | _ :: r =>
    let (stop, more) ← spot? r
    return ⟨start, some stop, .ofLetters (letters ++ more), !(letters ++ more).isEmpty⟩
  | [] => return ⟨start, none, .ofLetters letters, !letters.isEmpty⟩

/-- A space or a tab. -/
def isBlankByte (b : UInt8) : Bool := b = 0x20 || b = 0x09

/-- The position behind a field that begins at the front: blanks and what follows them, or all up to the
    separator. -/
def fieldLength (separator : Option UInt8) (s : Bytes) : Nat :=
  match separator with
  | some b => (s.takeWhile (· ≠ b)).length
  | none =>
    let blanks := (s.takeWhile isBlankByte).length
    blanks + ((s.drop blanks).takeWhile fun b => !isBlankByte b).length

/-- The position where a field begins; without a separator, with the blanks before it. -/
def fieldStart (separator : Option UInt8) (line : Bytes) : Nat → Nat
  | 0 => 0
  | n + 1 =>
    let before := fieldStart separator line n
    let position := before + fieldLength separator (line.drop before)
    if separator.isSome ∧ position < line.length then position + 1 else position

/-- The part of a line for a key. -/
def Key.part (separator : Option UInt8) (k : Key) (line : Bytes) : Bytes :=
  let skip (position : Nat) : Nat :=
    if k.comparison.skipBlanks then position + ((line.drop position).takeWhile isBlankByte).length else position
  let start := min line.length (skip (fieldStart separator line (k.start.field - 1)) + (k.start.char.getD 1 - 1))
  let stop : Nat := match k.stop with
    | none => line.length
    | some spot =>
      let begins := fieldStart separator line (spot.field - 1)
      match spot.char with
      | none | some 0 => begins + fieldLength separator (line.drop begins)
      | some n => skip begins + n
  (line.take stop).drop start

/-- A number at the front of a text: its sign, the digits before the point without zeros in front, and
    those behind it without zeros at the end. -/
structure Decimal where
  negative : Bool
  whole : Bytes
  fraction : Bytes

/-- The number at the front of a line, behind blanks. -/
def Decimal.ofBytes (s : Bytes) : Decimal :=
  let isDigit (b : UInt8) : Bool := 0x30 ≤ b && b ≤ 0x39
  let s := s.dropWhile isBlankByte
  let (negative, s) := if s.head? = some 0x2D then (true, s.tail) else (false, s)
  let whole := (s.takeWhile isDigit).dropWhile (· = 0x30)
  let fraction := match s.dropWhile isDigit with
    | 0x2E :: r => ((r.takeWhile isDigit).reverse.dropWhile (· = 0x30)).reverse
    | _ => []
  ⟨negative && !(whole.isEmpty && fraction.isEmpty), whole, fraction⟩

/-- The order of bytes. -/
def compareBytes (a b : Bytes) : Ordering :=
  if a = b then .eq else if precedes a b then .lt else .gt

/-- The order of numbers: sign, length and digits. -/
def Decimal.compare (a b : Decimal) : Ordering :=
  let size (a b : Decimal) : Ordering :=
    (Ord.compare a.whole.length b.whole.length).then
      ((compareBytes a.whole b.whole).then (compareBytes a.fraction b.fraction))
  match a.negative, b.negative with
  | true, false => .lt
  | false, true => .gt
  | true, true => size b a
  | false, false => size a b

/-- Two parts of lines compared. -/
def Comparison.compare (c : Comparison) (a b : Bytes) : Ordering :=
  let order :=
    if c.numeric then (Decimal.ofBytes a).compare (Decimal.ofBytes b)
    else
      let keeps (b : UInt8) : Bool :=
        isBlankByte b || (0x30 ≤ b && b ≤ 0x39) || (0x41 ≤ b && b ≤ 0x5A) || (0x61 ≤ b && b ≤ 0x7A)
      let upper (b : UInt8) : UInt8 := if 0x61 ≤ b ∧ b ≤ 0x7A then b - 0x20 else b
      let reading (s : Bytes) : Bytes :=
        let s := if c.dictionary then s.filter keeps else s
        if c.fold then s.map upper else s
      compareBytes (reading a) (reading b)
  if c.reverse then order.swap else order

/-- Lines compared by keys. -/
def compareKeys (separator : Option UInt8) (keys : List Key) (a b : Bytes) : Ordering :=
  keys.foldl (fun order k =>
    order.then (k.comparison.compare (k.part separator a) (k.part separator b))) .eq

/-- One line for each run of lines that compare as equal. -/
def firstOfEach (compare : Bytes → Bytes → Ordering) : List Bytes → List Bytes
  | [] => []
  | line :: rest =>
    match firstOfEach compare rest with
    | next :: more => if compare line next = .eq then line :: more else line :: next :: more
    | [] => [line]

/-- The first line that is out of order, with its number. -/
def disorder? (wrong : Bytes → Bytes → Bool) : Nat → List Bytes → Option (Nat × Bytes)
  | n, a :: b :: rest => if wrong a b then some (n + 1, b) else disorder? wrong (n + 1) (b :: rest)
  | _, _ => none

/-- Writes the lines of files in order. -/
def sort : Program :=
  withOptions "sort" (spec "bdfginrsucCmMRVhz" "kotST" [("key", 'k'), ("numeric-sort", 'n'), ("reverse", 'r'),
      ("unique", 'u'), ("field-separator", 't'), ("ignore-case", 'f'), ("ignore-leading-blanks", 'b'),
      ("stable", 's'), ("check", 'c'), ("output", 'o'), ("merge", 'm')]) 2 fun a s =>
    let global := Comparison.ofLetters (a.options.map fun o => o.1.toNat.toUInt8)
    match (a.values 'k').mapM key? with
    | none => fail "sort" 2 (bytesOf "invalid key") s
    | some keys =>
      let separator := (a.value? 't').bind List.head?
      let keys := keys.map fun k => if k.own then k else { k with comparison := global }
      let byKeys (x y : Bytes) : Ordering :=
        if keys.isEmpty then
          global.compare (if global.skipBlanks then x.dropWhile isBlankByte else x)
            (if global.skipBlanks then y.dropWhile isBlankByte else y)
        else compareKeys separator keys x y
      let whole (x y : Bytes) : Ordering :=
        if a.has 's' || a.has 'u' then .eq
        else if global.reverse then compareBytes y x
        else compareBytes x y
      let order (x y : Bytes) : Ordering := (byKeys x y).then (whole x y)
      let refused (word : Bytes) (fault : Files.Fault) (s : Session) : Session :=
        fail "sort" 2 (bytesOf "cannot read: " ++ word ++ bytesOf (": " ++ reasonOf fault)) s
      let (found, s) := contents a.operands refused s
      if s.status ≠ 0 then s
      else
        let lines := found.flatMap fun (_, content) => linesOf content
        if a.has 'c' || a.has 'C' then
          let wrong (x y : Bytes) : Bool :=
            if a.has 'u' then byKeys x y ≠ .lt else order x y = .gt
          match disorder? wrong 1 lines with
          | none => s
          | some (n, line) =>
            if a.has 'C' then s.withStatus 1
            else
              let place := (found.head?.elim [] Prod.fst) ++ bytesOf (":" ++ toString n ++ ": disorder: ")
              fail "sort" 1 (place ++ line) s
        else
          let sorted := lines.mergeSort fun x y => order x y ≠ .gt
          let out := unlines (if a.has 'u' then firstOfEach byKeys sorted else sorted)
          match a.value? 'o' with
          | none => s.print out
          | some word =>
            match s.files.write ⟨word⟩ (.replace out) with
            | .ok files => { s with files }
            | .error fault => fail "sort" 2 (bytesOf "open failed: " ++ word ++ bytesOf (": " ++ reasonOf fault)) s

end BenchSweep.Machine.Shell.Utility
