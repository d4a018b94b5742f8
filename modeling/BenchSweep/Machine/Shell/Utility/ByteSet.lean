/-
  Sets of bytes, and the program that exchanges, squeezes and deletes the bytes of a set.

  Part of the stand-in for the machine (`Machine/System`).
-/
import BenchSweep.Machine.Shell.Format
import BenchSweep.Machine.Shell.Pattern
import BenchSweep.Machine.Shell.Utility.Options

namespace BenchSweep.Machine.Shell.Utility

/-- The bytes from one to another. -/
def bytesBetween (low high : UInt8) : Bytes :=
  (List.range (high.toNat + 1 - low.toNat)).map fun i => low + i.toUInt8

/-- The byte at the front of a set, where a backslash has a meaning, and the rest. -/
def setByte (s : Bytes) : Option (UInt8 × Bytes) :=
  match s with
  | [] => none
  | 0x5C :: r =>
    match r with
    | [] => some (0x5C, [])
    | c :: rest =>
      if isOctal c then
        let (n, rest) := octal 3 r
        some (n.toUInt8, rest)
      else match escapeOf? c with
        | some b => if c = 0x65 then some (c, rest) else some (b, rest)
        | none => some (c, rest)
  | b :: r => some (b, r)

/-- A set of bytes in order.  An entry with a count of zero fills the set up to a length. -/
def setItems : Nat → Bytes → Option (List (UInt8 × Option Nat))
  | 0, _ => some []
  | _, [] => some []
  | fuel + 1, s =>
    let named : Option (Bytes × Bytes) :=
      match s with
      | 0x5B :: r => (Pattern.class? r).map fun (ranges, taken) =>
        (ranges.flatMap fun (low, high) => bytesBetween low high, r.drop taken)
      | _ => none
    match named with
    | some (bytes, rest) => (setItems fuel rest).map fun more => bytes.map (·, some 1) ++ more
    | none =>
      match s with
      -- `[b*n]` stands for so many of a byte, and `[b*]` for as many as are missing
      | 0x5B :: b :: 0x2A :: r =>
        let digits := r.takeWhile (· ≠ 0x5D)
        match r.drop digits.length with
        | _ :: rest =>
          let n : Nat := digits.foldl (fun (n : Nat) d => 10 * n + (d.toNat - 48)) 0
          (setItems fuel rest).map fun more => (b, if n = 0 then none else some n) :: more
        | [] => (setItems fuel s.tail).map fun more => (0x5B, some 1) :: more
      | _ => do
        let (low, rest) ← setByte s
        match rest with
        | 0x2D :: r =>
          match setByte r with
          | none => return (low, some 1) :: (0x2D, some 1) :: []
          | some (high, rest) =>
            -- a range that goes down is refused
            if high < low then none
            else return (bytesBetween low high).map (·, some 1) ++ (← setItems fuel rest)
        | _ => return (low, some 1) :: (← setItems fuel rest)

/-- The bytes of a set that is filled up to a length where it can be. -/
def setBytes (length : Nat) (items : List (UInt8 × Option Nat)) : Bytes :=
  let fixed := (items.map fun (_, n) => n.getD 0).foldl (· + ·) 0
  items.flatMap fun (b, n) => List.replicate (n.getD (length - fixed)) b

/-- A byte string without the repetitions of bytes of a set. -/
def squeeze (set : Bytes) : Bytes → Bytes
  | [] => []
  | b :: r =>
    match squeeze set r with
    | c :: rest => if b = c ∧ set.contains b then c :: rest else b :: c :: rest
    | [] => [b]

/-- Contents with the bytes of a set exchanged, squeezed or deleted. -/
def exchange : Program :=
  withOptions "tr" (spec "cCdst" "" [("complement", 'c'), ("delete", 'd'), ("squeeze-repeats", 's'),
      ("truncate-set1", 't')]) 1 fun a s =>
    let complements := a.has 'c' || a.has 'C'
    let items (word : Bytes) : Option (List (UInt8 × Option Nat)) := setItems (word.length + 1) word
    match a.operands.mapM items with
    | none => fail "tr" 1 (bytesOf "range-endpoints are in reverse collating sequence order") s
    | some [] => misuse "tr" 1 "missing operand" s
    | some (first :: others) =>
      let listedFirst := setBytes 0 first
      let set1 := if complements then (bytesBetween 0 255).filter fun b => !listedFirst.contains b
        else listedFirst
      let set2? := others.head?.map (setBytes set1.length)
      let word := textOf (a.operands.headD [])
      if 1 < others.length then misuse "tr" 1 "extra operand" s
      else if a.has 'd' then
        match set2?, a.has 's' with
        | some _, false => misuse "tr" 1 "extra operand" s
        | none, true => misuse "tr" 1 ("missing operand after '" ++ word ++ "'") s
        | _, squeezes =>
          let (input, s) := s.takeAll 0
          let kept := input.filter fun b => !set1.contains b
          s.print (if squeezes then squeeze (set2?.getD []) kept else kept)
      else
        match set2? with
        | none =>
          if a.has 's' then
            let (input, s) := s.takeAll 0
            s.print (squeeze set1 input)
          else misuse "tr" 1 ("missing operand after '" ++ word ++ "'") s
        | some set2 =>
          if set2.isEmpty ∧ !a.has 't' then
            fail "tr" 1 (bytesOf "when not truncating set1, string2 must be non-empty") s
          else
            let set1 := if a.has 't' then set1.take set2.length else set1
            -- the last byte of the second set stands for those that it lacks
            let filled := set2 ++ List.replicate (set1.length - set2.length) (set2.getLast?.getD 0)
            -- of two entries for one byte the later one counts
            let pairs := (set1.zip filled).reverse
            let change (b : UInt8) : UInt8 := (pairs.lookup b).getD b
            let (input, s) := s.takeAll 0
            let out := input.map change
            s.print (if a.has 's' then squeeze set2 out else out)

end BenchSweep.Machine.Shell.Utility
