/-
  Patterns of the shell, matched against whole byte strings.

  `*` stands for any bytes, `?` for one byte and a bracket expression for one byte of a set; a byte that
  was quoted stands for itself.

  Part of the stand-in for the machine (`Machine/System`).
-/
import BenchSweep.Text.Utf8

namespace BenchSweep.Machine.Shell

/-- A part of a pattern. -/
inductive PatternItem where
  | literal (b : UInt8)
  | anyOne
  | anyMany
  /-- A byte within one of the ranges, or within none of them. -/
  | oneOf (negated : Bool) (ranges : List (UInt8 × UInt8))
deriving DecidableEq, Repr

/-- A pattern as the sequence of its parts. -/
abbrev Pattern := List PatternItem

/-- Bytes of which each is marked when it stands for itself. -/
abbrev Marked := List (UInt8 × Bool)

namespace Pattern

/-- The ends of a byte string, the whole of it first. -/
def suffixes : List UInt8 → List (List UInt8)
  | [] => [[]]
  | b :: r => (b :: r) :: suffixes r

/-- Whether a byte is in one of some ranges. -/
def inRanges (ranges : List (UInt8 × UInt8)) (b : UInt8) : Bool :=
  ranges.any fun (low, high) => low ≤ b && b ≤ high

/-- Whether a pattern stands for a byte string. -/
def matchesAll : Pattern → List UInt8 → Bool
  | [], s => s.isEmpty
  | .anyMany :: p, s => (suffixes s).any (matchesAll p)
  | .literal b :: p, c :: s => b == c && matchesAll p s
  | .anyOne :: p, _ :: s => matchesAll p s
  | .oneOf negated ranges :: p, c :: s => inRanges ranges c != negated && matchesAll p s
  | _ :: _, [] => false

/-- The bytes of a class by its name. -/
def classRanges? (name : String) : Option (List (UInt8 × UInt8)) :=
  match name with
  | "alnum" => some [(0x30, 0x39), (0x41, 0x5A), (0x61, 0x7A)]
  | "alpha" => some [(0x41, 0x5A), (0x61, 0x7A)]
  | "blank" => some [(0x09, 0x09), (0x20, 0x20)]
  | "cntrl" => some [(0x00, 0x1F), (0x7F, 0x7F)]
  | "digit" => some [(0x30, 0x39)]
  | "graph" => some [(0x21, 0x7E)]
  | "lower" => some [(0x61, 0x7A)]
  | "print" => some [(0x20, 0x7E)]
  | "punct" => some [(0x21, 0x2F), (0x3A, 0x40), (0x5B, 0x60), (0x7B, 0x7E)]
  | "space" => some [(0x09, 0x0D), (0x20, 0x20)]
  | "upper" => some [(0x41, 0x5A)]
  | "xdigit" => some [(0x30, 0x39), (0x41, 0x46), (0x61, 0x66)]
  | _ => none

/-- The class that begins behind an opening bracket, as in `[:digit:]`, and what follows it. -/
def class? (s : List UInt8) : Option (List (UInt8 × UInt8) × Nat) :=
  match s with
  | 0x3A :: r =>
    let name := r.takeWhile fun b => 0x61 ≤ b && b ≤ 0x7A
    match (r.drop name.length).take 2, classRanges? (String.ofList (Text.Utf8.lossy name)) with
    | [0x3A, 0x5D], some ranges => some (ranges, name.length + 3)
    | _, _ => none
  | _ => none

/-- The ranges that a bracket expression lists up to its end, and what follows it.  Its first byte is no
    end. -/
def ranges? : Nat → (first : Bool) → Marked → Option (List (UInt8 × UInt8) × Marked)
  | 0, _, _ => none
  | _, _, [] => none
  | fuel + 1, first, (a, literal) :: r =>
    if !first ∧ a = 0x5D ∧ !literal then some ([], r)
    else
      match if a = 0x5B ∧ !literal then class? (r.map Prod.fst) else none with
      | some (ranges, taken) =>
        (ranges? fuel false (r.drop taken)).map fun (more, rest) => (ranges ++ more, rest)
      | none =>
        match r with
        | (0x2D, _) :: (c, closing) :: rest =>
          if c = 0x5D ∧ !closing then (ranges? fuel false r).map fun (more, rest) => ((a, a) :: more, rest)
          else (ranges? fuel false rest).map fun (more, rest) => ((a, c) :: more, rest)
        | _ => (ranges? fuel false r).map fun (more, rest) => ((a, a) :: more, rest)

/-- The bracket expression behind its opening bracket, and what follows it. -/
def bracket? (s : Marked) : Option (PatternItem × Marked) :=
  let negated := s.head? = some (0x21, false)
  let s := if negated then s.tail else s
  (ranges? (s.length + 1) true s).map fun (ranges, rest) => (.oneOf negated ranges, rest)

/-- The pattern of marked bytes, in at most `fuel` parts. -/
def ofMarkedWithin : Nat → Marked → Pattern
  | 0, _ => []
  | _, [] => []
  | fuel + 1, (b, literal) :: r =>
    if literal then .literal b :: ofMarkedWithin fuel r
    else if b = 0x2A then .anyMany :: ofMarkedWithin fuel r
    else if b = 0x3F then .anyOne :: ofMarkedWithin fuel r
    else if b = 0x5B then
      match bracket? r with
      | some (item, rest) => item :: ofMarkedWithin fuel rest
      | none => .literal b :: ofMarkedWithin fuel r
    else .literal b :: ofMarkedWithin fuel r

/-- The pattern of marked bytes. -/
def ofMarked (s : Marked) : Pattern := ofMarkedWithin s.length s

/-- Whether a pattern has a part that stands for more than one byte string. -/
def isOpen (p : Pattern) : Bool :=
  p.any fun
    | .literal _ => false
    | _ => true

/-- What is left of a byte string without the shortest, or the longest, beginning that matches. -/
def cutFront (p : Pattern) (longest : Bool) (s : List UInt8) : List UInt8 :=
  let lengths := List.range (s.length + 1)
  match (if longest then lengths.reverse else lengths).find? fun n => p.matchesAll (s.take n) with
  | some n => s.drop n
  | none => s

/-- Where the shortest, or the longest, end of a byte string begins that matches. -/
def endStart? (p : Pattern) (longest : Bool) (s : List UInt8) : Option Nat :=
  let lengths := List.range (s.length + 1)
  (if longest then lengths else lengths.reverse).find? fun n => p.matchesAll (s.drop n)

/-- What is left of a byte string without the shortest, or the longest, end that matches. -/
def cutBack (p : Pattern) (longest : Bool) (s : List UInt8) : List UInt8 :=
  match p.endStart? longest s with
  | some n => s.take n
  | none => s

/-- What is left of words when a beginning is cut off: only the first word is looked at.  If the longest
    beginning is all of it, nothing is left. -/
def cutFrontOfAll (p : Pattern) (longest : Bool) : List (List UInt8) → List (List UInt8)
  | [] => []
  | first :: rest => if longest && p.matchesAll first then [[]] else p.cutFront longest first :: rest

/-- What is left of words when the shortest end is cut off, with the words behind it; none if there is no
    such end. -/
def cutShortest? (p : Pattern) : List (List UInt8) → Option (List (List UInt8))
  | [] => none
  | first :: rest =>
    match cutShortest? p rest with
    | some kept => some (first :: kept)
    | none => (p.endStart? false first).map fun n => [first.take n]

/-- What is left of words when an end is cut off, with the words behind it: the longest one begins in the
    first word. -/
def cutBackOfAll (p : Pattern) (longest : Bool) (words : List (List UInt8)) : List (List UInt8) :=
  if longest then
    match words with
    | [] => []
    | first :: _ => ((p.endStart? true first).map fun n => [first.take n]).getD words
  else (cutShortest? p words).getD words

end Pattern
end BenchSweep.Machine.Shell
