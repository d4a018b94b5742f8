/-
  Regular expressions over bytes, in their basic and their extended form.

  `Regex.run` gives every way in which an expression matches from a position on, the greedy ones first;
  `Regex.search?` takes the leftmost match and of those the longest.

  Part of the stand-in for the machine (`Machine/System`).
-/
import BenchSweep.Machine.Shell.Pattern
import BenchSweep.Machine.Shell.Script

namespace BenchSweep.Machine.Shell.Utility

/-- Regular expressions over bytes. -/
inductive Regex where
  | empty
  | byte (b : UInt8)
  | any
  | oneOf (negated : Bool) (ranges : List (UInt8 × UInt8))
  | lineStart
  | lineEnd
  | wordStart
  | wordEnd
  | wordEdge (holds : Bool)
  | group (n : Nat) (r : Regex)
  | sequence (first second : Regex)
  | either (first second : Regex)
  | repeated (r : Regex) (low : Nat) (high : Option Nat)
  /-- What a group has matched. -/
  | again (n : Nat)
deriving DecidableEq, Repr

namespace Regex

/-! ## Matching -/

/-- Where a match stands: the byte before, what is left of the text, how far it is read, and what the groups
    have matched, the last match of each in front. -/
structure State where
  before : Option UInt8
  rest : Bytes
  position : Nat
  groups : List (Nat × Bytes)
deriving DecidableEq, Repr

/-- How texts are compared. -/
structure Reading where
  fold : Bool
deriving DecidableEq, Repr

/-- A byte that may stand in a word. -/
def isWordByte (b : UInt8) : Bool :=
  (0x30 ≤ b && b ≤ 0x39) || (0x41 ≤ b && b ≤ 0x5A) || (0x61 ≤ b && b ≤ 0x7A) || b = 0x5F

/-- A letter as a small one. -/
def lower (b : UInt8) : UInt8 := if 0x41 ≤ b ∧ b ≤ 0x5A then b + 0x20 else b

/-- A letter as a large one. -/
def upper (b : UInt8) : UInt8 := if 0x61 ≤ b ∧ b ≤ 0x7A then b - 0x20 else b

/-- Goes over the next bytes of the text. -/
def State.skip (s : State) (n : Nat) : State :=
  if n = 0 then s
  else { s with before := s.rest[n - 1]?, rest := s.rest.drop n, position := s.position + n }

/-- Goes over the next byte if it is one that is wanted. -/
def State.take (s : State) (wanted : UInt8 → Bool) : List State :=
  match s.rest with
  | b :: _ => if wanted b then [s.skip 1] else []
  | [] => []

/-- One state or none. -/
def State.onlyIf (s : State) (holds : Bool) : List State := if holds then [s] else []

/-- States without those that come again. -/
def distinct : List State → List State
  | [] => []
  | s :: r => s :: (distinct r).filter fun t => !(t.position = s.position && t.groups = s.groups)

/-- Every way to repeat a step at least `low` times, the ways with more rounds first.  Rounds beyond those
    that are wanted must go forward. -/
def iterate (step : State → List State) : Nat → (low : Nat) → (high : Option Nat) → State → List State
  | 0, low, _, s => if low = 0 then [s] else []
  | fuel + 1, low, high, s =>
    let next := if high = some 0 then []
      else (step s).filter fun t => 0 < low || s.position < t.position
    let more := next.flatMap (iterate step fuel (low - 1) (high.map (· - 1)))
    let all := more ++ if low = 0 then [s] else []
    if next.length ≤ 1 then all else distinct all

/-- Every way in which an expression matches from a state on. -/
def run (reading : Reading) : Regex → State → List State
  | .empty, s => [s]
  | .byte b, s =>
    s.take fun c => if reading.fold then lower c = lower b else c = b
  | .any, s => s.take fun _ => true
  | .oneOf negated ranges, s =>
    let holds (c : UInt8) : Bool := Pattern.inRanges ranges c
    s.take fun c => (holds c || (reading.fold && (holds (lower c) || holds (upper c)))) != negated
  | .lineStart, s => s.onlyIf (s.position = 0)
  | .lineEnd, s => s.onlyIf s.rest.isEmpty
  | .wordStart, s => s.onlyIf (!s.before.any isWordByte && s.rest.head?.any isWordByte)
  | .wordEnd, s => s.onlyIf (s.before.any isWordByte && !s.rest.head?.any isWordByte)
  | .wordEdge holds, s =>
    s.onlyIf ((s.before.any isWordByte != s.rest.head?.any isWordByte) = holds)
  | .group n r, s =>
    (run reading r s).map fun t =>
      { t with groups := (n, s.rest.take (t.position - s.position)) :: t.groups.filter (·.1 ≠ n) }
  | .sequence first second, s => distinct ((run reading first s).flatMap (run reading second))
  | .either first second, s => distinct (run reading first s ++ run reading second s)
  | .repeated r low high, s => iterate (run reading r) (s.rest.length + low + 1) low high s
  | .again n, s =>
    match s.groups.lookup n with
    | none => []
    | some text =>
      let found := s.rest.take text.length
      let same := if reading.fold then found.map lower = text.map lower else found = text
      if same then [s.skip text.length] else []

/-- A match: where it begins, how long it is, and what the groups have matched. -/
structure Match where
  start : Nat
  length : Nat
  groups : List (Nat × Bytes)
deriving DecidableEq, Repr

/-- The longest way to match from a state on; of equally long ones the first. -/
def longest? (reading : Reading) (r : Regex) (s : State) : Option State :=
  (run reading r s).foldl (fun best t =>
    match best with
    | some b => if b.position < t.position then some t else best
    | none => some t) none

/-- The leftmost and longest match, from a position of the text on. -/
def searchFrom? (reading : Reading) (r : Regex) : Nat → State → Option Match
  | 0, _ => none
  | fuel + 1, s =>
    match longest? reading r { s with groups := [] } with
    | some t => some ⟨s.position, t.position - s.position, t.groups⟩
    | none => if s.rest.isEmpty then none else searchFrom? reading r fuel (s.skip 1)

/-- The leftmost and longest match in a text behind a position. -/
def search? (reading : Reading) (r : Regex) (text : Bytes) (first : Nat) : Option Match :=
  let s : State := ⟨none, text, 0, []⟩
  searchFrom? reading r (text.length + 1) (s.skip first)

/-- Whether an expression matches anywhere in a text. -/
def matches? (reading : Reading) (r : Regex) (text : Bytes) : Bool := (search? reading r text 0).isSome

/-! ## Reading expressions -/

/-- A part of an expression that is read: what it is, how many groups have been opened, and the rest. -/
structure Read where
  regex : Regex
  groups : Nat
  rest : Bytes

/-- The expression of a byte behind a backslash that has a meaning in both forms. -/
def escaped? (b : UInt8) : Option Regex :=
  let wordRanges : List (UInt8 × UInt8) := [(0x30, 0x39), (0x41, 0x5A), (0x5F, 0x5F), (0x61, 0x7A)]
  let spaceRanges : List (UInt8 × UInt8) := [(0x09, 0x0D), (0x20, 0x20)]
  match Char.ofNat b.toNat with
  | '<' => some .wordStart
  | '>' => some .wordEnd
  | 'b' => some (.wordEdge true)
  | 'B' => some (.wordEdge false)
  | 'w' => some (.oneOf false wordRanges)
  | 'W' => some (.oneOf true wordRanges)
  | 's' => some (.oneOf false spaceRanges)
  | 'S' => some (.oneOf true spaceRanges)
  | 'n' => some (.byte 0x0A)
  | 't' => some (.byte 0x09)
  | _ => none

/-- The ranges of a bracket expression up to its end, and the rest; its first byte is no end. -/
def bracketRanges? : Nat → (first : Bool) → Bytes → Option (List (UInt8 × UInt8) × Bytes)
  | 0, _, _ => none
  | _, _, [] => none
  | fuel + 1, first, a :: r =>
    if !first ∧ a = 0x5D then some ([], r)
    else
      match if a = 0x5B then Pattern.class? r else none with
      | some (ranges, taken) =>
        (bracketRanges? fuel false (r.drop taken)).map fun (more, rest) => (ranges ++ more, rest)
      | none =>
        match r with
        | 0x2D :: c :: rest =>
          if c = 0x5D then (bracketRanges? fuel false r).map fun (more, rest) => ((a, a) :: more, rest)
          else if c < a then none
          else (bracketRanges? fuel false rest).map fun (more, rest) => ((a, c) :: more, rest)
        | _ => (bracketRanges? fuel false r).map fun (more, rest) => ((a, a) :: more, rest)

/-- The bracket expression behind its opening bracket, and the rest. -/
def bracket? (s : Bytes) : Option (Regex × Bytes) :=
  let negated := s.head? = some 0x5E
  let s := if negated then s.tail else s
  (bracketRanges? (s.length + 1) true s).map fun (ranges, rest) => (.oneOf negated ranges, rest)

/-- The bounds of a repetition up to the closing brace, and the rest. -/
def bounds? (extended : Bool) (s : Bytes) : Option (Nat × Option Nat × Bytes) :=
  let isDigit (b : UInt8) : Bool := 0x30 ≤ b && b ≤ 0x39
  let value (ds : Bytes) : Nat := ds.foldl (fun (n : Nat) b => 10 * n + (b.toNat - 48)) 0
  let close (s : Bytes) : Option Bytes :=
    match extended, s with
    | true, 0x7D :: r => some r
    | false, 0x5C :: 0x7D :: r => some r
    | _, _ => none
  let low := s.takeWhile isDigit
  match s.drop low.length with
  | 0x2C :: r =>
    let high := r.takeWhile isDigit
    (close (r.drop high.length)).map fun rest =>
      (value low, if high.isEmpty then none else some (value high), rest)
  | r => if low.isEmpty then none else (close r).map fun rest => (value low, some (value low), rest)

/-- The sign of a repetition at the front, as its bounds, and the rest. -/
def repetition? (extended : Bool) (s : Bytes) : Option (Nat × Option Nat × Bytes) :=
  match extended, s with
  | _, 0x2A :: r => some (0, none, r)
  | true, 0x2B :: r => some (1, none, r)
  | true, 0x3F :: r => some (0, some 1, r)
  | true, 0x7B :: r => bounds? true r
  | false, 0x5C :: 0x2B :: r => some (1, none, r)
  | false, 0x5C :: 0x3F :: r => some (0, some 1, r)
  | false, 0x5C :: 0x7B :: r => bounds? false r
  | _, _ => none

/-- What stands behind the sign of an alternative at the front. -/
def alternative? (extended : Bool) (s : Bytes) : Option Bytes :=
  match extended, s with
  | true, 0x7C :: r => some r
  | false, 0x5C :: 0x7C :: r => some r
  | _, _ => none

/-- What stands behind the sign that closes a group at the front. -/
def closing? (extended : Bool) (s : Bytes) : Option Bytes :=
  match extended, s with
  | true, 0x29 :: r => some r
  | false, 0x5C :: 0x29 :: r => some r
  | _, _ => none

/-- A part with its repetitions. -/
def repeatedPart (extended : Bool) : Nat → Read → Read
  | 0, part => part
  | fuel + 1, part =>
    match repetition? extended part.rest with
    | some (low, high, rest) =>
      repeatedPart extended fuel { part with regex := .repeated part.regex low high, rest }
    | none => part

mutual

/-- Alternatives up to the end of the expression or of the group. -/
def alternatives? (extended : Bool) (fuel groups : Nat) (inside : Bool) (s : Bytes) : Option Read :=
  match fuel with
  | 0 => none
  | fuel + 1 => do
    let first ← branch? extended fuel groups inside true s
    match alternative? extended first.rest with
    | some rest =>
      let others ← alternatives? extended fuel first.groups inside rest
      return { others with regex := .either first.regex others.regex }
    | none => return first

/-- Parts one after the other; `atStart` holds at the beginning of them. -/
def branch? (extended : Bool) (fuel groups : Nat) (inside atStart : Bool) (s : Bytes) : Option Read :=
  match fuel with
  | 0 => none
  | fuel + 1 =>
    if s.isEmpty ∨ (alternative? extended s).isSome ∨ (inside ∧ (closing? extended s).isSome) then
      some ⟨.empty, groups, s⟩
    else do
      let part ← part? extended fuel groups inside atStart s
      let isAnchor := part.regex = .lineStart && !extended
      let part := if isAnchor then part else repeatedPart extended part.rest.length part
      let others ← branch? extended fuel part.groups inside (isAnchor && atStart) part.rest
      return { others with regex := .sequence part.regex others.regex }

/-- One part without its repetitions. -/
def part? (extended : Bool) (fuel groups : Nat) (inside atStart : Bool) (s : Bytes) : Option Read :=
  match fuel with
  | 0 => none
  | fuel + 1 =>
    let group (r : Bytes) : Option Read := do
      let inner ← alternatives? extended fuel (groups + 1) true r
      let rest ← closing? extended inner.rest
      return { inner with regex := .group (groups + 1) inner.regex, rest }
    match s with
    | [] => none
    | 0x5C :: r =>
      match r with
      | [] => none
      | c :: rest =>
        if !extended ∧ c = 0x28 then group rest
        else if 0x31 ≤ c ∧ c ≤ 0x39 then
          let n := c.toNat - 48
          if n ≤ groups then some ⟨.again n, groups, rest⟩ else none
        else match escaped? c with
          | some regex => some ⟨regex, groups, rest⟩
          | none =>
            if !extended ∧ (c = 0x29 ∨ c = 0x7B) then none else some ⟨.byte c, groups, rest⟩
    | c :: rest =>
      let literal : Option Read := some ⟨.byte c, groups, rest⟩
      if c = 0x2E then some ⟨.any, groups, rest⟩
      else if c = 0x5B then (bracket? rest).map fun (regex, rest) => ⟨regex, groups, rest⟩
      else if c = 0x5E ∧ (extended ∨ atStart) then some ⟨.lineStart, groups, rest⟩
      else if c = 0x24 ∧ (extended ∨ rest.isEmpty ∨ (alternative? extended rest).isSome ∨
          (inside ∧ (closing? extended rest).isSome)) then some ⟨.lineEnd, groups, rest⟩
      else if extended ∧ c = 0x28 then group rest
      else literal

end

/-- The expression of a text. -/
def parse? (extended : Bool) (s : Bytes) : Option Regex :=
  match alternatives? extended (4 * s.length + 8) 0 false s with
  | some ⟨regex, _, []⟩ => some regex
  | _ => none

/-- The expression that matches a text itself. -/
def literal (s : Bytes) : Regex := s.foldr (fun b r => .sequence (.byte b) r) .empty

end Regex
end BenchSweep.Machine.Shell.Utility
