/-
  Programs for columns: blanks and tabs, and lines that have a field in common.

  Part of the stand-in for the machine (`Machine/System`).
-/
import BenchSweep.Machine.Shell.Utility.Order

namespace BenchSweep.Machine.Shell.Utility

/-! ## Blanks and tabs -/

/-- A line with blanks in place of tabs, which go to the next of so many columns. -/
def withBlanks (size : Nat) (onlyFirst : Bool) (line : Bytes) : Bytes :=
  let (out, _, _) := line.foldl (fun ((out : Bytes), (column : Nat), (isFirst : Bool)) b =>
    if b = 0x09 ∧ (isFirst ∨ !onlyFirst) then
      let gap := size - column % size
      (List.replicate gap 0x20 ++ out, column + gap, isFirst)
    else (b :: out, column + 1, isFirst && b = 0x20)) ([], 0, true)
  out.reverse

/-- A line with tabs in place of blanks that reach up to the next of so many columns. -/
def withTabs (size : Nat) (everywhere : Bool) (line : Bytes) : Bytes :=
  let flush (pending : Nat) (out : Bytes) : Bytes := List.replicate pending 0x20 ++ out
  let (out, _, pending, _) := line.foldl
    (fun ((out : Bytes), (column : Nat), (pending : Nat), (isFirst : Bool)) b =>
      if (isFirst ∨ everywhere) ∧ b = 0x20 then
        if (column + 1) % size = 0 then
          if pending = 0 ∧ !isFirst then (0x20 :: out, column + 1, 0, isFirst)
          else (0x09 :: out, column + 1, 0, isFirst)
        else (out, column + 1, pending + 1, isFirst)
      else if (isFirst ∨ everywhere) ∧ b = 0x09 then
        (0x09 :: out, column + size - column % size, 0, isFirst)
      else (b :: flush pending out, column + 1, 0, false)) ([], 0, 0, true)
  (flush pending out).reverse

/-- The columns that are asked for. -/
def columnsOf (a : Arguments) : Nat := max 1 (((a.value? 't').bind countOf?).getD 8)

/-- Contents with blanks in place of tabs. -/
def expand : Program :=
  withOptions "expand" (spec "i" "t" [("initial", 'i'), ("tabs", 't')]) 1 fun a s =>
    printEach "expand" false a.operands (fun content =>
      (keepEnds content).flatMap (withBlanks (columnsOf a) (a.has 'i'))) s

/-- Contents with tabs in place of blanks. -/
def unexpand : Program :=
  withOptions "unexpand" (spec "af" "t" [("all", 'a'), ("first-only", 'f'), ("tabs", 't')]) 1 fun a s =>
    let everywhere := (a.has 'a' || (a.value? 't').isSome) && !a.has 'f'
    printEach "unexpand" false a.operands (fun content =>
      (keepEnds content).flatMap (withTabs (columnsOf a) everywhere)) s

/-! ## Common fields -/

/-- A line as its fields, and the field by which it is joined. -/
structure Row where
  key : Bytes
  fields : List Bytes

/-- What is put out for a pair of rows, of which one may be missing. -/
structure Joining where
  /-- What stands between fields; where it is none, any blanks do. -/
  divider : Option UInt8
  positions : Nat × Nat
  /-- The fields that are wanted: of which file, zero for the key, and at which place. -/
  wanted : Option (List (Nat × Nat))
  missing : Bytes
  fold : Bool

namespace Joining

/-- A line with its fields and the one by which it is joined. -/
def row (j : Joining) (position : Nat) (line : Bytes) : Row :=
  let isBlank (b : UInt8) : Bool := b = 0x20 || b = 0x09
  let fields := match j.divider with
    | some b => List.splitOn b line
    | none => (List.splitOn 0x20 (line.map fun b => if isBlank b then 0x20 else b)).filter (· ≠ [])
  ⟨fields.getD (position - 1) [], fields⟩

/-- The order of keys, with or without the case of letters. -/
def compareKeys (j : Joining) (x y : Bytes) : Ordering :=
  let form (bytes : Bytes) : Bytes :=
    if j.fold then bytes.map fun b => if 0x61 ≤ b ∧ b ≤ 0x7A then b - 0x20 else b else bytes
  compare ((form x).map UInt8.toNat) ((form y).map UInt8.toNat)

/-- The line for two rows, or for one and nothing. -/
def line (j : Joining) (x y : Option Row) : Bytes :=
  let key := ((x.or y).map Row.key).getD []
  let others (row : Option Row) (position : Nat) : List Bytes :=
    (row.map fun r => r.fields.take (position - 1) ++ r.fields.drop position).getD []
  let field (row : Option Row) (n : Nat) : Bytes :=
    match row.bind fun r => r.fields[n - 1]? with
    | some [] | none => j.missing
    | some bytes => bytes
  let fields : List Bytes := match j.wanted with
    | none => key :: others x j.positions.1 ++ others y j.positions.2
    | some wanted => wanted.map fun (file, n) =>
      if file = 0 then key else if file = 1 then field x n else field y n
  List.intercalate [j.divider.getD 0x20] fields ++ [0x0A]

/-- The rows in front that have the same key. -/
def sameKey (j : Joining) (rows : List Row) : List Row :=
  match rows with
  | [] => []
  | first :: _ => rows.takeWhile fun r => j.compareKeys r.key first.key = .eq

/-- The lines of two lists of rows in order; `alone` tells of which file rows without a partner are shown. -/
def lines (j : Joining) (paired : Bool) (alone : Nat → Bool) : (fuel : Nat) → List Row → List Row → Bytes
  | 0, _, _ => []
  | _, [], [] => []
  | fuel + 1, x :: xs, [] =>
    (if alone 1 then j.line (some x) none else []) ++ j.lines paired alone fuel xs []
  | fuel + 1, [], y :: ys =>
    (if alone 2 then j.line none (some y) else []) ++ j.lines paired alone fuel [] ys
  | fuel + 1, x :: xs, y :: ys =>
    match j.compareKeys x.key y.key with
    | .lt => (if alone 1 then j.line (some x) none else []) ++ j.lines paired alone fuel xs (y :: ys)
    | .gt => (if alone 2 then j.line none (some y) else []) ++ j.lines paired alone fuel (x :: xs) ys
    | .eq =>
      let (left, right) := (j.sameKey (x :: xs), j.sameKey (y :: ys))
      let pairs := left.flatMap fun a => right.flatMap fun b => j.line (some a) (some b)
      (if paired then pairs else []) ++
        j.lines paired alone fuel ((x :: xs).drop left.length) ((y :: ys).drop right.length)

end Joining

/-- The fields that a list such as `0,1.2,2.1` asks for. -/
def wantedFields? (list : Bytes) : Option (List (Nat × Nat)) :=
  ((List.splitOn 0x2C (list.map fun b => if b = 0x20 then 0x2C else b)).filter (· ≠ [])).mapM fun (part : Bytes) =>
    match List.splitOn 0x2E part with
    | [[0x30]] => some (0, 0)
    | [file, n] => do return (← countOf? file, ← countOf? n)
    | _ => none

/-- The lines of two files in order that have a field in common. -/
def joinProgram : Program :=
  withOptions "join" (spec "i" "12jtaveo" [("ignore-case", 'i')]) 1 fun a s =>
    let number (letter : Char) : Option Nat := (a.value? letter).bind countOf?
    match a.operands with
    | [x, y] =>
      let position (letter : Char) : Nat := ((number letter).or (number 'j')).getD 1
      let j : Joining :=
        ⟨(a.value? 't').bind List.head?, (position '1', position '2'), (a.value? 'o').bind wantedFields?,
          (a.value? 'e').getD [], a.has 'i'⟩
      let shownAlone (n : Nat) : Bool :=
        (a.values 'a' ++ a.values 'v').any fun w => countOf? w = some n
      match contents [x, y] (cannotRead "join") s with
      | ([(_, left), (_, right)], s) =>
        let (xs, ys) := ((linesOf left).map (j.row j.positions.1), (linesOf right).map (j.row j.positions.2))
        s.print (j.lines (a.values 'v').isEmpty shownAlone (xs.length + ys.length + 1) xs ys)
      | (_, s) => s
    | [] => misuse "join" 1 "missing operand" s
    | [w] => misuse "join" 1 ("missing operand after '" ++ textOf w ++ "'") s
    | _ :: _ :: w :: _ => misuse "join" 1 ("extra operand '" ++ textOf w ++ "'") s

end BenchSweep.Machine.Shell.Utility
