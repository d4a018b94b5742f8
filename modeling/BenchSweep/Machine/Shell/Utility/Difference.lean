/-
  Programs that compare files.

  Two files are compared byte by byte, for the first difference, or line by line, for a shortest list of
  edits.  That list is read off a table with the length of a longest common subsequence of every two ends.

  Part of the stand-in for the machine (`Machine/System`).
-/
import BenchSweep.Machine.Shell.Utility.Tree

namespace BenchSweep.Machine.Shell.Utility

/-- Where two contents differ first: how many bytes and lines are before. -/
def firstDifference : Nat → Nat → Bytes → Bytes → Option (Nat × Nat × Option Bool)
  | _, _, [], [] => none
  | n, l, [], _ => some (n, l, some true)
  | n, l, _, [] => some (n, l, some false)
  | n, l, a :: r, b :: t =>
    if a ≠ b then some (n, l, none) else firstDifference (n + 1) (if a = 0x0A then l + 1 else l) r t

/-- Says where two files differ first. -/
def cmp : Program :=
  withOptions "cmp" (spec "slb" "in" [("silent", 's'), ("quiet", 's')]) 2 fun a s =>
    let operands := if a.operands.length = 1 then a.operands ++ [[0x2D]] else a.operands
    let refused (word : Bytes) (fault : Files.Fault) (s : Session) : Session :=
      fail "cmp" 2 (word ++ because fault) s
    match operands with
    | [x, y] =>
      match contents [x, y] refused s with
      | ([(_, left), (_, right)], s) =>
        match firstDifference 0 0 left right with
        | none => s
        | some (n, l, none) =>
          if a.has 's' then s.withStatus 1
          else (s.print (x ++ 0x20 :: y ++
            bytesOf (" differ: char " ++ toString (n + 1) ++ ", line " ++ toString (l + 1) ++ "\n"))).withStatus 1
        | some (n, l, some isFirst) =>
          if a.has 's' then s.withStatus 1
          else
            let short := if isFirst then x else y
            let whole := if isFirst then left else right
            let text := if n = 0 then " which is empty"
              else " after byte " ++ toString n ++ ", " ++
                (if whole.getLast? = some 0x0A then "line " ++ toString l else "in line " ++ toString (l + 1))
            fail "cmp" 1 (bytesOf "EOF on " ++ short ++ bytesOf text) s
      | (_, s) => s
    | _ => misuse "cmp" 2 "missing operand" s

/-- The lengths of the longest common subsequences of the ends of two lists: for each end of the first, for
    each end of the second. -/
def commonLengths (xs ys : List Bytes) : List (List Nat) :=
  let zeros := List.replicate (ys.length + 1) 0
  xs.foldr (fun x rows =>
    let below := rows.headD zeros
    -- from the last line of the second list to the first, beside the row for the lines below
    let row := (ys.zip (below.zip below.tail)).foldr (fun (y, here, right) (row : List Nat) =>
      (if x = y then right + 1 else max here (row.headD 0)) :: row) [0]
    row :: rows) [zeros]

/-- What becomes of lines: kept, taken away or added. -/
inductive LineEdit where
  | keep
  | take (line : Bytes)
  | add (line : Bytes)

/-- The edits that lead from one list of lines to another. -/
def editsBetween : Nat → List (List Nat) → List Bytes → List Bytes → List LineEdit
  | 0, _, _, _ => []
  | _, _, [], ys => ys.map .add
  | _, _, xs, [] => xs.map .take
  | fuel + 1, rows, x :: xs, y :: ys =>
    let row := rows.headD []
    let below := rows.tail.headD []
    -- lines that agree are kept; else the side is left out that loses no common line
    if x = y then .keep :: editsBetween fuel (rows.tail.map List.tail) xs ys
    else if row.tail.headD 0 ≤ below.headD 0 then .take x :: editsBetween fuel rows.tail xs (y :: ys)
    else .add y :: editsBetween fuel (rows.map List.tail) (x :: xs) ys

/-- A group of lines taken away and added: the lines before it on both sides, and the lines. -/
structure Hunk where
  left : Nat
  right : Nat
  taken : List Bytes
  added : List Bytes

/-- Edits in groups of those that touch, with the lines of either side in front of each. -/
def hunks (left right : Nat) (current : Option Hunk) : List LineEdit → List Hunk
  | [] => current.toList
  | .keep :: r => current.toList ++ hunks (left + 1) (right + 1) none r
  | .take line :: r =>
    let h := current.getD ⟨left, right, [], []⟩
    hunks (left + 1) right (some { h with taken := h.taken ++ [line] }) r
  | .add line :: r =>
    let h := current.getD ⟨left, right, [], []⟩
    hunks left (right + 1) (some { h with added := h.added ++ [line] }) r

/-- A group as `diff` writes it. -/
def Hunk.text (h : Hunk) : Bytes :=
  let range (before n : Nat) : String :=
    if n = 0 then toString before
    else if n = 1 then toString (before + 1)
    else toString (before + 1) ++ "," ++ toString (before + n)
  let letter := if h.taken.isEmpty then "a" else if h.added.isEmpty then "d" else "c"
  bytesOf (range h.left h.taken.length ++ letter ++ range h.right h.added.length ++ "\n") ++
    (h.taken.flatMap fun l => bytesOf "< " ++ l ++ [0x0A]) ++
    (if letter = "c" then bytesOf "---\n" else []) ++
    (h.added.flatMap fun l => bytesOf "> " ++ l ++ [0x0A])

/-- Writes how one file becomes another. -/
def diff : Program :=
  withOptions "diff" (spec "qsruNibwBacdt" "UCI" [("brief", 'q'), ("report-identical-files", 's'), ("unified", 'u')]) 2
    fun a s =>
      let refused (word : Bytes) (fault : Files.Fault) (s : Session) : Session :=
        fail "diff" 2 (word ++ because fault) s
      match a.operands with
      | [x, y] =>
        match contents [x, y] refused s with
        | ([(_, left), (_, right)], s) =>
          if left = right then
            if a.has 's' then s.print (bytesOf "Files " ++ x ++ bytesOf " and " ++ y ++ bytesOf " are identical\n")
            else s
          else if a.has 'q' then
            (s.print (bytesOf "Files " ++ x ++ bytesOf " and " ++ y ++ bytesOf " differ\n")).withStatus 1
          else
            let (xs, ys) := (linesOf left, linesOf right)
            let edits := editsBetween (xs.length + ys.length + 1) (commonLengths xs ys) xs ys
            (s.print ((hunks 0 0 none edits).flatMap Hunk.text)).withStatus 1
        | (_, s) => s.withStatus 2
      | _ => misuse "diff" 2 "missing operand" s

end BenchSweep.Machine.Shell.Utility
