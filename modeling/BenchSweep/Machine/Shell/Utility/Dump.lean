/-
  Programs that show bytes as text.

  Bytes are shown as numbers of some size in some base, in lines with the place of the first byte in front,
  or six bits at a time as letters and digits.

  Part of the stand-in for the machine (`Machine/System`).
-/
import BenchSweep.Machine.Shell.Utility.Digest

namespace BenchSweep.Machine.Shell.Utility

/-! ## Six bits at a time -/

/-- The digits of the base sixty-four. -/
def sixBitDigits : Bytes := bytesOf "ABCDEFGHIJKLMNOPQRSTUVWXYZabcdefghijklmnopqrstuvwxyz0123456789+/"

/-- Bytes in groups of three as four digits each, the last group with marks up to four. -/
def sixBitText (content : Bytes) : Bytes :=
  (piecesOfSize 3 content.length content).flatMap fun piece =>
    let n := piece.foldl (fun n b => 256 * n + b.toNat) 0 * Nat.pow 256 (3 - piece.length)
    let digit (i : Nat) : UInt8 := sixBitDigits.getD (n / Nat.pow 64 (3 - i) % 64) 0
    (List.range 4).map fun i => if i ≤ piece.length then digit i else 0x3D

/-- The bytes of a text of such digits, with six bits more each time; none if something else is in it. -/
def ofSixBitText? (text : Bytes) : Option Bytes := do
  let digits := (text.reverse.dropWhile (· = 0x3D)).reverse
  let values ← digits.mapM fun b => sixBitDigits.idxOf? b
  let (out, _, _) := values.foldl (fun ((out : Bytes), (rest : Nat), (bits : Nat)) value =>
    let (rest, bits) := (64 * rest + value, bits + 6)
    if 8 ≤ bits then
      let unit := Nat.pow 2 (bits - 8)
      ((rest / unit).toUInt8 :: out, rest % unit, bits - 8)
    else (out, rest, bits)) ([], 0, 0)
  return out.reverse

/-- Contents six bits at a time, or back again. -/
def base64 : Program :=
  withOptions "base64" (spec "di" "w" [("decode", 'd'), ("ignore-garbage", 'i'), ("wrap", 'w')]) 1 fun a s =>
    let word := a.operands.headD [0x2D]
    match contentOf word s with
    | (.error fault, s) => cannotRead "base64" word fault s
    | (.ok content, s) =>
      if a.has 'd' then
        let kept := content.filter fun b =>
          b ≠ 0x0A && (!a.has 'i' || sixBitDigits.contains b || b = 0x3D)
        match ofSixBitText? kept with
        | some bytes => s.print bytes
        | none => fail "base64" 1 (bytesOf "invalid input") s
      else
        let text := sixBitText content
        let width := ((a.value? 'w').bind countOf?).getD 76
        if width = 0 then s.print text else s.print (unlines (piecesOfSize width text.length text))

/-! ## Numbers -/

/-- How the bytes of a line are shown. -/
inductive Shape where
  /-- Numbers of so many bytes in a base, with a sign if they are `signed`. -/
  | number (size base : Nat) (signed : Bool)
  /-- Letters, escapes and octal digits. -/
  | letter
  /-- Names of control characters. -/
  | named

namespace Shape

/-- How many bytes one unit takes. -/
def size : Shape → Nat
  | .number size _ _ => size
  | _ => 1

/-- How wide one number is. -/
def width : Shape → Nat
  | .number size 8 _ => (8 * size + 2) / 3
  | .number size 16 _ => 2 * size
  | .number size _ signed =>
    (match size with
      | 1 => 3
      | 2 => 5
      | 4 => 10
      | _ => 20) + (if signed ∧ size < 8 then 1 else 0)
  | _ => 3

/-- How a byte is shown as a letter. -/
def letterOf (b : UInt8) : Bytes :=
  match b with
  | 0 => bytesOf "\\0"
  | 7 => bytesOf "\\a"
  | 8 => bytesOf "\\b"
  | 9 => bytesOf "\\t"
  | 10 => bytesOf "\\n"
  | 11 => bytesOf "\\v"
  | 12 => bytesOf "\\f"
  | 13 => bytesOf "\\r"
  | _ =>
    if 0x20 ≤ b ∧ b < 0x7F then [b]
    else [b.toNat / 64 + 0x30, b.toNat / 8 % 8 + 0x30, b.toNat % 8 + 0x30].map Nat.toUInt8

/-- The names of the control characters. -/
def controlNames : List String :=
  ["nul", "soh", "stx", "etx", "eot", "enq", "ack", "bel", "bs", "ht", "nl", "vt", "ff", "cr", "so", "si", "dle",
    "dc1", "dc2", "dc3", "dc4", "nak", "syn", "etb", "can", "em", "sub", "esc", "fs", "gs", "rs", "us", "sp"]

/-- How some bytes are shown; those that are missing at the end are zeros. -/
def shown (shape : Shape) (bytes : Bytes) : Bytes :=
  match shape with
  | .letter => letterOf (bytes.headD 0)
  | .named =>
    let b := (bytes.headD 0).toNat % 128
    if b = 127 then bytesOf "del" else ((controlNames[b]?).map bytesOf).getD [b.toUInt8]
  | .number size base signed =>
    let n := ofLowBytes bytes
    let top := Nat.pow 256 size
    if signed ∧ top / 2 ≤ n then 0x2D :: Session.decimal (top - n)
    else
      let digits := Text.Utf8.encode (Nat.toDigits base n)
      if base = 10 then digits else List.replicate (shape.width - digits.length) 0x30 ++ digits

/-- The shapes that a word of letters and sizes names; or the letter that names none. -/
def ofWord : (fuel : Nat) → Bytes → Except UInt8 (List Shape)
  | _, [] => return []
  | 0, b :: _ => throw b
  | fuel + 1, b :: r => do
    let digits := r.takeWhile fun b => 0x30 ≤ b && b ≤ 0x39
    let behind := r.drop digits.length
    let (size, rest) : Nat × Bytes := match behind with
      | 0x43 :: rest => (1, rest)
      | 0x53 :: rest => (2, rest)
      | 0x49 :: rest => (4, rest)
      | 0x4C :: rest => (8, rest)
      | _ => (((countOf? digits).getD 4), behind)
    let shape ← match Char.ofNat b.toNat with
      | 'a' => pure Shape.named
      | 'c' => pure .letter
      | 'd' => pure (.number size 10 true)
      | 'o' => pure (.number size 8 false)
      | 'u' => pure (.number size 10 false)
      | 'x' => pure (.number size 16 false)
      | _ => throw b
    if !([1, 2, 4, 8].contains size) then throw b
    else
      let plain := match shape with
        | .number _ _ _ => rest
        | _ => r
      return shape :: (← ofWord fuel plain)

/-- One line of bytes in a shape, of which a whole line has `whole` bytes and takes `room` columns: what is
    left of the room is put between the numbers. -/
def line (shape : Shape) (whole room : Nat) (bytes : Bytes) : Bytes :=
  let fields := whole / shape.size
  let spare := room - fields * (shape.width + 1)
  let column (i : Nat) : Nat := spare * (fields - i) / fields
  ((piecesOfSize shape.size bytes.length bytes).zipIdx).flatMap fun (piece, i) =>
    rightIn (shape.width + 1 + column i - column (i + 1)) (shape.shown piece)

end Shape

/-- The place of a byte, in some base and at least so many digits; none for no place. -/
def placeText (base : Nat) (n : Nat) : Bytes :=
  if base = 0 then []
  else
    let digits := Text.Utf8.encode (Nat.toDigits base n)
    let width := if base = 16 then 6 else 7
    List.replicate (width - digits.length) 0x30 ++ digits

/-- Bytes between marks, with a dot for one that cannot be printed. -/
def printable (bytes : Bytes) : Bytes :=
  0x3E :: (bytes.map fun b => if 0x20 ≤ b ∧ b < 0x7F then b else 0x2E) ++ [0x3C]

/-- The lines of a content; neighbours that are alike are shown once, unless all are wanted. Where
    `withText`, the bytes stand behind the last shape. -/
def dumped (shapes : List Shape) (withText : Bool) (base whole start : Nat) (all : Bool) (content : Bytes) : Bytes :=
  let room := (shapes.map fun shape => whole / shape.size * (shape.width + 1)).foldl max 0
  let margin := List.replicate (placeText base 0).length 0x20
  let block (n : Nat) (bytes : Bytes) : Bytes :=
    (shapes.zipIdx).flatMap fun (shape, i) =>
      let line := shape.line whole room bytes
      let gap := List.replicate (room - line.length + 2) 0x20
      (if i = 0 then placeText base n else margin) ++ line ++
        (if withText ∧ i + 1 = shapes.length then gap ++ printable bytes else []) ++ [0x0A]
  let pieces := piecesOfSize whole content.length content
  let (out, _, _, _) := pieces.foldl
    (fun ((out : List Bytes), (last : Option Bytes), (starred : Bool), (n : Nat)) piece =>
    if !all ∧ last = some piece ∧ piece.length = whole then
      (if starred then out else bytesOf "*\n" :: out, last, true, n + piece.length)
    else (block n piece :: out, some piece, false, n + piece.length)) ([], none, false, start)
  out.reverse.flatten ++ (if base = 0 then [] else placeText base (start + content.length) ++ [0x0A])

/-- The bytes of contents as numbers, letters or names. -/
def od : Program :=
  let known := spec "abcdiloshvxz" "AtNjwS" [("address-radix", 'A'), ("format", 't'), ("read-bytes", 'N'),
    ("skip-bytes", 'j'), ("width", 'w'), ("output-duplicates", 'v')]
  withOptions "od" { known with valued := "AtNjS", attached := "w" } 1 fun a s =>
    let asked : Except Bytes (List (List Shape)) := a.options.mapM fun ((letter : Char), (value : Bytes)) =>
      match letter with
      | 'a' => .ok [Shape.named]
      | 'b' => .ok [.number 1 8 false]
      | 'c' => .ok [.letter]
      | 'd' => .ok [.number 2 10 false]
      | 'i' => .ok [.number 4 10 true]
      | 'l' => .ok [.number 8 10 true]
      | 'o' => .ok [.number 2 8 false]
      | 's' => .ok [.number 2 10 true]
      | 'h' | 'x' => .ok [.number 2 16 false]
      | 't' => (Shape.ofWord (value.length + 1) (value.filter (· ≠ 0x7A))).mapError fun b =>
        bytesOf "invalid character " ++ shown [b] ++ bytesOf " in type string " ++ shown value
      | 'A' =>
        if ["d", "o", "x", "n"].contains (textOf (value.take 1)) then .ok []
        else .error (bytesOf "invalid output address radix " ++ shown value ++
          bytesOf "; it must be one character from [doxn]")
      | _ => .ok []
    match asked.map List.flatten with
    | .error text => fail "od" 1 text s
    | .ok shapes =>
      let shapes := if shapes.isEmpty then [.number 2 8 false] else shapes
      let withText := (a.values 't').any fun value => value.contains 0x7A
      let base := match textOf (((a.value? 'A').getD (bytesOf "o")).take 1) with
        | "d" => 10
        | "x" => 16
        | "n" => 0
        | _ => 8
      let whole := ((a.value? 'w').bind countOf?).getD (if a.has 'w' then 32 else 16)
      let skipped := ((a.value? 'j').bind sizeOf?).getD 0
      let limit := (a.value? 'N').bind sizeOf?
      let operands := if a.operands.isEmpty then [[0x2D]] else a.operands
      let (contents, s) := operands.foldl (fun (contents, s) word =>
        match startOf (skipped + limit.getD 0) word s with
        | (.error fault, s) => (contents, cannotRead "od" word fault s)
        | (.ok content, s) => (contents ++ [content], s)) (([] : List Bytes), s)
      let content := contents.flatten.drop skipped
      if contents.isEmpty then s else
      s.print (dumped shapes withText base whole skipped (a.has 'v') ((limit.map content.take).getD content))

end BenchSweep.Machine.Shell.Utility
