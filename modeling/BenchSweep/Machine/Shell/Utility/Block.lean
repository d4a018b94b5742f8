/-
  Programs that take contents in blocks.

  Part of the stand-in for the machine (`Machine/System`).
-/
import BenchSweep.Machine.Shell.Utility.Digest
import BenchSweep.Machine.Shell.Utility.Tree

namespace BenchSweep.Machine.Shell.Utility

/-! ## Copying blocks

  Only whole contents are moved, so the sizes of blocks matter for where reading starts and stops, for what
  is filled up and for what is reported. -/

/-- The number that a word is, with a letter for a unit behind it, or the product of such numbers. -/
def blockCount? (word : Bytes) : Option Nat :=
  (List.splitOn 0x78 word).foldlM (fun product part =>
    let unit := match part.getLast? with
      | some 0x63 => some 1
      | some 0x77 => some 2
      | _ => none
    match unit with
    | some unit => (countOf? part.dropLast).map (product * unit * ·)
    | none => (sizeOf? part).map (product * ·)) 1

/-- A content over what stands in its place from some byte on. -/
def placedAt (start : Nat) (old new : Bytes) : Bytes :=
  let before := old.take start
  before ++ List.replicate (start - before.length) 0 ++ new ++ old.drop (start + new.length)

/-- Copies blocks from one file to another, or to a place in it. -/
def dd : Program := fun words s =>
  let settings := words.map fun w => (textOf (w.takeWhile (· ≠ 0x3D)), (w.dropWhile (· ≠ 0x3D)).tail)
  let known := ["if", "of", "bs", "ibs", "obs", "cbs", "count", "skip", "seek", "iseek", "oseek", "conv", "status",
    "iflag", "oflag"]
  match words.find? fun w => !(w.contains 0x3D && known.contains (textOf (w.takeWhile (· ≠ 0x3D)))) with
  | some w => misuse "dd" 1 ("unrecognized operand '" ++ textOf w ++ "'") s
  | none =>
    let value (name : String) : Option Bytes := settings.reverse.lookup name
    let number (name : String) (usual : Nat) : Nat := ((value name).bind blockCount?).getD usual
    let inputSize := max 1 (number "bs" (number "ibs" 512))
    let outputSize := max 1 (number "bs" (number "obs" 512))
    let skipped := inputSize * number "skip" (number "iseek" 0)
    let start := outputSize * number "seek" (number "oseek" 0)
    let limit := ((value "count").bind blockCount?).map (inputSize * ·)
    let conversions := List.splitOn 0x2C ((value "conv").getD [])
    let has (name : String) : Bool := conversions.contains (bytesOf name)
    let input := (value "if").getD [0x2D]
    match startOf (skipped + limit.getD 0) input s with
    | (.error fault, s) => fail "dd" 1 (bytesOf "failed to open " ++ shown input ++ because fault) s
    | (.ok content, s) =>
      let wanted := content.drop skipped
      let taken := (limit.map wanted.take).getD wanted
      -- what was read and is not wanted stays for whoever reads next
      let s := if hasBytes input "-" then s.giveBack 0 (content.length - skipped - taken.length) else s
      let change (b : UInt8) : UInt8 :=
        if has "ucase" ∧ 0x61 ≤ b ∧ b ≤ 0x7A then b - 0x20
        else if has "lcase" ∧ 0x41 ≤ b ∧ b ≤ 0x5A then b + 0x20 else b
      let short := taken.length % inputSize
      let filled := if has "sync" ∧ short ≠ 0 then List.replicate (inputSize - short) 0 else []
      let bytes := taken.map change ++ filled
      let records (size n : Nat) : String := toString (n / size) ++ "+" ++ (if n % size = 0 then "0" else "1")
      let report (s : Session) : Session :=
        if (value "status").any (hasBytes · "none") then s
        else
          let counts := records inputSize taken.length ++ " records in\n" ++ records outputSize bytes.length ++
            " records out"
          let s := s.complain counts
          if (value "status").any (hasBytes · "noxfer") then s
          else s.complain (toString bytes.length ++ " bytes copied, 0 s, 0 B/s")
      match value "of" with
      | none => (report (s.print bytes)).withStatus 0
      | some word =>
        if hasBytes word "/dev/null" then (report s).withStatus 0
        else
          let old := (s.files.read ⟨word⟩).toOption.getD []
          -- the old content behind the place is cut off unless it is to stay
          let kept := if has "notrunc" then old else old.take start
          match s.files.write ⟨word⟩ (.replace (placedAt start kept bytes)) with
          | .ok files => (report { s with files }).withStatus 0
          | .error fault => fail "dd" 1 (bytesOf "failed to open " ++ shown word ++ because fault) s

/-! ## Dividing

  Parts get names that count up from the first letter or digit, with a fixed number of places. -/

/-- The letters or digits that are counted up behind a name. -/
def countedName (digits : Bytes) (width n : Nat) : Bytes :=
  (List.range width).reverse.map fun i => digits.getD (n / Nat.pow digits.length i % digits.length) 0

/-- The parts of a content in files whose names are counted up. -/
def split : Program :=
  withOptions "split" (spec "du" "labnCt" [("lines", 'l'), ("bytes", 'b'), ("suffix-length", 'a'),
      ("numeric-suffixes", 'd'), ("additional-suffix", 'S'), ("number", 'n')]) 1 fun a s =>
    let word := a.operands.headD [0x2D]
    let front := (a.operands.drop 1).headD [0x78]
    match contentOf word s with
    | (.error fault, s) =>
      fail "split" 1 (bytesOf "cannot open " ++ shown word ++ bytesOf (" for reading: " ++ reasonOf fault)) s
    | (.ok content, s) =>
      let lines (n : Nat) : List Bytes :=
        let all := keepEnds content
        (List.range ((all.length + n - 1) / n)).map fun i => ((all.drop (i * n)).take n).flatten
      let pieces : List Bytes := match (a.value? 'b').bind sizeOf?, (a.value? 'n').bind countOf? with
        | some n, _ => piecesOfSize (max n 1) content.length content
        | none, some n =>
          -- parts of one size, the first ones with a byte more
          let (size, more) := (content.length / max n 1, content.length % max n 1)
          (List.range n).map fun i =>
            (content.drop (i * size + min i more)).take (size + if i < more then 1 else 0)
        | none, none => lines (max 1 (((a.value? 'l').bind countOf?).getD 1000))
      let digits := bytesOf (if a.has 'd' then "0123456789" else "abcdefghijklmnopqrstuvwxyz")
      let width := ((a.value? 'a').bind countOf?).getD 2
      let behind := (a.value? 'S').getD []
      (pieces.zipIdx).foldl (fun s (piece, i) =>
        match s.files.write ⟨front ++ countedName digits width i ++ behind⟩ (.replace piece) with
        | .ok files => { s with files }
        | .error fault => cannotRead "split" front fault s) s

end BenchSweep.Machine.Shell.Utility
