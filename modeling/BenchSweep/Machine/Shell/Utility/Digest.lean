/-
  Programs that tell contents apart by short numbers.

  A digest takes a content in blocks of sixty-four bytes, with a mark and the length behind it, and mixes
  each block into a few words of thirty-two bits.  What differs from one digest to the next is how a block is
  mixed, and whether the low or the high byte of a word comes first.

  Part of the stand-in for the machine (`Machine/System`).
-/
import BenchSweep.Machine.Shell.Utility.Lines

namespace BenchSweep.Machine.Shell.Utility

/-! ## Words -/

/-- A word with its bits turned to the left. -/
def turnedLeft (x n : UInt32) : UInt32 := (x <<< n) ||| (x >>> (32 - n))

/-- The lowest bytes of a number, the low one first. -/
def lowBytes : (count : Nat) → Nat → Bytes
  | 0, _ => []
  | count + 1, n => n.toUInt8 :: lowBytes count (n / 256)

/-- The number of some bytes, the low one first. -/
def ofLowBytes (bytes : Bytes) : Nat := bytes.foldr (fun b n => 256 * n + b.toNat) 0

/-- A content with what comes behind it, up to whole blocks. -/
def padded (lowFirst : Bool) (content : Bytes) : Bytes :=
  let zeros := (119 - content.length % 64) % 64
  let length := lowBytes 8 (8 * content.length)
  content ++ 0x80 :: List.replicate zeros 0 ++ (if lowFirst then length else length.reverse)

/-- The pieces of so many bytes of a content. -/
def piecesOfSize (size : Nat) : (fuel : Nat) → Bytes → List Bytes
  | 0, _ => []
  | _, [] => []
  | fuel + 1, bytes => bytes.take size :: piecesOfSize size fuel (bytes.drop size)

/-- The words of a block, by one order of their bytes. -/
def wordsOf (lowFirst : Bool) (block : Bytes) : Array UInt32 :=
  ((piecesOfSize 4 block.length block).map fun piece =>
    (ofLowBytes (if lowFirst then piece else piece.reverse)).toUInt32).toArray

/-- A digest: its first words, and how the words of a block are mixed in. -/
structure Digest where
  lowFirst : Bool
  start : List UInt32
  mix : Array UInt32 → List UInt32 → List UInt32

/-- The bytes of the digest of a content. -/
def Digest.of (d : Digest) (content : Bytes) : Bytes :=
  let bytes := padded d.lowFirst content
  let state := (piecesOfSize 64 bytes.length bytes).foldl (fun state block =>
    state.zipWith (· + ·) (d.mix (wordsOf d.lowFirst block) state)) d.start
  state.flatMap fun word =>
    let bytes := lowBytes 4 word.toNat
    if d.lowFirst then bytes else bytes.reverse

/-! ## The digests -/

/-- The words that are added, one for each round: the leading bits of sines. -/
def sineWords : Array UInt32 := #[
    0xD76AA478, 0xE8C7B756, 0x242070DB, 0xC1BDCEEE, 0xF57C0FAF, 0x4787C62A, 0xA8304613, 0xFD469501,
    0x698098D8, 0x8B44F7AF, 0xFFFF5BB1, 0x895CD7BE, 0x6B901122, 0xFD987193, 0xA679438E, 0x49B40821,
    0xF61E2562, 0xC040B340, 0x265E5A51, 0xE9B6C7AA, 0xD62F105D, 0x02441453, 0xD8A1E681, 0xE7D3FBC8,
    0x21E1CDE6, 0xC33707D6, 0xF4D50D87, 0x455A14ED, 0xA9E3E905, 0xFCEFA3F8, 0x676F02D9, 0x8D2A4C8A,
    0xFFFA3942, 0x8771F681, 0x6D9D6122, 0xFDE5380C, 0xA4BEEA44, 0x4BDECFA9, 0xF6BB4B60, 0xBEBFBC70,
    0x289B7EC6, 0xEAA127FA, 0xD4EF3085, 0x04881D05, 0xD9D4D039, 0xE6DB99E5, 0x1FA27CF8, 0xC4AC5665,
    0xF4292244, 0x432AFF97, 0xAB9423A7, 0xFC93A039, 0x655B59C3, 0x8F0CCC92, 0xFFEFF47D, 0x85845DD1,
    0x6FA87E4F, 0xFE2CE6E0, 0xA3014314, 0x4E0811A1, 0xF7537E82, 0xBD3AF235, 0x2AD7D2BB, 0xEB86D391]

/-- One round of the digest of four words. -/
def fourWordRound (words : Array UInt32) (state : List UInt32) (i : Nat) : List UInt32 :=
  let turns : Array UInt32 := #[7, 12, 17, 22, 5, 9, 14, 20, 4, 11, 16, 23, 6, 10, 15, 21]
  match state with
  | [a, b, c, d] =>
    let (f, k) : UInt32 × Nat := match i / 16 with
      | 0 => ((b &&& c) ||| (~~~b &&& d), i)
      | 1 => ((d &&& b) ||| (~~~d &&& c), 5 * i + 1)
      | 2 => (b ^^^ c ^^^ d, 3 * i + 5)
      | _ => (c ^^^ (b ||| ~~~d), 7 * i)
    let sum := a + f + sineWords.getD i 0 + words.getD (k % 16) 0
    [d, b + turnedLeft sum (turns.getD (4 * (i / 16) + i % 4) 0), b, c]
  | _ => state

/-- The digest of four words, the low byte first, in sixty-four rounds. -/
def md5 : Digest where
  lowFirst := true
  start := [0x67452301, 0xEFCDAB89, 0x98BADCFE, 0x10325476]
  mix words state := (List.range 64).foldl (fourWordRound words) state

/-- One round of the digest of five words. -/
def fiveWordRound (words : Array UInt32) (state : List UInt32) (i : Nat) : List UInt32 :=
  match state with
  | [a, b, c, d, e] =>
    let (f, k) : UInt32 × UInt32 := match i / 20 with
      | 0 => ((b &&& c) ||| (~~~b &&& d), 0x5A827999)
      | 1 => (b ^^^ c ^^^ d, 0x6ED9EBA1)
      | 2 => ((b &&& c) ||| (b &&& d) ||| (c &&& d), 0x8F1BBCDC)
      | _ => (b ^^^ c ^^^ d, 0xCA62C1D6)
    [turnedLeft a 5 + f + e + k + words.getD i 0, a, turnedLeft b 30, c, d]
  | _ => state

/-- The digest of five words, the high byte first, in eighty rounds. -/
def sha1 : Digest where
  lowFirst := false
  start := [0x67452301, 0xEFCDAB89, 0x98BADCFE, 0x10325476, 0xC3D2E1F0]
  mix words state :=
    let more (w : Array UInt32) (i : Nat) : Array UInt32 :=
      w.push (turnedLeft (w.getD (i + 13) 0 ^^^ w.getD (i + 8) 0 ^^^ w.getD (i + 2) 0 ^^^ w.getD i 0) 1)
    (List.range 80).foldl (fiveWordRound ((List.range 64).foldl more words)) state

/-- The words that are added, one for each round: the leading bits of cube roots of primes. -/
def rootWords : Array UInt32 := #[
    0x428A2F98, 0x71374491, 0xB5C0FBCF, 0xE9B5DBA5, 0x3956C25B, 0x59F111F1, 0x923F82A4, 0xAB1C5ED5,
    0xD807AA98, 0x12835B01, 0x243185BE, 0x550C7DC3, 0x72BE5D74, 0x80DEB1FE, 0x9BDC06A7, 0xC19BF174,
    0xE49B69C1, 0xEFBE4786, 0x0FC19DC6, 0x240CA1CC, 0x2DE92C6F, 0x4A7484AA, 0x5CB0A9DC, 0x76F988DA,
    0x983E5152, 0xA831C66D, 0xB00327C8, 0xBF597FC7, 0xC6E00BF3, 0xD5A79147, 0x06CA6351, 0x14292967,
    0x27B70A85, 0x2E1B2138, 0x4D2C6DFC, 0x53380D13, 0x650A7354, 0x766A0ABB, 0x81C2C92E, 0x92722C85,
    0xA2BFE8A1, 0xA81A664B, 0xC24B8B70, 0xC76C51A3, 0xD192E819, 0xD6990624, 0xF40E3585, 0x106AA070,
    0x19A4C116, 0x1E376C08, 0x2748774C, 0x34B0BCB5, 0x391C0CB3, 0x4ED8AA4A, 0x5B9CCA4F, 0x682E6FF3,
    0x748F82EE, 0x78A5636F, 0x84C87814, 0x8CC70208, 0x90BEFFFA, 0xA4506CEB, 0xBEF9A3F7, 0xC67178F2]

/-- A word with its bits turned to the right. -/
def turnedRight (x n : UInt32) : UInt32 := turnedLeft x (32 - n)

/-- One round of the digest of eight words. -/
def eightWordRound (words : Array UInt32) (state : List UInt32) (i : Nat) : List UInt32 :=
  match state with
  | [a, b, c, d, e, f, g, h] =>
    let first := h + (turnedRight e 6 ^^^ turnedRight e 11 ^^^ turnedRight e 25) +
      ((e &&& f) ^^^ (~~~e &&& g)) + rootWords.getD i 0 + words.getD i 0
    let second := (turnedRight a 2 ^^^ turnedRight a 13 ^^^ turnedRight a 22) +
      ((a &&& b) ^^^ (a &&& c) ^^^ (b &&& c))
    [first + second, a, b, c, d + first, e, f, g]
  | _ => state

/-- The digest of eight words, the high byte first, in sixty-four rounds. -/
def sha256 : Digest where
  lowFirst := false
  start := [0x6A09E667, 0xBB67AE85, 0x3C6EF372, 0xA54FF53A, 0x510E527F, 0x9B05688C, 0x1F83D9AB, 0x5BE0CD19]
  mix words state :=
    let more (w : Array UInt32) (i : Nat) : Array UInt32 :=
      let (x, y) := (w.getD (i + 1) 0, w.getD (i + 14) 0)
      let s := turnedRight x 7 ^^^ turnedRight x 18 ^^^ (x >>> 3)
      let t := turnedRight y 17 ^^^ turnedRight y 19 ^^^ (y >>> 10)
      w.push (w.getD i 0 + s + w.getD (i + 9) 0 + t)
    (List.range 64).foldl (eightWordRound ((List.range 48).foldl more words)) state

/-! ## Programs -/

/-- Bytes in hexadecimal digits. -/
def hexOf (bytes : Bytes) : Bytes :=
  let digit (n : Nat) : UInt8 := (if n < 10 then n + 0x30 else n + 0x57).toUInt8
  bytes.flatMap fun b => [digit (b.toNat / 16), digit (b.toNat % 16)]

/-- Whether the files in a list of digests and names have those digests still, as it is told. -/
def checkList (name : String) (d : Digest) (quiet silent : Bool) (list : Bytes) (s : Session) : Session :=
  let tell (word : Bytes) (result : String) (s : Session) : Session :=
    if silent then s else s.print (word ++ bytesOf (": " ++ result ++ "\n"))
  let warn (n : Nat) (one many : String) (s : Session) : Session :=
    if n = 0 then s
    else if silent then s.withStatus 1
    else fail name 1 (bytesOf ("WARNING: " ++ toString n ++ (if n = 1 then one else many))) s
  let (unread, wrong, s) := (linesOf list).foldl (fun (unread, wrong, s) line =>
    let digest := line.takeWhile (· ≠ 0x20)
    let word := line.drop (digest.length + 2)
    match contentOf word s with
    | (.error fault, s) =>
      (unread + 1, wrong, tell word "FAILED open or read" (cannotRead name word fault s))
    | (.ok content, s) =>
      if hexOf (d.of content) = digest then (unread, wrong, if quiet then s else tell word "OK" s)
      else (unread, wrong + 1, tell word "FAILED" s)) ((0 : Nat), (0 : Nat), s)
  warn wrong " computed checksum did NOT match" " computed checksums did NOT match"
    (warn unread " listed file could not be read" " listed files could not be read" s)

/-- The digests of contents, or whether those in a list are right. -/
def digestProgram (name : String) (d : Digest) : Program :=
  withOptions name (spec "bctqw" "" [("binary", 'b'), ("check", 'c'), ("text", 't'), ("quiet", 'q'),
      ("status", 'S'), ("warn", 'w')]) 1 fun a s =>
    let operands := if a.operands.isEmpty then [[0x2D]] else a.operands
    operands.foldl (fun s word =>
      match contentOf word s with
      | (.error fault, s) => cannotRead name word fault s
      | (.ok content, s) =>
        if a.has 'c' then checkList name d (a.has 'q') (a.has 'S') content s
        else
          s.print (hexOf (d.of content) ++ 0x20 :: (if a.has 'b' then 0x2A else 0x20) :: word ++ [0x0A])) s

/-- The remainder of a content, with its length behind it, by a polynomial of degree thirty-two. -/
def cyclicCheck (content : Bytes) : UInt32 :=
  let step (r : UInt32) (b : UInt8) : UInt32 :=
    (List.range 8).foldl (fun (r : UInt32) _ =>
      if r &&& 0x80000000 ≠ 0 then (r <<< 1) ^^^ 0x04C11DB7 else r <<< 1) (r ^^^ (b.toUInt32 <<< 24))
  let length := (lowBytes 8 content.length).reverse.dropWhile (· = 0)
  ~~~((content ++ length.reverse).foldl step 0)

/-- The cyclic check of contents and their lengths. -/
def cksum : Program :=
  withOptions "cksum" (spec "" "" []) 1 fun a s =>
    (if a.operands.isEmpty then [[]] else a.operands).foldl (fun s word =>
      match contentOf (if word.isEmpty then [0x2D] else word) s with
      | (.error fault, s) => cannotRead "cksum" word fault s
      | (.ok content, s) =>
        s.print (Session.decimal (cyclicCheck content).toNat ++ 0x20 :: Session.decimal content.length ++
          (if word.isEmpty then [] else 0x20 :: word) ++ [0x0A])) s

end BenchSweep.Machine.Shell.Utility
