/-
  UTF-8: characters as bytes, and bytes as characters.

  `scan` reads bytes one at a time and never looks back.  What it yields is a list with one entry a
  character, and one `none` for each maximal subpart that is not a character: the longest run of bytes
  that begins some well-formed sequence, or a single byte when none begins there.  Both readers are
  views of that list:

    1. `decode?` wants every entry to be a character;
    2. `lossy` puts U+FFFD where an entry is none.

  The bounds on the byte after a lead byte (`Pending.low`, `Pending.high`) keep out overlong forms,
  surrogates and values past U+10FFFF, so a run of bytes is given up at the first byte that rules out
  every character.
-/

namespace BenchSweep.Text.Utf8

/-- The one to four bytes of a character. -/
def encodeChar (c : Char) : List UInt8 :=
  let n := c.toNat
  if n < 0x80 then [n.toUInt8]
  else if n < 0x800 then [(0xC0 + n / 0x40).toUInt8, (0x80 + n % 0x40).toUInt8]
  else if n < 0x10000 then
    [(0xE0 + n / 0x1000).toUInt8, (0x80 + n / 0x40 % 0x40).toUInt8, (0x80 + n % 0x40).toUInt8]
  else
    [(0xF0 + n / 0x40000).toUInt8, (0x80 + n / 0x1000 % 0x40).toUInt8,
      (0x80 + n / 0x40 % 0x40).toUInt8, (0x80 + n % 0x40).toUInt8]

/-- The bytes of a text. -/
def encode (s : List Char) : List UInt8 := s.flatMap encodeChar

/-- A character of which the first bytes are read. -/
structure Pending where
  /-- The bits of the bytes read so far. -/
  bits : Nat
  /-- How many bytes must follow the next one. -/
  owed : Nat
  /-- The least value that the next byte may have. -/
  low : Nat
  /-- The greatest value that the next byte may have. -/
  high : Nat

/-- What a byte of 0x80 or more begins, if it begins anything. -/
def lead (b : Nat) : Option Pending :=
  if 0xC2 ≤ b ∧ b ≤ 0xDF then some ⟨b - 0xC0, 0, 0x80, 0xBF⟩
  else if b = 0xE0 then some ⟨0, 1, 0xA0, 0xBF⟩
  else if b = 0xED then some ⟨0xD, 1, 0x80, 0x9F⟩
  else if 0xE1 ≤ b ∧ b ≤ 0xEF then some ⟨b - 0xE0, 1, 0x80, 0xBF⟩
  else if b = 0xF0 then some ⟨0, 2, 0x90, 0xBF⟩
  else if 0xF1 ≤ b ∧ b ≤ 0xF3 then some ⟨b - 0xF0, 2, 0x80, 0xBF⟩
  else if b = 0xF4 then some ⟨4, 2, 0x80, 0x8F⟩
  else none

/-- A byte where a character may begin: what it yields, and what is pending after it. -/
def first (b : Nat) : List (Option Char) × Option Pending :=
  if b < 0x80 then ([some (Char.ofNat b)], none)
  else match lead b with
    | some p => ([], some p)
    | none => ([none], none)

/-- One byte.  A byte that cannot go on with the pending character ends it as a subpart without
    meaning, and is then read as a byte where a character may begin. -/
def step (pending : Option Pending) (b : Nat) : List (Option Char) × Option Pending :=
  match pending with
  | none => first b
  | some p =>
    if p.low ≤ b ∧ b ≤ p.high then
      let bits := p.bits * 0x40 + (b - 0x80)
      match p.owed with
      | 0 => ([some (Char.ofNat bits)], none)
      | owed + 1 => ([], some ⟨bits, owed, 0x80, 0xBF⟩)
    else
      let next := first b
      (none :: next.1, next.2)

/-- The characters of a byte sequence, `none` for each maximal subpart that is none. -/
def scan : Option Pending → List UInt8 → List (Option Char)
  | none, [] => []
  | some _, [] => [none]
  | pending, b :: r =>
    let next := step pending b.toNat
    next.1 ++ scan next.2 r

/-- The text that the bytes encode, if they encode one. -/
def decode? (bytes : List UInt8) : Option (List Char) := (scan none bytes).mapM id

/-- The text of the bytes, with U+FFFD for each maximal subpart that is no character. -/
def lossy (bytes : List UInt8) : List Char := (scan none bytes).map (·.getD '\uFFFD')

example : decode? (encode "aé€😀".toList) = some "aé€😀".toList := by decide
example : decode? [0xED, 0xA0, 0x80] = none := by decide
example : lossy [0x61, 0xF0, 0x9F, 0x41, 0xFF] = "a\uFFFDA\uFFFD".toList := by decide

end BenchSweep.Text.Utf8
