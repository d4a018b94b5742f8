/-
  Reading UTF-8 back.

  `decode?` reads exactly what `encode` writes (`decode?_eq_some_iff`): a text is read back as it was,
  and bytes that are read as a text are the bytes of that text, so no other spelling of a character is
  let through.

  1. **Forward.**  The bytes of one character lead `scan` from the state between characters to that state
     again, yielding the character (`scan_encodeChar_append`).  The bounds of `lead` are met because the
     character is no overlong, no surrogate and not past the last code point.

  2. **Backward.**  Where `scan` yields no gap, the byte after a lead byte is within its bounds
     (`pending_of_no_gap`), so the bytes are those of the character that the bits make up, and the rest is
     shorter.

  3. **Characters of one byte.**  What a byte sequence has of them does not depend on whether it is a text:
     one is there exactly if its byte is (`mem_lossy_iff`).  What is pending when the byte comes is given up,
     and what it would have come to is no such character.

  The bytes are those of the standard encoding (`encode_eq_toByteArray`).
-/
import BenchSweep.Path.Basic
import BenchSweep.Proofs.Walks

namespace BenchSweep
namespace Text.Utf8

/-! ## Bytes and code points -/

/-- A number below 256 is that of its byte. -/
theorem toNat_toUInt8 {n : Nat} (h : n < 0x100) : n.toUInt8.toNat = n := by
  show n % 256 = n
  omega

/-- Code points leave out the surrogates and end at U+10FFFF. -/
theorem toNat_bounds (c : Char) : c.toNat < 0xD800 ∨ 0xDFFF < c.toNat ∧ c.toNat < 0x110000 := c.valid

/-- A number in the bounds is that of its character. -/
theorem toNat_ofNat {n : Nat} (h : n < 0xD800 ∨ 0xDFFF < n ∧ n < 0x110000) : (Char.ofNat n).toNat = n := by
  have hv : n.isValidChar := h
  rw [Char.ofNat, dif_pos hv]
  show (UInt32.ofNatLT n _).toNat = n
  rw [UInt32.toNat_ofNatLT]

/-! ## Lead bytes

  A lead byte tells how many bytes follow and between which bounds the first of them lies.  The bounds are
  narrow for the least and the greatest of each length, where they keep out what has a shorter form, is a
  surrogate, or is no code point. -/

/-- These bytes begin a character of two. -/
theorem lead_two {b : Nat} (h : 0xC2 ≤ b ∧ b ≤ 0xDF) : lead b = some ⟨b - 0xC0, 0, 0x80, 0xBF⟩ := by
  rw [lead, if_pos h]

/-- These bytes begin a character of three, with narrow bounds for the first of them and for the surrogates.
    -/
theorem lead_three {b : Nat} (h : 0xE0 ≤ b ∧ b ≤ 0xEF) :
    lead b = some ⟨b - 0xE0, 1, if b = 0xE0 then 0xA0 else 0x80, if b = 0xED then 0x9F else 0xBF⟩ := by
  rw [lead, if_neg (by omega)]
  by_cases h0 : b = 0xE0
  · subst h0
    rfl
  · by_cases hd : b = 0xED
    · subst hd
      rfl
    · rw [if_neg h0, if_neg hd, if_pos (by omega), if_neg h0, if_neg hd]

/-- These bytes begin a character of four, with narrow bounds at both ends. -/
theorem lead_four {b : Nat} (h : 0xF0 ≤ b ∧ b ≤ 0xF4) :
    lead b = some ⟨b - 0xF0, 2, if b = 0xF0 then 0x90 else 0x80, if b = 0xF4 then 0x8F else 0xBF⟩ := by
  rw [lead, if_neg (by omega), if_neg (by omega), if_neg (by omega), if_neg (by omega)]
  by_cases h0 : b = 0xF0
  · subst h0
    rfl
  · by_cases h4 : b = 0xF4
    · subst h4
      rfl
    · rw [if_neg h0, if_pos (by omega), if_neg h0, if_neg h4]

/-- Bytes that go on, and those that no character has, begin nothing. -/
theorem lead_eq_none {b : Nat} (h : b < 0xC2 ∨ 0xF4 < b) : lead b = none := by
  rw [lead, if_neg (by omega), if_neg (by omega), if_neg (by omega), if_neg (by omega),
    if_neg (by omega), if_neg (by omega), if_neg (by omega)]

/-! ## Steps of the reader

  Between characters nothing is pending.  A lead byte makes something pending, each byte within the bounds
  adds six bits to it, and the last one yields the character. -/

/-- A byte below 128 is a character by itself. -/
theorem scan_ascii {b : UInt8} (h : b.toNat < 0x80) (r : List UInt8) :
    scan none (b :: r) = some (Char.ofNat b.toNat) :: scan none r := by
  simp only [scan, step, first, if_pos h, List.cons_append, List.nil_append]

/-- A lead byte yields nothing yet. -/
theorem scan_lead {b : UInt8} {p : Pending} (h : 0x80 ≤ b.toNat) (hl : lead b.toNat = some p)
    (r : List UInt8) : scan none (b :: r) = scan (some p) r := by
  simp only [scan, step, first, if_neg (Nat.not_lt.2 h), hl, List.nil_append]

/-- The last byte yields the character that the bits make up. -/
theorem scan_last {p : Pending} {b : UInt8} (h : p.low ≤ b.toNat ∧ b.toNat ≤ p.high) (ho : p.owed = 0)
    (r : List UInt8) : scan (some p) (b :: r) =
      some (Char.ofNat (p.bits * 0x40 + (b.toNat - 0x80))) :: scan none r := by
  simp only [scan, step, if_pos h, ho, List.cons_append, List.nil_append]

/-- A byte that is not the last adds its bits, and for the next one the bounds are the usual ones. -/
theorem scan_more {p : Pending} {b : UInt8} {k : Nat} (h : p.low ≤ b.toNat ∧ b.toNat ≤ p.high)
    (ho : p.owed = k + 1) (r : List UInt8) : scan (some p) (b :: r) =
      scan (some ⟨p.bits * 0x40 + (b.toNat - 0x80), k, 0x80, 0xBF⟩) r := by
  simp only [scan, step, if_pos h, ho, List.nil_append]

/-! ## Forward: what is written is read -/

/-- Two bytes within their bounds are read as one character. -/
theorem scan_two {b0 b1 : UInt8} (h0 : 0xC2 ≤ b0.toNat ∧ b0.toNat ≤ 0xDF)
    (h1 : 0x80 ≤ b1.toNat ∧ b1.toNat ≤ 0xBF) (r : List UInt8) :
    scan none (b0 :: b1 :: r) =
      some (Char.ofNat ((b0.toNat - 0xC0) * 0x40 + (b1.toNat - 0x80))) :: scan none r := by
  rw [scan_lead (by omega) (lead_two h0), scan_last h1 rfl]

/-- Three bytes within their bounds are read as one character. -/
theorem scan_three {b0 b1 b2 : UInt8} (h0 : 0xE0 ≤ b0.toNat ∧ b0.toNat ≤ 0xEF)
    (h1 : (if b0.toNat = 0xE0 then 0xA0 else 0x80) ≤ b1.toNat ∧
      b1.toNat ≤ if b0.toNat = 0xED then 0x9F else 0xBF)
    (h2 : 0x80 ≤ b2.toNat ∧ b2.toNat ≤ 0xBF) (r : List UInt8) :
    scan none (b0 :: b1 :: b2 :: r) = some (Char.ofNat (((b0.toNat - 0xE0) * 0x40
      + (b1.toNat - 0x80)) * 0x40 + (b2.toNat - 0x80))) :: scan none r := by
  rw [scan_lead (by omega) (lead_three h0), scan_more (k := 0) h1 rfl, scan_last h2 rfl]

/-- Four bytes within their bounds are read as one character. -/
theorem scan_four {b0 b1 b2 b3 : UInt8} (h0 : 0xF0 ≤ b0.toNat ∧ b0.toNat ≤ 0xF4)
    (h1 : (if b0.toNat = 0xF0 then 0x90 else 0x80) ≤ b1.toNat ∧
      b1.toNat ≤ if b0.toNat = 0xF4 then 0x8F else 0xBF)
    (h2 : 0x80 ≤ b2.toNat ∧ b2.toNat ≤ 0xBF) (h3 : 0x80 ≤ b3.toNat ∧ b3.toNat ≤ 0xBF)
    (r : List UInt8) :
    scan none (b0 :: b1 :: b2 :: b3 :: r) = some (Char.ofNat ((((b0.toNat - 0xF0) * 0x40
      + (b1.toNat - 0x80)) * 0x40 + (b2.toNat - 0x80)) * 0x40 + (b3.toNat - 0x80))) :: scan none r := by
  rw [scan_lead (by omega) (lead_four h0), scan_more (k := 1) h1 rfl, scan_more (k := 0) h2 rfl,
    scan_last h3 rfl]

/-- The bytes of a character are read as that character, whatever follows. -/
theorem scan_encodeChar_append (c : Char) (r : List UInt8) :
    scan none (encodeChar c ++ r) = some c :: scan none r := by
  have hc := toNat_bounds c
  have hofNat : ∀ n, n = c.toNat → Char.ofNat n = c := fun n hn => by rw [hn, Char.ofNat_toNat]
  have hbyte : ∀ n, n < 0x100 → n.toUInt8.toNat = n := fun n => toNat_toUInt8
  unfold encodeChar
  simp only []
  -- in each case the bytes have the numbers they are made from, and the bits add up to the character
  by_cases hone : c.toNat < 0x80
  · have h0 := hbyte c.toNat (by omega)
    rw [if_pos hone, List.singleton_append, scan_ascii (by omega), hofNat _ h0]
  rw [if_neg hone]
  by_cases htwo : c.toNat < 0x800
  · have h0 := hbyte (0xC0 + c.toNat / 0x40) (by omega)
    have h1 := hbyte (0x80 + c.toNat % 0x40) (by omega)
    rw [if_pos htwo]
    refine (scan_two (by omega) (by omega) r).trans ?_
    rw [h0, h1, hofNat _ (by omega)]
  rw [if_neg htwo]
  by_cases hthree : c.toNat < 0x10000
  · have h0 := hbyte (0xE0 + c.toNat / 0x1000) (by omega)
    have h1 := hbyte (0x80 + c.toNat / 0x40 % 0x40) (by omega)
    have h2 := hbyte (0x80 + c.toNat % 0x40) (by omega)
    rw [if_pos hthree]
    refine (scan_three (by omega) (by rw [h0, h1]; split <;> split <;> omega) (by omega) r).trans ?_
    rw [h0, h1, h2, hofNat _ (by omega)]
  · have h0 := hbyte (0xF0 + c.toNat / 0x40000) (by omega)
    have h1 := hbyte (0x80 + c.toNat / 0x1000 % 0x40) (by omega)
    have h2 := hbyte (0x80 + c.toNat / 0x40 % 0x40) (by omega)
    have h3 := hbyte (0x80 + c.toNat % 0x40) (by omega)
    rw [if_neg hthree]
    refine (scan_four (by omega) (by rw [h0, h1]; split <;> split <;> omega) (by omega)
      (by omega) r).trans ?_
    rw [h0, h1, h2, h3, hofNat _ (by omega)]

/-- The bytes of a text are read as its characters, without a gap. -/
theorem scan_encode (s : List Char) : scan none (encode s) = s.map some := by
  -- on the text, one character after the other, between which nothing is pending
  induction s with
  | nil => rfl
  | cons c s ih =>
    rw [encode, List.flatMap_cons, scan_encodeChar_append, List.map_cons, ← ih]
    rfl

/-! ## Backward: what is read was written -/

/-- Where no gap comes out, a pending character goes on with a byte within its bounds. -/
theorem pending_of_no_gap {p : Pending} {r : List UInt8} (h : none ∉ scan (some p) r) :
    ∃ b r', r = b :: r' ∧ p.low ≤ b.toNat ∧ b.toNat ≤ p.high := by
  cases r with
  | nil => exact absurd (by simp [scan]) h
  | cons b r' =>
    by_cases hb : p.low ≤ b.toNat ∧ b.toNat ≤ p.high
    · exact ⟨b, r', rfl, hb⟩
    · exact absurd (by simp [scan, step, if_neg hb]) h

/-- A byte is known by its number. -/
theorem toUInt8_eq {n : Nat} {b : UInt8} (h : n = b.toNat) : n.toUInt8 = b := by
  rw [h]
  exact UInt8.ofNat_toNat

/-- Two bytes that are read as a character are its bytes. -/
theorem encodeChar_two {b0 b1 : UInt8} (h0 : 0xC2 ≤ b0.toNat ∧ b0.toNat ≤ 0xDF)
    (h1 : 0x80 ≤ b1.toNat ∧ b1.toNat ≤ 0xBF) :
    encodeChar (Char.ofNat ((b0.toNat - 0xC0) * 0x40 + (b1.toNat - 0x80))) = [b0, b1] := by
  unfold encodeChar
  rw [toNat_ofNat (Or.inl (by omega))]
  simp only []
  rw [if_neg (by omega), if_pos (by omega), toUInt8_eq (b := b0) (by omega), toUInt8_eq (b := b1) (by omega)]

/-- Three bytes that are read as a character are its bytes. -/
theorem encodeChar_three {b0 b1 b2 : UInt8} (h0 : 0xE0 ≤ b0.toNat ∧ b0.toNat ≤ 0xEF)
    (h1 : (if b0.toNat = 0xE0 then 0xA0 else 0x80) ≤ b1.toNat ∧
      b1.toNat ≤ if b0.toNat = 0xED then 0x9F else 0xBF)
    (h2 : 0x80 ≤ b2.toNat ∧ b2.toNat ≤ 0xBF) :
    encodeChar (Char.ofNat (((b0.toNat - 0xE0) * 0x40 + (b1.toNat - 0x80)) * 0x40 + (b2.toNat - 0x80))) =
      [b0, b1, b2] := by
  -- the bounds on the second byte keep out overlong forms and surrogates
  have hbounds : 0x80 ≤ b1.toNat ∧ b1.toNat ≤ 0xBF ∧ (b0.toNat = 0xE0 → 0xA0 ≤ b1.toNat) ∧
      (b0.toNat = 0xED → b1.toNat ≤ 0x9F) := by
    split at h1 <;> split at h1 <;> omega
  unfold encodeChar
  rw [toNat_ofNat (by omega)]
  simp only []
  rw [if_neg (by omega), if_neg (by omega), if_pos (by omega), toUInt8_eq (b := b0) (by omega),
    toUInt8_eq (b := b1) (by omega), toUInt8_eq (b := b2) (by omega)]

/-- Four bytes that are read as a character are its bytes. -/
theorem encodeChar_four {b0 b1 b2 b3 : UInt8} (h0 : 0xF0 ≤ b0.toNat ∧ b0.toNat ≤ 0xF4)
    (h1 : (if b0.toNat = 0xF0 then 0x90 else 0x80) ≤ b1.toNat ∧
      b1.toNat ≤ if b0.toNat = 0xF4 then 0x8F else 0xBF)
    (h2 : 0x80 ≤ b2.toNat ∧ b2.toNat ≤ 0xBF) (h3 : 0x80 ≤ b3.toNat ∧ b3.toNat ≤ 0xBF) :
    encodeChar (Char.ofNat ((((b0.toNat - 0xF0) * 0x40 + (b1.toNat - 0x80)) * 0x40
        + (b2.toNat - 0x80)) * 0x40 + (b3.toNat - 0x80))) = [b0, b1, b2, b3] := by
  -- here they keep out overlong forms and what is past the last code point
  have hbounds : 0x80 ≤ b1.toNat ∧ b1.toNat ≤ 0xBF ∧ (b0.toNat = 0xF0 → 0x90 ≤ b1.toNat) ∧
      (b0.toNat = 0xF4 → b1.toNat ≤ 0x8F) := by
    split at h1 <;> split at h1 <;> omega
  unfold encodeChar
  rw [toNat_ofNat (by omega)]
  simp only []
  rw [if_neg (by omega), if_neg (by omega), if_neg (by omega), toUInt8_eq (b := b0) (by omega),
    toUInt8_eq (b := b1) (by omega), toUInt8_eq (b := b2) (by omega), toUInt8_eq (b := b3) (by omega)]

/-- Where no gap comes out, the first bytes are those of a character. -/
theorem eq_encodeChar_append_of_no_gap {b : UInt8} {r : List UInt8} (h : none ∉ scan none (b :: r)) :
    ∃ c rest, b :: r = encodeChar c ++ rest := by
  -- by the first byte, which tells how many there are
  by_cases hascii : b.toNat < 0x80
  · refine ⟨Char.ofNat b.toNat, r, ?_⟩
    unfold encodeChar
    rw [toNat_ofNat (Or.inl (by omega))]
    simp only []
    rw [if_pos hascii, toUInt8_eq rfl, List.singleton_append]
  by_cases hlead : b.toNat < 0xC2 ∨ 0xF4 < b.toNat
  · -- such a byte begins nothing and would be a gap itself
    exact absurd (by simp [scan, step, first, hascii, lead_eq_none hlead]) h
  by_cases htwo : b.toNat ≤ 0xDF
  · have h0 : 0xC2 ≤ b.toNat ∧ b.toNat ≤ 0xDF := by omega
    rw [scan_lead (by omega) (lead_two h0)] at h
    obtain ⟨b1, r1, rfl, h1⟩ := pending_of_no_gap h
    exact ⟨_, r1, by rw [encodeChar_two h0 h1]; rfl⟩
  by_cases hthree : b.toNat ≤ 0xEF
  · have h0 : 0xE0 ≤ b.toNat ∧ b.toNat ≤ 0xEF := by omega
    rw [scan_lead (by omega) (lead_three h0)] at h
    obtain ⟨b1, r1, rfl, h1⟩ := pending_of_no_gap h
    rw [scan_more (k := 0) h1 rfl] at h
    obtain ⟨b2, r2, rfl, h2⟩ := pending_of_no_gap h
    exact ⟨_, r2, by rw [encodeChar_three h0 h1 h2]; rfl⟩
  · have h0 : 0xF0 ≤ b.toNat ∧ b.toNat ≤ 0xF4 := by omega
    rw [scan_lead (by omega) (lead_four h0)] at h
    obtain ⟨b1, r1, rfl, h1⟩ := pending_of_no_gap h
    rw [scan_more (k := 1) h1 rfl] at h
    obtain ⟨b2, r2, rfl, h2⟩ := pending_of_no_gap h
    rw [scan_more (k := 0) h2 rfl] at h
    obtain ⟨b3, r3, rfl, h3⟩ := pending_of_no_gap h
    exact ⟨_, r3, by rw [encodeChar_four h0 h1 h2 h3]; rfl⟩

/-- Every character has a byte at least. -/
theorem encodeChar_ne_nil (c : Char) : encodeChar c ≠ [] := by
  unfold encodeChar
  simp only []
  split
  · simp
  · split
    · simp
    · split <;> simp

/-- Bytes without a gap are those of a text.  The induction is on their number, for a character takes
    one at least. -/
theorem exists_encode_of_no_gap : ∀ (n : Nat) (bytes : List UInt8), bytes.length ≤ n →
    none ∉ scan none bytes → ∃ s, bytes = encode s := by
  intro n
  induction n with
  | zero =>
    intro bytes hn _
    exact ⟨[], List.eq_nil_of_length_eq_zero (by omega)⟩
  | succ n ih =>
    intro bytes hn h
    cases bytes with
    | nil => exact ⟨[], rfl⟩
    | cons b r =>
      obtain ⟨c, rest, hbytes⟩ := eq_encodeChar_append_of_no_gap h
      rw [hbytes, scan_encodeChar_append] at h
      have hpos : 0 < (encodeChar c).length := List.length_pos_iff.2 (encodeChar_ne_nil c)
      have hlength : rest.length ≤ n := by
        have := congrArg List.length hbytes
        rw [List.length_append] at this
        omega
      obtain ⟨s, rfl⟩ := ih rest hlength (fun hmem => h (List.mem_cons_of_mem _ hmem))
      exact ⟨c :: s, by rw [hbytes, encode, encode, List.flatMap_cons]⟩

/-! ## Reading and writing -/

/-- A text is read back from its bytes. -/
theorem decode?_encode (s : List Char) : decode? (encode s) = some s := by
  have hall : (s.map some).mapM id = some s := mapM_map_eq_pure fun c _ => rfl
  rw [decode?, scan_encode, hall]

/-- **Reading undoes writing, and nothing else is read.** -/
theorem decode?_eq_some_iff {bytes : List UInt8} {s : List Char} :
    decode? bytes = some s ↔ bytes = encode s := by
  constructor
  · intro h
    -- with a gap there would be no text
    have hgap : none ∉ scan none bytes := by
      intro hmem
      rw [decode?, mapM_eq_none hmem rfl] at h
      cases h
    obtain ⟨t, rfl⟩ := exists_encode_of_no_gap bytes.length bytes (Nat.le_refl _) hgap
    rw [decode?_encode] at h
    rw [Option.some.inj h]
  · rintro rfl
    exact decode?_encode s

/-! ## Characters of one byte -/

/-- What is pending will not come to a character of one byte: what was read of it is too large already, or is
    so with the next byte. -/
def Pending.IsLong (p : Pending) : Prop :=
  0x80 ≤ p.low ∧ 2 ≤ p.bits * 0x40 + (p.low - 0x80) ∧
    (p.owed = 0 → 0x80 ≤ p.bits * 0x40 + (p.low - 0x80))

/-- What a lead byte begins will not come to a character of one byte. -/
theorem isLong_of_lead {b : Nat} {p : Pending} (h : lead b = some p) : p.IsLong := by
  grind [lead, Pending.IsLong]

/-- A byte of a pending character is at least as large as the least that it may be. -/
theorem Pending.IsLong.next {p : Pending} (h : p.IsLong) {b : Nat} (hlow : p.low ≤ b) {owed high : Nat} :
    (Pending.mk (p.bits * 0x40 + (b - 0x80)) owed 0x80 high).IsLong := by
  obtain ⟨hfirst, htwo, -⟩ := h
  unfold IsLong
  dsimp only
  omega

/-- A number from 128 on makes another character than a number below does, also when it makes none and
    stands for the character zero. -/
theorem ofNat_ne_of_ascii {n m : Nat} (hn : 0 < n ∧ n < 0x80) (hm : 0x80 ≤ m) :
    Char.ofNat n ≠ Char.ofNat m := by
  intro h
  have htoNat := congrArg Char.toNat h
  rw [toNat_ofNat (n := n) (by omega)] at htoNat
  by_cases hvalid : m.isValidChar
  · rw [toNat_ofNat hvalid] at htoNat
    omega
  · have hzero : (Char.ofNat m).toNat = 0 := by
      rw [Char.ofNat, dif_neg hvalid]
      rfl
    omega

/-- Between characters, a byte yields a character of one byte only if it is its byte, and what it begins is
    longer. -/
theorem mem_first_iff {n : Nat} (hn : 0 < n ∧ n < 0x80) (b : Nat) :
    (some (Char.ofNat n) ∈ (first b).1 ↔ b = n) ∧ ∀ p ∈ (first b).2, p.IsLong := by
  rw [first]
  split
  · next hb =>
    refine ⟨?_, fun p hp => by cases hp⟩
    rw [List.mem_singleton, Option.some.injEq]
    constructor
    · intro h
      have htoNat := congrArg Char.toNat h
      rwa [toNat_ofNat (by omega), toNat_ofNat (by omega), eq_comm] at htoNat
    · exact fun h => congrArg Char.ofNat h.symm
  · next hb =>
    have hne : b ≠ n := by omega
    split
    · next p hp =>
      refine ⟨by simpa using hne, fun q hq => ?_⟩
      rw [← Option.mem_some.1 hq]
      exact isLong_of_lead hp
    · exact ⟨by simpa using hne, fun p hp => by cases hp⟩

/-- One byte yields a character of one byte only if it is the byte of that character. -/
theorem mem_step_iff {n : Nat} (hn : 0 < n ∧ n < 0x80) {pending : Option Pending}
    (hlong : ∀ p ∈ pending, p.IsLong) (b : Nat) :
    (some (Char.ofNat n) ∈ (step pending b).1 ↔ b = n) ∧ ∀ p ∈ (step pending b).2, p.IsLong := by
  cases pending with
  | none => exact mem_first_iff hn b
  | some p =>
    obtain ⟨hlow, htwo, hlast⟩ := hlong p rfl
    rw [step]
    split
    · next hb =>
      have hne : b ≠ n := by omega
      dsimp only
      split
      · next howed =>
        -- the byte completes a character, which is not one of one byte
        have hlarge := hlast howed
        refine ⟨?_, fun q hq => by cases hq⟩
        rw [List.mem_singleton, Option.some.injEq]
        exact iff_of_false (ofNat_ne_of_ascii hn (by omega)) hne
      · refine ⟨by simpa using hne, fun q hq => ?_⟩
        rw [← Option.mem_some.1 hq]
        exact (hlong p rfl).next hb.1
    · -- what was pending is given up, and the byte counts as one between characters
      obtain ⟨hmem, hnext⟩ := mem_first_iff hn b
      exact ⟨by simpa using hmem, hnext⟩

/-- A character of one byte comes out exactly if its byte is there, whatever is pending at first. -/
theorem mem_scan_iff {n : Nat} (hn : 0 < n ∧ n < 0x80) {pending : Option Pending}
    (hlong : ∀ p ∈ pending, p.IsLong) (bytes : List UInt8) :
    some (Char.ofNat n) ∈ scan pending bytes ↔ ∃ b ∈ bytes, b.toNat = n := by
  -- on the bytes, for everything that may be pending and is not the character itself
  induction bytes generalizing pending with
  | nil => cases pending <;> simp [scan]
  | cons b bytes ih =>
    obtain ⟨hmem, hnext⟩ := mem_step_iff hn hlong b.toNat
    have hscan : scan pending (b :: bytes) =
        (step pending b.toNat).1 ++ scan (step pending b.toNat).2 bytes := by
      cases pending <;> rfl
    rw [hscan, List.mem_append, hmem, ih hnext]
    simp only [List.mem_cons, exists_eq_or_imp]

/-- Marking neither adds nor takes away a character of one byte. -/
theorem mem_lossy_iff {n : Nat} (hn : 0 < n ∧ n < 0x80) (bytes : List UInt8) :
    Char.ofNat n ∈ lossy bytes ↔ ∃ b ∈ bytes, b.toNat = n := by
  have hlong : ∀ p ∈ (none : Option Pending), p.IsLong := fun p hp => by cases hp
  rw [← mem_scan_iff hn hlong bytes, lossy, List.mem_map]
  constructor
  · rintro ⟨found, hfound, hget⟩
    cases found with
    -- the mark for a gap is not a character of one byte
    | none => exact absurd hget.symm (ofNat_ne_of_ascii hn (by decide : 0x80 ≤ 0xFFFD))
    | some c =>
      obtain rfl : c = Char.ofNat n := hget
      exact hfound
  · exact fun hmem => ⟨some (Char.ofNat n), hmem, rfl⟩

/-! ## The standard encoding -/

/-- The bytes of a character are those of the encoding in core, which adds the marks on the other side. -/
theorem encodeChar_eq_utf8EncodeChar (c : Char) : encodeChar c = String.utf8EncodeChar c := by
  have hc : c.toNat < 0x110000 := by
    have := toNat_bounds c
    omega
  unfold encodeChar String.utf8EncodeChar
  simp only [show c.val.toNat = c.toNat from rfl]
  by_cases hone : c.toNat < 0x80
  · rw [if_pos hone, if_pos (show c.toNat ≤ 0x7f by omega)]
  rw [if_neg hone, if_neg (show ¬ c.toNat ≤ 0x7f by omega)]
  have hlast : 0x80 + c.toNat % 0x40 = c.toNat % 0x40 + 0x80 := Nat.add_comm _ _
  by_cases htwo : c.toNat < 0x800
  · rw [if_pos htwo, if_pos (show c.toNat ≤ 0x7ff by omega), hlast,
      show 0xC0 + c.toNat / 0x40 = c.toNat / 64 % 0x20 + 0xc0 by omega]
  rw [if_neg htwo, if_neg (show ¬ c.toNat ≤ 0x7ff by omega)]
  have hmiddle : 0x80 + c.toNat / 0x40 % 0x40 = c.toNat / 64 % 0x40 + 0x80 := Nat.add_comm _ _
  by_cases hthree : c.toNat < 0x10000
  · rw [if_pos hthree, if_pos (show c.toNat ≤ 0xffff by omega), hlast, hmiddle,
      show 0xE0 + c.toNat / 0x1000 = c.toNat / 4096 % 0x10 + 0xe0 by omega]
  · rw [if_neg hthree, if_neg (show ¬ c.toNat ≤ 0xffff by omega), hlast, hmiddle,
      show 0xF0 + c.toNat / 0x40000 = c.toNat / 262144 % 0x08 + 0xf0 by omega,
      show 0x80 + c.toNat / 0x1000 % 0x40 = c.toNat / 4096 % 0x40 + 0x80 by omega]

/-- The bytes of a text are those that core keeps for it. -/
theorem encode_eq_toByteArray (s : String) : encode s.toList = s.toByteArray.data.toList := by
  have hflat : encode s.toList = s.toList.flatMap String.utf8EncodeChar :=
    congrArg (s.toList.flatMap ·) (funext encodeChar_eq_utf8EncodeChar)
  rw [hflat, ← String.utf8Encode_toList]
  simp [List.utf8Encode]

end Text.Utf8

/-! ## Paths that are texts -/

namespace Path

/-- The path of a text has that text. -/
theorem text?_ofString (s : String) : (ofString s).text? = some s := by
  rw [text?, ofString, Text.Utf8.decode?_encode, Option.map_some, String.ofList_toList]

/-- A path that has a text is the path of that text. -/
theorem ofString_of_text? {p : Path} {s : String} (h : p.text? = some s) : ofString s = p := by
  obtain ⟨cs, hcs, rfl⟩ := Option.map_eq_some_iff.1 h
  rw [ofString, String.toList_ofList, ← Text.Utf8.decode?_eq_some_iff.1 hcs]

/-- A path has a text exactly when its bytes are the bytes of one. -/
theorem text?_isSome_iff {p : Path} :
    p.text?.isSome = true ↔ ∃ s : String, p.bytes = s.toByteArray.data.toList := by
  constructor
  · intro h
    obtain ⟨s, hs⟩ := Option.isSome_iff_exists.1 h
    exact ⟨s, by rw [← ofString_of_text? hs, ← Text.Utf8.encode_eq_toByteArray]; rfl⟩
  · rintro ⟨s, hs⟩
    obtain rfl : p = ofString s := by
      obtain ⟨bytes⟩ := p
      rw [ofString, Text.Utf8.encode_eq_toByteArray, ← hs]
    rw [text?_ofString]
    rfl

end Path
end BenchSweep
