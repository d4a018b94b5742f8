/-
  Numbers are read back.

  A number is written as its decimal digits, so a reader of words meets digits and nothing else.  Such a
  word is no date and no time (`Dates.read?_of_digits`), since both want a mark between their digits.  As a
  number it is an integer with no zero in front, so what is read is the number that was written
  (`Numbers.read?_toDigits`).
-/
import Mathlib.Data.List.TakeWhile
import BenchSweep.Toml.Dates
import BenchSweep.Toml.Numbers

namespace BenchSweep.Toml

/-- A word ends where a character follows that cannot be part of it, or nothing. -/
theorem span_append {isPart : Char → Bool} {word rest : List Char} (hword : ∀ c ∈ word, isPart c = true)
    (hrest : ∀ c ∈ rest.head?, isPart c = false) :
    (word ++ rest).takeWhile isPart = word ∧ (word ++ rest).dropWhile isPart = rest := by
  rw [List.takeWhile_append_of_pos hword, List.dropWhile_append_of_pos hword]
  cases rest with
  | nil => exact ⟨List.append_nil word, rfl⟩
  | cons c r =>
    have hc : isPart c = false := hrest c rfl
    rw [List.takeWhile_cons, List.dropWhile_cons, hc]
    exact ⟨List.append_nil word, rfl⟩

/-- Where a character stands that is no part of a word, the word ends. -/
theorem head?_cons_eq_false {isPart : Char → Bool} {c : Char} (hc : isPart c = false) (r : List Char) :
    ∀ d ∈ (c :: r).head?, isPart d = false := by
  intro d hd
  obtain rfl : c = d := Option.some.inj hd
  exact hc

/-- A word of decimal digits and nothing else. -/
def IsDigits (s : List Char) : Prop := ∀ c ∈ s, c.isDigit = true

/-- A number is written in decimal digits. -/
theorem isDigits_toDigits (n : Nat) : IsDigits (Nat.toDigits 10 n) :=
  fun _ hc => Nat.isDigit_of_mem_toDigits (by decide) (by decide) hc

/-- Any other character is missing among digits. -/
theorem IsDigits.not_mem {s : List Char} (h : IsDigits s) {c : Char} (hc : c.isDigit = false) : c ∉ s :=
  fun hm => absurd (h c hm) (by rw [hc]; exact Bool.false_ne_true)

/-! ## No date

  A date wants four digits and a dash, a time two digits and a colon.  Where the word has no such mark at
  all, it has none behind its first digits either. -/

namespace Dates

/-- A mark that a text lacks is not found in it. -/
theorem expect?_of_not_mem {c : Char} {s : List Char} (h : c ∉ s) : expect? c s = none := by
  cases s with
  | nil => rfl
  | cons d r => exact if_neg fun (e : d = c) => h (e ▸ List.mem_cons_self)

/-- A number leaves the rest of the text, in which a mark that the text lacks is not found either. -/
theorem expect?_behind_number {n k : Nat} {c : Char} {s r : List Char} (h : c ∉ s)
    (hn : number? n s = some (k, r)) : expect? c r = none := by
  simp only [number?] at hn
  split at hn
  · obtain ⟨-, rfl⟩ := Prod.mk.inj (Option.some.inj hn)
    exact expect?_of_not_mem fun hm => h (List.mem_of_mem_drop hm)
  · cases hn

/-- Digits are no date: the dash behind the year is missing. -/
theorem date?_of_digits {s : List Char} (h : IsDigits s) : date? s = none := by
  unfold date?
  cases hn : number? 4 s with
  | none => rfl
  | some found =>
    obtain ⟨year, r⟩ := found
    simp only [Option.bind_eq_bind, Option.bind_some]
    -- the year may be there, the dash behind it is not
    rw [expect?_behind_number (h.not_mem (by decide)) hn]
    rfl

/-- Digits are no time: the colon behind the hour is missing. -/
theorem time?_of_digits {s : List Char} (h : IsDigits s) : time? s = none := by
  unfold time?
  cases hn : number? 2 s with
  | none => rfl
  | some found =>
    obtain ⟨hour, r⟩ := found
    simp only [Option.bind_eq_bind, Option.bind_some]
    rw [expect?_behind_number (h.not_mem (by decide)) hn]
    rfl

/-- Digits are neither a date nor a time. -/
theorem read?_of_digits {s : List Char} (h : IsDigits s) : read? s = none := by
  rw [read?, date?_of_digits h, time?_of_digits h]

end Dates

/-! ## The integer

  What is left are the forms of a number.  Digits alone are the plainest of them: no sign, no underscore, no
  point and no exponent, and no zero in front unless it is the whole number. -/

namespace Numbers

/-- Without underscores a text stays as it is. -/
theorem joined?_of_not_mem {isDigit : Char → Bool} {s : List Char} (h : '_' ∉ s) :
    joined? isDigit s = some s := by
  fun_induction joined? isDigit s with
  | case1 => rfl
  | case2 r => exact absurd List.mem_cons_self h
  | case3 c d r _ _ ih => exact absurd (List.mem_cons_of_mem c List.mem_cons_self) h
  | case4 c d r _ => exact absurd (List.mem_cons_of_mem c List.mem_cons_self) h
  | case5 c r _ _ ih =>
    rw [ih fun hm => h (List.mem_cons_of_mem c hm)]
    rfl

/-- Underscores stand between digits only where there are none. -/
theorem isGrouped_of_digits {s : List Char} (h : IsDigits s) : isGrouped s = true := by
  have hs : s.dropWhile Char.isDigit = [] := List.dropWhile_eq_nil_iff.2 h
  rw [isGrouped, hs]

/-- A decimal digit is worth the same among hexadecimal ones. -/
theorem hexValue?_of_isDigit {c : Char} (h : c.isDigit = true) :
    Strings.hexValue? c = some (c.toNat - 48) := by
  have hc : '0' ≤ c ∧ c ≤ '9' := by
    simp only [Char.isDigit, Bool.and_eq_true, decide_eq_true_eq] at h
    exact h
  rw [Strings.hexValue?, if_pos hc]

/-- The digits of a number spell it. -/
theorem ofDigits_of_digits {s : List Char} (h : IsDigits s) : ofDigits 10 s = Nat.ofDigitChars 10 s 0 := by
  have hfold : ∀ n, s.foldl (fun n c => 10 * n + (Strings.hexValue? c).getD 0) n = Nat.ofDigitChars 10 s n := by
    -- along the digits, with the value of those in front of them
    induction s with
    | nil => exact fun n => rfl
    | cons c r ih =>
      intro n
      rw [List.foldl_cons, Nat.ofDigitChars_cons, hexValue?_of_isDigit (h c List.mem_cons_self)]
      exact ih (fun d hd => h d (List.mem_cons_of_mem c hd)) _
  exact hfold 0

/-- A number that is not zero does not begin with the digit zero. -/
theorem head?_toDigits {n : Nat} (h : 0 < n) : (Nat.toDigits 10 n).head? ≠ some '0' := by
  induction n using Nat.strongRecOn with
  | ind n ih =>
    by_cases hn : n < 10
    · -- below ten the number is its only digit
      have hd : ∀ d, d < 10 → 0 < d → [d.digitChar].head? ≠ some '0' := by decide
      rw [Nat.toDigits_of_lt_base hn]
      exact hd n hn h
    · -- the first digit is that of the tenth part, which is not zero either
      have hdiv := ih (n / 10) (by omega) (by omega)
      rw [Nat.toDigits_of_base_le (by decide) (by omega), List.head?_append]
      cases ht : (Nat.toDigits 10 (n / 10)).head? with
      | none => exact absurd (List.head?_eq_none_iff.1 ht) Nat.toDigits_ne_nil
      | some c => rwa [ht] at hdiv

/-- No zero stands in front of another digit. -/
theorem toDigits_ne_zero_cons (n : Nat) (c : Char) (r : List Char) : Nat.toDigits 10 n ≠ '0' :: c :: r := by
  intro h
  rcases Nat.eq_zero_or_pos n with rfl | hn
  · rw [Nat.toDigits_zero] at h
    cases h
  · exact head?_toDigits hn (by rw [h]; rfl)

/-- As an integer without a sign, the digits of a number are the number. -/
theorem integer?_toDigits (n : Nat) : integer? false (Nat.toDigits 10 n) = some (.integer n) := by
  have hd := isDigits_toDigits n
  have hall : (Nat.toDigits 10 n).all Char.isDigit = true := List.all_eq_true.2 hd
  have hjoin : joined? (isDigitOf 16) (Nat.toDigits 10 n) = some (Nat.toDigits 10 n) :=
    joined?_of_not_mem (hd.not_mem (by decide))
  unfold integer?
  rw [isGrouped_of_digits hd, hjoin]
  simp only [Bool.not_true, Bool.false_eq_true, if_false, Option.bind_eq_bind, Option.bind_some]
  split
  -- what is refused is no digit at all, and a zero in front of another digit
  · next h => exact absurd h Nat.toDigits_ne_nil
  · next h => exact absurd h (toDigits_ne_zero_cons n _ _)
  · rw [if_pos hall, ofDigits_of_digits hd, Nat.ofDigitChars_ten_toDigits]
    rfl

/-- The decimal digits of a number are read as the number. -/
theorem read?_toDigits (n : Nat) : read? (Nat.toDigits 10 n) = some (.integer n) := by
  have hd := isDigits_toDigits n
  -- signs, the words for infinity and for no number, points and exponents all have another character
  have hmark : ∀ t : List Char, ∀ c ∈ t, c.isDigit = false → Nat.toDigits 10 n ≠ t :=
    fun t c hc hn ht => hd.not_mem hn (ht ▸ hc)
  have hsign : Binary64.takeSign (Nat.toDigits 10 n) = (false, Nat.toDigits 10 n) := by
    unfold Binary64.takeSign
    split
    · next h => exact absurd h (hmark _ '-' List.mem_cons_self (by decide))
    · next h => exact absurd h (hmark _ '+' List.mem_cons_self (by decide))
    · rfl
  have hpoint : (Nat.toDigits 10 n).any (fun c => c == '.' || c == 'e' || c == 'E') = false := by
    refine List.any_eq_false.2 fun c hc hmark => ?_
    simp only [Bool.or_eq_true, beq_iff_eq] at hmark
    rcases hmark with (rfl | rfl) | rfl
    · exact hd.not_mem (by decide) hc
    · exact hd.not_mem (by decide) hc
    · exact hd.not_mem (by decide) hc
  unfold read?
  split
  · next h => exact absurd h (toDigits_ne_zero_cons n _ _)
  · simp only [hsign]
    rw [if_neg (hmark _ 'i' (by decide) (by decide)), if_neg (hmark _ 'n' (by decide) (by decide)), unsigned?,
      hpoint, if_neg Bool.false_ne_true, integer?_toDigits]

end Numbers
end BenchSweep.Toml
