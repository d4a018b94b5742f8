/-
  Keys and values are read back.

  `Denotes depth t v` says of a text `t` that it is read as the value `v` wherever a value may end: before
  a comma, a closing bracket or a line end, and whatever follows.  Written strings denote themselves
  (`denotes_write`), the words for numbers and booleans what they stand for, and values between brackets
  an array (`denotes_array`).

  Two things carry the proofs.

  1. **Ink.**  Every written value and key begins with a character that is neither space nor the start of a
     comment, so whatever skips space stops there.

  2. **Calls.**  The length of a text is enough calls to read it: each item of an array costs one call and
     has a character.
-/
import BenchSweep.Proofs.Toml.Numbers
import BenchSweep.Proofs.Toml.Strings
import BenchSweep.Toml.Document

namespace BenchSweep.Toml.Document

open Strings (write writeKey isBare)

/-! ## Ink

  The reader skips space before a value, a key and a comma.  What it skips depends on the next character
  alone, so a text that begins with ink is found where it begins. -/

/-- A character at which no space, line end or comment begins. -/
def IsInk (c : Char) : Prop := c ∉ [' ', '\t', '\n', '\r', '#']

instance : DecidablePred IsInk := fun c => inferInstanceAs (Decidable (c ∉ [' ', '\t', '\n', '\r', '#']))

/-- A character with a property is none of those that lack it. -/
theorem not_mem_of_all {p : Char → Bool} {c : Char} {s : List Char} (hc : p c = true)
    (hs : s.all (fun d => !p d) = true) : c ∉ s := by
  intro hm
  have hnot := List.all_eq_true.1 hs c hm
  rw [hc] at hnot
  exact Bool.false_ne_true hnot

/-- Ink is different from all that is not. -/
theorem IsInk.ne {c d : Char} (h : IsInk c) (hd : ¬ IsInk d) : c ≠ d := fun e => hd (e ▸ h)

/-- Ink is no space. -/
theorem IsInk.not_isSpace {c : Char} (h : IsInk c) : isSpace c = false := by
  have h1 : (c == ' ') = false := beq_false_of_ne (h.ne (by decide))
  have h2 : (c == '\t') = false := beq_false_of_ne (h.ne (by decide))
  rw [isSpace, h1, h2]
  rfl

/-- Before ink there is no space to skip. -/
theorem skipSpace_ink {c : Char} (h : IsInk c) (r : List Char) : skipSpace (c :: r) = c :: r := by
  rw [skipSpace, List.dropWhile_cons_of_neg]
  rw [h.not_isSpace]
  exact Bool.false_ne_true

/-- Before ink there are no lines to skip. -/
theorem skipLines_ink {c : Char} (h : IsInk c) (r : List Char) : skipLines false (c :: r) = c :: r := by
  unfold skipLines
  split
  · next e => cases e
  · next e => exact absurd (List.cons.inj e).1 (h.ne (by decide))
  · next e => exact absurd (List.cons.inj e).1 (h.ne (by decide))
  · next e =>
    obtain ⟨rfl, rfl⟩ := List.cons.inj e
    rw [if_neg Bool.false_ne_true, h.not_isSpace, if_neg Bool.false_ne_true, if_neg (h.ne (by decide))]

/-- A space is skipped together with the lines. -/
theorem skipLines_space (r : List Char) : skipLines false (' ' :: r) = skipLines false r := by
  rw [skipLines.eq_def]
  rfl

/-- A line does not end at ink. -/
theorem endOfLine?_ink {c : Char} (h : IsInk c) (r : List Char) : endOfLine? (c :: r) = none := by
  have hcomment : skipComment (c :: r) = c :: r := by
    unfold skipComment
    split
    · next e => exact absurd (List.cons.inj e).1 (h.ne (by decide))
    · rfl
  rw [endOfLine?, skipSpace_ink h, hcomment]
  unfold newline?
  split
  · next e => cases e
  · split
    · next e => exact absurd (List.cons.inj e).1 (h.ne (by decide))
    · next e => exact absurd (List.cons.inj e).1 (h.ne (by decide))
    · rfl

/-- A line ends at a line feed. -/
theorem endOfLine?_newline (r : List Char) : endOfLine? ('\n' :: r) = some r := rfl

/-! ## Words

  A word goes up to the first character that can stand in none. -/

/-- The characters that end a word, one by one. -/
theorem isWordChar_iff (c : Char) : isWordChar c = true ↔ c ∉ "=,[]\x7b\x7d# \t\r\n".toList := by
  simp only [isWordChar, String.contains_char_eq, Bool.not_eq_true', decide_eq_false_iff_not]

/-- Letters and digits stand in words. -/
theorem isWordChar_of_isAlphanum {c : Char} (h : c.isAlphanum = true) : isWordChar c = true :=
  (isWordChar_iff c).2 (not_mem_of_all h (by decide))

/-- Where a value may end. -/
def EndsValue (rest : List Char) : Prop :=
  ∃ c r, rest = c :: r ∧ (c = '\n' ∨ c = ',' ∨ c = ']')

/-- Where a value may end, a word ends. -/
theorem EndsValue.not_isWordChar {rest : List Char} (h : EndsValue rest) :
    ∃ c r, rest = c :: r ∧ isWordChar c = false := by
  obtain ⟨c, r, rfl, hc⟩ := h
  refine ⟨c, r, rfl, Bool.eq_false_iff.2 fun hw => (isWordChar_iff c).1 hw ?_⟩
  rcases hc with rfl | rfl | rfl <;> decide

/-- A word ends where a value may end, if it is no date, behind which a time could stand. -/
theorem splitWord_append {word rest : List Char} (hw : ∀ c ∈ word, isWordChar c = true)
    (hdate : Dates.date? word = none) (hr : EndsValue rest) : splitWord (word ++ rest) = (word, rest) := by
  obtain ⟨c, r, rfl, hc⟩ := hr.not_isWordChar
  obtain ⟨htake, hdrop⟩ := span_append hw (head?_cons_eq_false hc r)
  have htime : hasTimeBehind word (c :: r) = false := by
    unfold hasTimeBehind
    rw [hdate]
  simp only [splitWord, htake, hdrop, htime, Bool.false_eq_true, if_false]

/-! ## Values

  A value is followed by something that ends it.  Texts end by their quotes, and words by a character that
  is no part of a word. -/

/-- A text that is read as a value wherever one may end; its length is enough calls. -/
structure Denotes (depth : Nat) (t : List Char) (v : Value) : Prop where
  /-- The text begins with a character that is seen, and that does not close an array. -/
  inked : ∃ c r, t = c :: r ∧ IsInk c ∧ c ≠ ']'
  reads : ∀ fuel rest, t.length ≤ fuel → EndsValue rest → value? fuel depth (t ++ rest) = some (v, rest)

/-- Where a value may end, no further mark stands. -/
theorem EndsValue.not_quote {rest : List Char} (h : EndsValue rest) :
    rest.head? ≠ some '"' ∧ rest.head? ≠ some '\'' := by
  obtain ⟨c, r, rfl, rfl | rfl | rfl⟩ := h <;> simp

/-- A written string denotes itself. -/
theorem denotes_write (depth : Nat) (s : String) : Denotes depth (write s.toList) (.string s) := by
  constructor
  · obtain ⟨t, ht | ht⟩ := Strings.write_eq_cons s.toList
    · exact ⟨_, t, ht, by decide, by decide⟩
    · exact ⟨_, t, ht, by decide, by decide⟩
  · intro fuel rest hfuel hrest
    have hread := Strings.read_write s.toList hrest.not_quote.1 hrest.not_quote.2
    obtain ⟨t, ht⟩ := Strings.write_eq_cons s.toList
    obtain ⟨fuel, rfl⟩ : ∃ n, fuel = n + 1 := by
      rcases ht with ht | ht <;> exact ⟨fuel - 1, by rw [ht, List.length_cons] at hfuel; omega⟩
    -- either mark leads to the reader of strings
    rcases ht with ht | ht <;>
    · rw [ht] at hread ⊢
      rw [List.cons_append, value?, ← List.cons_append, hread]
      simp

/-- A word of letters and digits that is no date. -/
theorem denotes_word {word : List Char} {v : Value} (depth : Nat) (hne : word ≠ [])
    (hword : ∀ c ∈ word, c.isAlphanum = true) (hdate : Dates.date? word = none)
    (hv : wordValue? word = some v) : Denotes depth word v := by
  obtain ⟨c, r, rfl⟩ := List.exists_cons_of_ne_nil hne
  have hc := hword c List.mem_cons_self
  -- none of the characters at which another kind of value begins is a letter or a digit
  have hmark : c ∉ ['"', '\'', '[', ']', '\x7b'] := not_mem_of_all hc (by decide)
  simp only [List.mem_cons, not_or] at hmark
  obtain ⟨hquote, hapostrophe, hopen, hclose, hbrace, -⟩ := hmark
  constructor
  · exact ⟨c, r, rfl, not_mem_of_all hc (by decide), hclose⟩
  · intro fuel rest hfuel hrest
    obtain ⟨fuel, rfl⟩ : ∃ n, fuel = n + 1 := ⟨fuel - 1, by rw [List.length_cons] at hfuel; omega⟩
    have hsplit := splitWord_append (fun d hd => isWordChar_of_isAlphanum (hword d hd)) hdate hrest
    rw [List.cons_append] at hsplit ⊢
    unfold value?
    split
    · next e => exact absurd (List.cons.inj e).1 hquote
    · next e => exact absurd (List.cons.inj e).1 hapostrophe
    · next e => exact absurd (List.cons.inj e).1 hopen
    · next e => exact absurd (List.cons.inj e).1 hbrace
    · simp only [hsplit, hv, Option.map_some]

/-- The digits of a number denote the number. -/
theorem denotes_number (depth n : Nat) : Denotes depth (Nat.toDigits 10 n) (.integer n) := by
  have hd := isDigits_toDigits n
  refine denotes_word depth Nat.toDigits_ne_nil (fun c hc => ?_) (Dates.date?_of_digits hd) ?_
  · rw [Char.isAlphanum, hd c hc, Bool.or_true]
  · -- the two names and the date forms are tried first, and digits are none of them
    have hword : ∀ t : List Char, ∀ c ∈ t, c.isDigit = false → Nat.toDigits 10 n ≠ t :=
      fun t c hc hn ht => hd.not_mem hn (ht ▸ hc)
    rw [wordValue?, if_neg (hword _ 't' (by decide) (by decide)),
      if_neg (hword _ 'f' (by decide) (by decide)), Dates.read?_of_digits hd]
    exact Numbers.read?_toDigits n

/-- The name of the one truth value denotes it. -/
theorem denotes_true (depth : Nat) : Denotes depth "true".toList (.boolean true) :=
  denotes_word depth (by decide) (List.all_eq_true.1 (by decide)) (by decide) rfl

/-- The name of the other one denotes it. -/
theorem denotes_false (depth : Nat) : Denotes depth "false".toList (.boolean false) :=
  denotes_word depth (by decide) (List.all_eq_true.1 (by decide)) (by decide) rfl

/-! ## Arrays

  An array is its items with commas between, on one line or on several.  The reader does not ask for the
  layout, only for commas and the end. -/

section Arrays

variable {α : Type} {shown : α → List Char} {value : α → Value} {depth : Nat}

/-- A bracket is read with the items behind it, one level deeper. -/
theorem value?_bracket (fuel : Nat) (r : List Char) :
    value? (fuel + 1) (depth + 1) ('[' :: r) =
      (items? fuel depth (skipLines false r)).map fun (vs, r) => (.array vs, r) := by
  rw [value?]

/-- A value in front of the closing bracket. -/
theorem items?_last {fuel : Nat} {t : List Char} {v : Value} (h : Denotes depth t v)
    (hfuel : t.length ≤ fuel) (rest : List Char) :
    items? (fuel + 1) depth (t ++ ']' :: rest) = some ([v], rest) := by
  have hread := h.reads fuel (']' :: rest) hfuel ⟨']', rest, rfl, .inr (.inr rfl)⟩
  obtain ⟨c, r, rfl, -, hc⟩ := h.inked
  rw [List.cons_append] at hread ⊢
  have hskip : skipLines false (']' :: rest) = ']' :: rest := skipLines_ink (by decide) rest
  rw [items?]
  · simp only [hread, hskip, Option.bind_eq_bind, Option.bind_some]
    rfl
  · exact fun r e => hc (List.cons.inj e).1

/-- A value in front of other items. -/
theorem items?_next {fuel : Nat} {t : List Char} {v : Value} (h : Denotes depth t v)
    (hfuel : t.length ≤ fuel) (r : List Char) :
    items? (fuel + 1) depth (t ++ ',' :: ' ' :: r) =
      (items? fuel depth (skipLines false r)).map fun (vs, r) => (v :: vs, r) := by
  have hread := h.reads fuel (',' :: ' ' :: r) hfuel ⟨',', ' ' :: r, rfl, .inr (.inl rfl)⟩
  obtain ⟨c, r', rfl, -, hc⟩ := h.inked
  rw [List.cons_append] at hread ⊢
  have hskip : skipLines false (',' :: ' ' :: r) = ',' :: ' ' :: r := skipLines_ink (by decide) (' ' :: r)
  rw [items?]
  · simp only [hread, hskip, skipLines_space, Option.bind_eq_bind, Option.bind_some]
    cases items? fuel depth (skipLines false r) <;> rfl
  · exact fun r e => hc (List.cons.inj e).1

/-- No lines are skipped in front of a written value. -/
theorem Denotes.skipLines_append {t : List Char} {v : Value} (h : Denotes depth t v) (r : List Char) :
    skipLines false (t ++ r) = t ++ r := by
  obtain ⟨c, r', rfl, hink, -⟩ := h.inked
  exact skipLines_ink hink _

/-- The text of a list of items begins with its first item. -/
theorem skipLines_intercalate {xs : List α} (h : ∀ x ∈ xs, Denotes depth (shown x) (value x))
    (rest : List Char) : skipLines false ([',', ' '].intercalate (xs.map shown) ++ ']' :: rest) =
      [',', ' '].intercalate (xs.map shown) ++ ']' :: rest := by
  match xs with
  | [] => exact skipLines_ink (by decide) rest
  | [x] =>
    rw [List.map_cons, List.map_nil, List.intercalate_singleton]
    exact (h x List.mem_cons_self).skipLines_append _
  | x :: y :: xs =>
    rw [List.map_cons, List.map_cons, List.intercalate_cons_cons, List.append_assoc, List.append_assoc]
    exact (h x List.mem_cons_self).skipLines_append _

/-- The items of a list one after the other, up to the bracket behind them. -/
theorem items?_intercalate {xs : List α} (h : ∀ x ∈ xs, Denotes depth (shown x) (value x))
    {fuel : Nat} (rest : List Char) (hfuel : ([',', ' '].intercalate (xs.map shown)).length < fuel) :
    items? fuel depth ([',', ' '].intercalate (xs.map shown) ++ ']' :: rest) =
      some (xs.map value, rest) := by
  -- on the items, for all calls that are more than the text is long; the last item has no comma behind it
  induction xs generalizing fuel with
  | nil =>
    obtain ⟨fuel, rfl⟩ : ∃ n, fuel = n + 1 := ⟨fuel - 1, by omega⟩
    exact items?.eq_2 depth fuel rest
  | cons x xs ih =>
    obtain ⟨fuel, rfl⟩ : ∃ n, fuel = n + 1 := ⟨fuel - 1, by omega⟩
    have hx := h x List.mem_cons_self
    have hxs : ∀ y ∈ xs, Denotes depth (shown y) (value y) := fun y hy => h y (List.mem_cons_of_mem x hy)
    cases xs with
    | nil =>
      rw [List.map_cons, List.map_nil, List.intercalate_singleton] at hfuel ⊢
      exact items?_last hx (by omega) rest
    | cons y ys =>
      -- the comma and the space leave one call for each item that follows
      rw [List.map_cons, List.map_cons, List.intercalate_cons_cons, List.length_append,
        List.length_append] at hfuel
      rw [List.map_cons, List.map_cons, List.intercalate_cons_cons, List.append_assoc, List.append_assoc,
        List.cons_append, List.cons_append, List.nil_append, items?_next hx (by omega), ← List.map_cons,
        skipLines_intercalate hxs, ih hxs]
      · rfl
      · rw [List.length_cons, List.length_cons] at hfuel
        rw [List.map_cons]
        omega

/-- Values between brackets are an array of what they denote. -/
theorem denotes_array {xs : List α} (h : ∀ x ∈ xs, Denotes depth (shown x) (value x)) :
    Denotes (depth + 1) ('[' :: [',', ' '].intercalate (xs.map shown) ++ [']']) (.array (xs.map value)) := by
  constructor
  · exact ⟨'[', _, rfl, by decide, by decide⟩
  · intro fuel rest hfuel hrest
    obtain ⟨fuel, rfl⟩ : ∃ n, fuel = n + 1 :=
      ⟨fuel - 1, by simp only [List.length_append, List.length_cons] at hfuel; omega⟩
    have hshape : ('[' :: [',', ' '].intercalate (xs.map shown) ++ [']']) ++ rest =
        '[' :: ([',', ' '].intercalate (xs.map shown) ++ ']' :: rest) := by simp
    rw [hshape, value?_bracket, skipLines_intercalate h, items?_intercalate h]
    · rfl
    · simp only [List.length_append, List.length_cons, List.length_nil] at hfuel
      omega

end Arrays

/-! ## Keys -/

/-- A character of a bare key is ink, and opens no section. -/
theorem isInk_of_isBare {c : Char} (h : isBare c = true) : IsInk c ∧ c ≠ '[' := by
  refine ⟨not_mem_of_all h (by decide), ?_⟩
  rintro rfl
  exact absurd h (by decide)

/-- A key begins with a character that is seen, and that opens no section. -/
theorem writeKey_eq_cons (s : List Char) : ∃ c r, writeKey s = c :: r ∧ IsInk c ∧ c ≠ '[' := by
  unfold writeKey
  split
  · next h =>
    obtain ⟨hne, hall⟩ := h
    obtain ⟨c, r, rfl⟩ := List.exists_cons_of_ne_nil hne
    exact ⟨c, r, rfl, isInk_of_isBare (List.all_eq_true.1 hall c List.mem_cons_self)⟩
  · split
    · exact ⟨_, _, rfl, by decide, by decide⟩
    · split
      · exact ⟨_, _, rfl, by decide, by decide⟩
      · exact ⟨_, _, rfl, by decide, by decide⟩

/-- A bare key ends before a character that is not bare. -/
theorem simpleKey?_bare {s : List Char} (hne : s ≠ []) (hs : s.all isBare = true) {c : Char}
    (hc : isBare c = false) (r : List Char) :
    simpleKey? (s ++ c :: r) = some (String.ofList s, c :: r) := by
  have hall := List.all_eq_true.1 hs
  obtain ⟨htake, hdrop⟩ := span_append hall (head?_cons_eq_false hc r)
  -- no mark at the front, so the key is not read as a string
  have hmark : ∀ d t, isBare d = false → s ++ c :: r ≠ d :: t := by
    intro d t hd e
    cases s with
    | nil => exact hne rfl
    | cons a s =>
      obtain rfl : a = d := (List.cons.inj e).1
      exact absurd (hall a List.mem_cons_self) (by rw [hd]; exact Bool.false_ne_true)
  unfold simpleKey?
  split
  · next t e => exact absurd e (hmark _ _ (by decide))
  · next t e => exact absurd e (hmark _ _ (by decide))
  · rw [htake, hdrop]
    exact if_neg hne

/-- A key that was written is read back up to the space behind it. -/
theorem simpleKey?_writeKey (s r : List Char) :
    simpleKey? (writeKey s ++ ' ' :: r) = some (String.ofList s, ' ' :: r) := by
  have hbasic : simpleKey? (Strings.inForm .basic s ++ ' ' :: r) = some (String.ofList s, ' ' :: r) := by
    rw [Strings.inForm_basic_append]
    show (Strings.body .basic .plain _).map _ = _
    rw [Strings.body_escapedBody_basic]
    rfl
  have hliteral : Strings.shows .literal s = true →
      simpleKey? (Strings.inForm .literal s ++ ' ' :: r) = some (String.ofList s, ' ' :: r) := by
    intro h
    rw [Strings.inForm_literal_append]
    show (Strings.body .literal .plain _).map _ = _
    rw [Strings.body_literal h]
    rfl
  -- bare if it can be, else between apostrophes if it can be, and else with escapes
  unfold writeKey
  split
  · next h => exact simpleKey?_bare h.1 h.2 (by decide) r
  · split
    · exact hbasic
    · split
      · next h => exact hliteral h
      · exact hbasic

/-- A single key, with no dot behind it and the space that may follow. -/
theorem keyPath?_of_simpleKey? {s r : List Char} {key : String} (hs : ∃ c t, s = c :: t ∧ IsInk c)
    (hkey : simpleKey? s = some (key, r)) (hdot : (skipSpace r).head? ≠ some '.') :
    keyPath? s = some ([key], skipSpace r) := by
  obtain ⟨c, t, rfl, hink⟩ := hs
  rw [keyPath?, skipSpace_ink hink, maxKeys, keys?, hkey]
  simp only [Option.bind_eq_bind, Option.bind_some]
  split
  · next e => exact absurd (by rw [e]; rfl) hdot
  · rfl

end BenchSweep.Toml.Document
