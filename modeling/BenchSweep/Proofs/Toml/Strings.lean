/-
  Strings are read back.

  `write` takes the first of four forms that shows a text as it is, and escapes when none does.  Whatever
  it takes, `read` gets the text back and stops where the string ends (`read_write`), provided that no
  further quotation mark follows.

  1. **Characters.**  Where a backslash starts an escape, every character but a quotation mark that is
     written as it is adds itself and leaves nothing begun (`body_escaped_append`).

  2. **Marks.**  In a form over several lines the end is found by looking ahead, and up to two marks may
     stand before the three that end the string.  So a mark inside the text must not be followed by two
     others: the writer sees to that by escaping each third mark (`closing?_escapedBody_multi`), or by not
     taking the form at all (`closing?_multiLiteral`).

  3. **The front.**  The marks at the front tell the form, and a line end behind three marks is dropped, so
     the writer puts one there exactly when the text has any.
-/
import BenchSweep.Toml.Strings

namespace BenchSweep.Toml.Strings

/-! ## Steps of the reader

  The reader keeps a mark of what is begun, and before each character looks whether the string ends here.
  It may end only where nothing is begun. -/

/-- A character in front of a result. -/
def consText (c : Char) (done : List Char × List Char) : List Char × List Char := (c :: done.1, done.2)

/-- A string ends with its mark and with no other character. -/
theorem closing?_of_ne {form : Form} {c : Char} (h : c ≠ form.quote) (r : List Char) :
    closing? form (c :: r) = none := by
  unfold closing?
  exact if_pos h

/-- Where the string ends, all that is given is the marks that still belong to it. -/
theorem body_of_closing? {form : Form} {c : Char} {r : List Char} {done : List Char × List Char}
    (h : closing? form (c :: r) = some done) : body form .plain (c :: r) = some done := by
  rw [body]
  simp only [Mark.mayClose, if_true, h]

/-- A character that does not end the string and adds itself. -/
theorem body_of_plainStep {form : Form} {c : Char} {r : List Char} (hc : closing? form (c :: r) = none)
    (hs : plainStep form c r.head? = some ([c], .plain)) :
    body form .plain (c :: r) = (body form .plain r).map (consText c) := by
  rw [body]
  simp only [Mark.mayClose, if_true, hc, step, hs]
  rfl

/-- A character of an escape, in which no string ends. -/
theorem body_of_step {form : Form} {mark next : Mark} {c : Char} {r out : List Char}
    (hm : mark.mayClose = false) (hs : step form mark c r.head? = some (out, next)) :
    body form mark (c :: r) = (body form next r).map fun done => (out ++ done.1, done.2) := by
  rw [body]
  simp only [hm, Bool.false_eq_true, if_false, hs]

/-- A character of an escape that is not at its end. -/
theorem body_of_silent_step {form : Form} {mark next : Mark} {c : Char} {r : List Char}
    (hm : mark.mayClose = false) (hs : step form mark c r.head? = some ([], next)) :
    body form mark (c :: r) = body form next r := by
  rw [body_of_step hm hs]
  cases body form next r <;> rfl

/-- A backslash where it starts an escape. -/
theorem body_backslash {form : Form} (he : form.hasEscapes = true) (r : List Char) :
    body form .plain ('\\' :: r) = body form .escape r := by
  have hq : '\\' ≠ form.quote := by cases form <;> decide
  rw [body]
  simp only [Mark.mayClose, if_true, closing?_of_ne hq, step, plainStep, he, and_self]
  cases body form .escape r <;> rfl

/-- A character that begins no escape and is no control character adds itself. -/
theorem plainStep_of_not_control {form : Form} {c : Char} (hb : ¬ (c = '\\' ∧ form.hasEscapes = true))
    (hc : isControl c = false) (next : Option Char) : plainStep form c next = some ([c], .plain) := by
  rw [plainStep, if_neg hb, hc, if_neg Bool.false_ne_true]

/-- A line end adds itself where several lines are allowed. -/
theorem plainStep_newline {form : Form} (hm : form.isMulti = true) (next : Option Char) :
    plainStep form '\n' next = some (['\n'], .plain) := by
  have hb : ¬ ('\n' = '\\' ∧ form.hasEscapes = true) := fun h => absurd h.1 (by decide)
  rw [plainStep, if_neg hb, if_pos (by decide), if_pos ⟨hm, rfl⟩]

/-! ## Escapes

  An escape is a letter with a meaning of its own, or a number in four digits.  Either way the reader adds
  one character and has nothing begun behind it. -/

/-- A backslash and a letter that has an escape of its own are the character that it stands for. -/
theorem body_shortEscape {form : Form} (he : form.hasEscapes = true) {letter c : Char}
    (h : shortEscape? letter = some c) (r : List Char) :
    body form .plain ('\\' :: letter :: r) = (body form .plain r).map (consText c) := by
  rw [body_backslash he, body_of_step rfl (by rw [step, h])]
  rfl

/-- The reader takes each digit that the writer knows for its value. -/
theorem hexValue?_hexDigit : ∀ d, d < 16 → hexValue? (hexDigit d) = some d := by decide

/-- A digit that others follow is added to the number, and no character is complete yet. -/
theorem body_hexDigit {form : Form} {d : Nat} (hd : d < 16) (more value : Nat) (r : List Char) :
    body form (.digits (more + 2) value) (hexDigit d :: r) =
      body form (.digits (more + 1) (16 * value + d)) r := by
  refine body_of_silent_step rfl ?_
  simp only [step, hexValue?_hexDigit d hd]
  rw [if_neg (by omega)]
  rfl

/-- The last digit completes the character that has the number. -/
theorem body_lastHexDigit {form : Form} {c : Char} {d value : Nat} (hd : d < 16)
    (hc : 16 * value + d = c.toNat) (r : List Char) :
    body form (.digits 1 value) (hexDigit d :: r) = (body form .plain r).map (consText c) := by
  have hv : c.toNat.isValidChar := c.valid
  have hs : step form (.digits 1 value) (hexDigit d) r.head? = some ([c], .plain) := by
    simp only [step, hexValue?_hexDigit d hd, Nat.le_refl, if_true, hc, scalar?, if_pos hv,
      Char.ofNat_toNat, Option.map_some]
  rw [body_of_step rfl hs]
  rfl

/-- A character by its number; four digits are enough for those that need one. -/
theorem body_numbered {form : Form} (he : form.hasEscapes = true) {c : Char} (hc : c.toNat < 0x10000)
    (r : List Char) : body form .plain (numbered c ++ r) = (body form .plain r).map (consText c) := by
  show body form .plain ('\\' :: 'u' :: hexDigit (c.toNat / 0x1000 % 16) ::
    hexDigit (c.toNat / 0x100 % 16) :: hexDigit (c.toNat / 0x10 % 16) :: hexDigit (c.toNat % 16) :: r) = _
  have hu : ∀ t : List Char, body form .escape ('u' :: t) = body form (.digits 4 0) t :=
    fun t => body_of_silent_step rfl rfl
  -- the four digits are those of the number, so together they are the number again
  have hlast : 16 * (16 * (16 * (16 * 0 + c.toNat / 0x1000 % 16) + c.toNat / 0x100 % 16)
      + c.toNat / 0x10 % 16) + c.toNat % 16 = c.toNat := by omega
  rw [body_backslash he, hu, body_hexDigit (by omega), body_hexDigit (by omega), body_hexDigit (by omega),
    body_lastHexDigit (by omega) hlast]

/-! ## Characters as the writer shows them

  A character is shown as itself or as an escape, and the reader of a form meets one of the two. -/

/-- A quotation mark is escaped, unless several lines are allowed and fewer than two stand before it. -/
theorem escaped_mark (form : Form) (marks : Nat) :
    escaped form marks '"' = if form = .multiBasic ∧ marks < 2 then ['"'] else ['\\', '"'] := rfl

/-- A line end is escaped, unless several lines are allowed. -/
theorem escaped_newline (form : Form) (marks : Nat) :
    escaped form marks '\n' = if form = .multiBasic then ['\n'] else ['\\', 'n'] := rfl

/-- What is written for a character, a quotation mark as it is apart, adds the character and begins
    nothing. -/
theorem body_escaped_append {form : Form} (he : form.hasEscapes = true) {marks : Nat} {c : Char}
    (hraw : escaped form marks c ≠ ['"']) (r : List Char) :
    body form .plain (escaped form marks c ++ r) = (body form .plain r).map (consText c) := by
  have hq : form.quote = '"' := by cases form <;> first | rfl | exact absurd he Bool.false_ne_true
  -- the characters in the order in which `escaped` asks for them
  by_cases hslash : c = '\\'
  · subst hslash
    exact body_shortEscape he rfl r
  by_cases hmark : c = '"'
  · subst hmark
    rw [escaped_mark] at hraw ⊢
    split at hraw
    · exact absurd rfl hraw
    · next hm =>
      rw [if_neg hm]
      exact body_shortEscape he rfl r
  have hclose : closing? form (c :: r) = none := closing?_of_ne (hq ▸ hmark) r
  by_cases htab : c = '\t'
  · subst htab
    exact body_shortEscape he rfl r
  by_cases hline : c = '\n'
  · subst hline
    rw [escaped_newline]
    split
    · next hf =>
      have hm : form.isMulti = true := by rw [hf]; rfl
      exact body_of_plainStep hclose (plainStep_newline hm _)
    · exact body_shortEscape he rfl r
  by_cases hback : c = '\x08'
  · subst hback
    exact body_shortEscape he rfl r
  by_cases hfeed : c = '\x0c'
  · subst hfeed
    exact body_shortEscape he rfl r
  by_cases hreturn : c = '\r'
  · subst hreturn
    exact body_shortEscape he rfl r
  rw [escaped, if_neg hslash, if_neg hmark, if_neg htab, if_neg hline, if_neg hback, if_neg hfeed,
    if_neg hreturn]
  split
  · next hc =>
    refine body_numbered he ?_ r
    simp only [isControl, Bool.or_eq_true, Bool.and_eq_true, decide_eq_true_eq, beq_iff_eq] at hc
    omega
  · next hc =>
    exact body_of_plainStep hclose (plainStep_of_not_control (fun h => hslash h.1)
      (Bool.eq_false_iff.2 hc) _)

/-- What is written for another character than a quotation mark does not begin with one. -/
theorem escaped_of_ne_mark {form : Form} {marks : Nat} {c : Char} (hc : c ≠ '"') :
    ∃ d t, escaped form marks c = d :: t ∧ d ≠ '"' := by
  unfold escaped
  repeat' split
  all_goals first
    | exact ⟨_, _, rfl, by decide⟩
    | exact ⟨_, _, rfl, hc⟩

/-- What is not written as a bare quotation mark does not begin with one, so no mark runs into the next. -/
theorem escaped_eq_cons {form : Form} {marks : Nat} {c : Char} (hraw : escaped form marks c ≠ ['"']) :
    ∃ d t, escaped form marks c = d :: t ∧ d ≠ '"' := by
  by_cases hc : c = '"'
  · subst hc
    rw [escaped_mark] at hraw ⊢
    split at hraw
    · exact absurd rfl hraw
    · next hm =>
      rw [if_neg hm]
      exact ⟨_, _, rfl, by decide⟩
  · exact escaped_of_ne_mark hc

/-- A quotation mark is written as it is only where several lines are allowed, after fewer than two. -/
theorem escaped_eq_mark {form : Form} {marks : Nat} {c : Char} (hraw : escaped form marks c = ['"']) :
    c = '"' ∧ form = .multiBasic ∧ marks < 2 := by
  by_cases hc : c = '"'
  · subst hc
    rw [escaped_mark] at hraw
    split at hraw
    · next hm => exact ⟨rfl, hm⟩
    · exact absurd hraw (by decide)
  · obtain ⟨d, t, hd, hne⟩ := @escaped_of_ne_mark form marks c hc
    rw [hd] at hraw
    exact absurd (List.cons.inj hraw).1 hne

/-! ## Where a string over several lines ends

  Marks in front of the three that end a string belong to it, up to two of them.  So the look ahead has five
  cases, one for each number of marks in a row. -/

section Multi

variable {form : Form} {a : Char} {r rest : List Char}

/-- One mark in front of another character is no end. -/
theorem closing?_one (hm : form.isMulti = true) (ha : a ≠ form.quote) :
    closing? form (form.quote :: a :: r) = none := by
  cases r with
  | nil => simp only [closing?, hm, ne_eq, not_true_eq_false, if_false, Bool.not_true,
      Bool.false_eq_true]
  | cons b r =>
    simp only [closing?, hm, ne_eq, not_true_eq_false, if_false, Bool.not_true, Bool.false_eq_true, ha,
      not_false_eq_true, true_or, if_true]

/-- Two marks in front of another character are no end. -/
theorem closing?_two (hm : form.isMulti = true) (ha : a ≠ form.quote) :
    closing? form (form.quote :: form.quote :: a :: r) = none := by
  simp only [closing?, hm, ne_eq, not_true_eq_false, if_false, Bool.not_true, Bool.false_eq_true, ha,
    not_false_eq_true, or_true, if_true]

/-- Three marks are the end if no further one follows. -/
theorem closing?_fence (hm : form.isMulti = true) (hr : rest.head? ≠ some form.quote) :
    closing? form (form.quote :: form.quote :: form.quote :: rest) = some ([], rest) := by
  cases rest with
  | nil => simp [closing?, hm]
  | cons d r =>
    have hd : d ≠ form.quote := fun h => hr (by rw [h]; rfl)
    simp [closing?, hm, hd]

/-- One mark belongs to the text. -/
theorem closing?_mark_fence (hm : form.isMulti = true) (hr : rest.head? ≠ some form.quote) :
    closing? form (form.quote :: form.quote :: form.quote :: form.quote :: rest)
      = some ([form.quote], rest) := by
  cases rest with
  | nil => simp [closing?, hm]
  | cons d r =>
    have hd : d ≠ form.quote := fun h => hr (by rw [h]; rfl)
    simp [closing?, hm, hd]

/-- Two marks belong to the text. -/
theorem closing?_two_marks_fence (hm : form.isMulti = true) :
    closing? form (form.quote :: form.quote :: form.quote :: form.quote :: form.quote :: rest)
      = some ([form.quote, form.quote], rest) := by
  simp [closing?, hm]

end Multi

/-! ## Texts in each form

  By induction on the text, one character at a time, with the end of the form behind it. -/

/-- A text is written character by character, with a count of the marks that stand bare at the place. -/
theorem escapedBody_cons (form : Form) (marks : Nat) (c : Char) (r : List Char) :
    escapedBody form marks (c :: r) =
      escaped form marks c ++ escapedBody form (if escaped form marks c = ['"'] then marks + 1 else 0) r :=
  rfl

/-- Between single quotation marks. -/
theorem body_escapedBody_basic (s rest : List Char) (marks : Nat) :
    body .basic .plain (escapedBody .basic marks s ++ '"' :: rest) = some (s, rest) := by
  -- on the text, for every count of marks, which in this form is never looked at
  induction s generalizing marks with
  | nil => exact body_of_closing? rfl
  | cons c r ih =>
    have hraw : escaped .basic marks c ≠ ['"'] := fun h => absurd (escaped_eq_mark h).2.1 (by decide)
    rw [escapedBody_cons, List.append_assoc, body_escaped_append rfl hraw, ih]
    rfl

/-- Between single apostrophes, if the text has neither an apostrophe nor a control character. -/
theorem body_literal {s : List Char} (h : shows .literal s = true) (rest : List Char) :
    body .literal .plain (s ++ '\'' :: rest) = some (s, rest) := by
  -- on the text, in which no character begins anything
  induction s with
  | nil => exact body_of_closing? rfl
  | cons c r ih =>
    simp only [shows, List.all_cons, Bool.and_eq_true, Bool.not_eq_true', bne_iff_ne] at h ih
    obtain ⟨⟨hc, hq⟩, hr⟩ := h
    have hb : ¬ (c = '\\' ∧ Form.literal.hasEscapes = true) := fun h => absurd h.2 (by decide)
    rw [List.cons_append, body_of_plainStep (closing?_of_ne hq _) (plainStep_of_not_control hb hc _), ih hr]
    rfl

/-- Behind the first character there are no more marks in a row than before. -/
theorem hasThree_of_cons {q c : Char} {r : List Char} (h : hasThree q (c :: r) = false) :
    hasThree q r = false := by
  match r, h with
  | [], _ => rfl
  | [_], _ => rfl
  | _ :: _ :: _, h =>
    rw [hasThree, Bool.or_eq_false_iff] at h
    exact h.2

/-- An apostrophe of the text: the look ahead finds no end, or the very end of the text. -/
theorem closing?_multiLiteral {r rest : List Char} (h : hasThree '\'' ('\'' :: r) = false)
    (hrest : rest.head? ≠ some '\'') :
    closing? .multiLiteral ('\'' :: (r ++ '\'' :: '\'' :: '\'' :: rest)) = none ∨
      closing? .multiLiteral ('\'' :: (r ++ '\'' :: '\'' :: '\'' :: rest)) = some ('\'' :: r, rest) := by
  -- how many apostrophes stand before the end, or where the row of them is broken
  match r, h with
  | [], _ => exact .inr (closing?_mark_fence rfl hrest)
  | [b], _ =>
    by_cases hb : b = '\''
    · subst hb
      exact .inr (closing?_two_marks_fence rfl)
    · exact .inl (closing?_one rfl hb)
  | b :: d :: r, h =>
    by_cases hb : b = '\''
    · subst hb
      refine .inl (closing?_two rfl fun (hd : d = '\'') => ?_)
      rw [hd] at h
      exact absurd h (by simp [hasThree])
    · exact .inl (closing?_one rfl hb)

/-- Between three apostrophes, if the text has no three in a row. -/
theorem body_multiLiteral {s rest : List Char} (h : shows .multiLiteral s = true)
    (hrest : rest.head? ≠ some '\'') :
    body .multiLiteral .plain (s ++ '\'' :: '\'' :: '\'' :: rest) = some (s, rest) := by
  -- on the text, which from each of its places on has no three apostrophes in a row
  induction s with
  | nil => exact body_of_closing? (closing?_fence rfl hrest)
  | cons c r ih =>
    simp only [shows, List.all_cons, Bool.and_eq_true, Bool.or_eq_true, Bool.not_eq_true',
      beq_iff_eq] at h ih
    obtain ⟨⟨hc, hr⟩, hthree⟩ := h
    have hstep : ∀ next, plainStep .multiLiteral c next = some ([c], .plain) := by
      intro next
      rcases hc with hc | hc
      · exact plainStep_of_not_control (fun h => absurd h.2 (by decide)) hc next
      · rw [hc]
        exact plainStep_newline rfl next
    have hclosing : closing? .multiLiteral (c :: (r ++ '\'' :: '\'' :: '\'' :: rest)) = none ∨
        closing? .multiLiteral (c :: (r ++ '\'' :: '\'' :: '\'' :: rest)) = some (c :: r, rest) := by
      by_cases hq : c = '\''
      · subst hq
        exact closing?_multiLiteral hthree hrest
      · exact .inl (closing?_of_ne hq _)
    rw [List.cons_append]
    -- unless the string ends at `c`, the character adds itself and the induction does the rest
    rcases hclosing with hclose | hclose
    · rw [body_of_plainStep hclose (hstep _), ih ⟨hr, hasThree_of_cons hthree⟩]
      rfl
    · exact body_of_closing? hclose

/-- A mark of the text that is written as it is: the look ahead finds no end, or the very end of the
    text. -/
theorem closing?_escapedBody_multi {marks : Nat} (hmarks : marks < 2) {r rest : List Char}
    (hrest : rest.head? ≠ some '"') :
    closing? .multiBasic ('"' :: (escapedBody .multiBasic (marks + 1) r ++ '"' :: '"' :: '"' :: rest))
        = none ∨
      closing? .multiBasic ('"' :: (escapedBody .multiBasic (marks + 1) r ++ '"' :: '"' :: '"' :: rest))
        = some ('"' :: r, rest) := by
  cases r with
  | nil => exact .inr (closing?_mark_fence rfl hrest)
  | cons d r =>
    by_cases hd : escaped .multiBasic (marks + 1) d = ['"']
    · -- two marks in a row: what follows is the end, or does not begin with a mark
      obtain ⟨rfl, -, -⟩ := escaped_eq_mark hd
      cases r with
      | nil =>
        rw [escapedBody_cons, hd]
        exact .inr (closing?_two_marks_fence rfl)
      | cons e r =>
        have he : escaped .multiBasic (marks + 1 + 1) e ≠ ['"'] := fun h => by
          have := (escaped_eq_mark h).2.2
          omega
        obtain ⟨a, t, ha, hne⟩ := escaped_eq_cons he
        rw [escapedBody_cons, hd, if_pos rfl, escapedBody_cons, ha]
        exact .inl (closing?_two rfl hne)
    · obtain ⟨a, t, ha, hne⟩ := escaped_eq_cons hd
      rw [escapedBody_cons, ha]
      exact .inl (closing?_one rfl hne)

/-- Between three quotation marks.  No more than two that belong to the text stand in a row, for a third
    one is escaped. -/
theorem body_escapedBody_multi {s rest : List Char} (hrest : rest.head? ≠ some '"') (marks : Nat) :
    body .multiBasic .plain (escapedBody .multiBasic marks s ++ '"' :: '"' :: '"' :: rest)
      = some (s, rest) := by
  -- on the text, for every count of the marks that stand bare in front of it
  induction s generalizing marks with
  | nil => exact body_of_closing? (closing?_fence rfl hrest)
  | cons c r ih =>
    rw [escapedBody_cons]
    by_cases hraw : escaped .multiBasic marks c = ['"']
    · -- a mark of the text: it is kept unless the three behind it are the end
      obtain ⟨rfl, -, hmarks⟩ := escaped_eq_mark hraw
      rw [hraw, if_pos rfl, List.singleton_append, List.cons_append]
      rcases closing?_escapedBody_multi hmarks hrest with hclose | hclose
      · rw [body_of_plainStep hclose (plainStep_of_not_control (by decide) (by decide) _), ih]
        rfl
      · exact body_of_closing? hclose
    · rw [if_neg hraw, List.append_assoc, body_escaped_append rfl hraw, ih]
      rfl

/-! ## The front of a string

  One mark or three tell the form, and a form on one line must not look like one over several: its text does
  not begin with two marks of its own. -/

/-- Nothing is dropped of a text that begins with no line end. -/
theorem dropFirstNewline_of_head {r : List Char} (h : ∀ c ∈ r.head?, c ≠ '\n' ∧ c ≠ '\r') :
    dropFirstNewline r = r := by
  cases r with
  | nil => rfl
  | cons c r =>
    have hc := h c rfl
    unfold dropFirstNewline
    split
    · next e => exact absurd (List.cons.inj e).1 hc.1
    · next e => exact absurd (List.cons.inj e).1 hc.2
    · rfl

/-- Only a line feed is written with a line end in front. -/
theorem head_escaped {form : Form} {marks : Nat} {c d : Char} {t : List Char} (hc : c ≠ '\n')
    (hd : escaped form marks c = d :: t) : d ≠ '\n' ∧ d ≠ '\r' := by
  unfold escaped at hd
  -- each escape begins with a backslash, and a character without one is its own front
  repeat' split at hd
  all_goals first
    | (obtain ⟨rfl, -⟩ := List.cons.inj hd; exact ⟨by decide, by decide⟩)
    | exact absurd ‹c = '\n'› hc
    | (obtain ⟨rfl, -⟩ := List.cons.inj hd; exact ⟨hc, ‹¬ c = '\r'›⟩)

/-- What stands behind three marks of the writer is read from where the text begins: a line end there is
    put in if the text has any, and otherwise none comes first. -/
theorem dropFirstNewline_inForm {form : Form} (hm : form.isMulti = true) (s t : List Char)
    (h : ¬ s.contains '\n' → ∀ c ∈ t.head?, c ≠ '\n' ∧ c ≠ '\r') :
    dropFirstNewline ((if form.isMulti ∧ s.contains '\n' then ['\n'] else []) ++ t) = t := by
  by_cases hs : s.contains '\n' = true
  · rw [if_pos ⟨hm, hs⟩]
    rfl
  · rw [if_neg fun h => hs h.2]
    exact dropFirstNewline_of_head (h hs)

/-- One quotation mark in front is a string on one line with escapes. -/
theorem read_basic {r : List Char} (h : ∀ t, r ≠ '"' :: '"' :: t) :
    read ('"' :: r) = body .basic .plain r := by
  unfold read
  split
  · next t e => exact absurd (List.cons.inj e).2 (h t)
  · next e => exact absurd (List.cons.inj e).1 (by decide)
  · rfl

/-- One apostrophe in front is a string on one line without escapes. -/
theorem read_literal {r : List Char} (h : ∀ t, r ≠ '\'' :: '\'' :: t) :
    read ('\'' :: r) = body .literal .plain r := by
  unfold read
  split
  · next e => exact absurd (List.cons.inj e).1 (by decide)
  · next t e => exact absurd (List.cons.inj e).2 (h t)
  · rfl

/-! ## Whole strings

  The form is chosen by the text, and each choice is one in which the text can be read back. -/

/-- The forms without escapes are taken only for a text that they show. -/
theorem shows_formOf {s : List Char} (h : (formOf s).hasEscapes = false) : shows (formOf s) s = true := by
  unfold formOf at h ⊢
  split at h
  · exact absurd h (by decide)
  · next h1 =>
    rw [if_neg h1]
    split at h
    · next h2 => rw [if_pos h2]; exact h2
    · next h2 =>
      rw [if_neg h2]
      split at h
      · exact absurd h (by decide)
      · next h3 =>
        rw [if_neg h3]
        split at h
        · next h4 => rw [if_pos h4]; exact h4
        · split at h <;> exact absurd h (by decide)

/-- In the first form the text stands between quotation marks, with its escapes. -/
theorem inForm_basic_append (s rest : List Char) :
    inForm .basic s ++ rest = '"' :: (escapedBody .basic 0 s ++ '"' :: rest) := by
  simp [inForm, Form.fence, Form.isMulti, Form.quote, Form.hasEscapes]

/-- In the second form the text stands between apostrophes, as it is. -/
theorem inForm_literal_append (s rest : List Char) :
    inForm .literal s ++ rest = '\'' :: (s ++ '\'' :: rest) := by
  simp [inForm, Form.fence, Form.isMulti, Form.quote, Form.hasEscapes]

/-- What is written in the first form is read back. -/
theorem read_inForm_basic {s rest : List Char} (hrest : rest.head? ≠ some '"') :
    read (inForm .basic s ++ rest) = some (s, rest) := by
  rw [inForm_basic_append, read_basic, body_escapedBody_basic]
  -- two marks would follow only if the text began with a bare one, or if one stood behind the string
  intro t ht
  cases s with
  | nil => exact hrest (by rw [(List.cons.inj ht).2]; rfl)
  | cons c r =>
    have hraw : escaped .basic 0 c ≠ ['"'] := fun h => absurd (escaped_eq_mark h).2.1 (by decide)
    obtain ⟨d, u, hd, hne⟩ := escaped_eq_cons hraw
    rw [escapedBody_cons, hd] at ht
    exact hne (List.cons.inj ht).1

/-- What is written in the second form is read back, if the text can be shown in it. -/
theorem read_inForm_literal {s rest : List Char} (h : shows .literal s = true)
    (hrest : rest.head? ≠ some '\'') : read (inForm .literal s ++ rest) = some (s, rest) := by
  rw [inForm_literal_append, read_literal, body_literal h]
  -- the text has no apostrophe to begin with, and none stands behind the string
  intro t ht
  cases s with
  | nil => exact hrest (by rw [(List.cons.inj ht).2]; rfl)
  | cons c r =>
    simp only [shows, List.all_cons, Bool.and_eq_true, bne_iff_ne] at h
    exact h.1.2 (List.cons.inj ht).1

/-- What is written in the third form is read back. -/
theorem read_inForm_multiBasic {s rest : List Char} (hrest : rest.head? ≠ some '"') :
    read (inForm .multiBasic s ++ rest) = some (s, rest) := by
  have hshape : inForm .multiBasic s ++ rest = '"' :: '"' :: '"' ::
      ((if Form.multiBasic.isMulti ∧ s.contains '\n' then ['\n'] else [])
        ++ (escapedBody .multiBasic 0 s ++ '"' :: '"' :: '"' :: rest)) := by
    simp [inForm, Form.fence, Form.isMulti, Form.quote, Form.hasEscapes]
  rw [hshape]
  show body .multiBasic .plain (dropFirstNewline _) = _
  rw [dropFirstNewline_inForm rfl, body_escapedBody_multi hrest]
  -- no line end was put in, so none may stand at the front of what is written of the text
  intro hs c hc
  cases s with
  | nil =>
    obtain rfl : '"' = c := Option.some.inj hc
    decide
  | cons a r =>
    have ha : a ≠ '\n' := fun h => hs (by rw [h]; simp)
    obtain ⟨d, u, hd⟩ : ∃ d u, escaped .multiBasic 0 a = d :: u := by
      by_cases hraw : escaped .multiBasic 0 a = ['"']
      · exact ⟨_, _, hraw⟩
      · obtain ⟨d, u, hd, -⟩ := escaped_eq_cons hraw
        exact ⟨d, u, hd⟩
    rw [escapedBody_cons, hd] at hc
    obtain rfl : d = c := Option.some.inj hc
    exact head_escaped ha hd

/-- What is written in the last form is read back, if the text can be shown in it. -/
theorem read_inForm_multiLiteral {s rest : List Char} (h : shows .multiLiteral s = true)
    (hrest : rest.head? ≠ some '\'') : read (inForm .multiLiteral s ++ rest) = some (s, rest) := by
  have hshape : inForm .multiLiteral s ++ rest = '\'' :: '\'' :: '\'' ::
      ((if Form.multiLiteral.isMulti ∧ s.contains '\n' then ['\n'] else [])
        ++ (s ++ '\'' :: '\'' :: '\'' :: rest)) := by
    simp [inForm, Form.fence, Form.isMulti, Form.quote, Form.hasEscapes]
  rw [hshape]
  show body .multiLiteral .plain (dropFirstNewline _) = _
  rw [dropFirstNewline_inForm rfl, body_multiLiteral h hrest]
  -- no line end was put in, so the text has none in front, and a carriage return it cannot have
  intro hs c hc
  cases s with
  | nil =>
    obtain rfl : '\'' = c := Option.some.inj hc
    decide
  | cons a r =>
    obtain rfl : a = c := Option.some.inj hc
    simp only [shows, List.all_cons, Bool.and_eq_true, Bool.or_eq_true, Bool.not_eq_true',
      beq_iff_eq] at h
    have ha : a ≠ '\n' := fun h => hs (by rw [h]; simp)
    refine ⟨ha, ?_⟩
    rintro rfl
    exact absurd h.1.1 (by decide)

/-- A string that was written is read back, and what follows it is left, if no other mark follows. -/
theorem read_write (s : List Char) {rest : List Char} (hrest : rest.head? ≠ some '"')
    (hrest' : rest.head? ≠ some '\'') : read (write s ++ rest) = some (s, rest) := by
  unfold write
  cases hf : formOf s with
  | basic => exact read_inForm_basic hrest
  | literal => exact read_inForm_literal (hf ▸ shows_formOf (by rw [hf]; rfl)) hrest'
  | multiBasic => exact read_inForm_multiBasic hrest
  | multiLiteral => exact read_inForm_multiLiteral (hf ▸ shows_formOf (by rw [hf]; rfl)) hrest'

/-- What is written for a text begins with a mark. -/
theorem write_eq_cons (s : List Char) : ∃ t, write s = '"' :: t ∨ write s = '\'' :: t := by
  unfold write
  cases formOf s with
  | basic => exact ⟨_, .inl rfl⟩
  | literal => exact ⟨_, .inr rfl⟩
  | multiBasic => exact ⟨_, .inl rfl⟩
  | multiLiteral => exact ⟨_, .inr rfl⟩

end BenchSweep.Toml.Strings
