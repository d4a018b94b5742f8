/-
  Written JSON is read back.

  `Denotes t v` says of a text that it is read as a value wherever a value may end, and whatever follows.
  Written strings, integers and names denote themselves, and so does every value written with one item or
  field a line (`denotes_pretty`), so that reading undoes writing (`read?_pretty`).

  1. **Characters.**  Every character of a string, escaped or not, adds itself and leaves nothing begun
     (`body_escaped_append`); the quotation mark that ends the string is the only one not escaped.

  2. **Ends.**  A number ends where no character of a number follows (`EndsValue`), which is so before a
     comma, a line end or a closing bracket.

  3. **Parts.**  The text of a decimal is its maker's affair, so writing can be undone only if all decimals
     in a value spell numbers (`Value.Spelt`).  What is asked of all parts of a value is said by
     `Value.Everywhere`.
-/
import BenchSweep.Proofs.Json.Reader
import BenchSweep.Proofs.Toml.Numbers

namespace BenchSweep.Json

/-! ## Parts of a value

  What is asked of all decimals, or of the keys of all objects, is handed down to the items and fields of a
  value, which is what the recursion over values needs. -/

/-- A value is another one or stands somewhere in it. -/
inductive Within (part : Value) : Value → Prop
  | self : Within part part
  | item {items : List Value} {v : Value} (h : v ∈ items) : Within part v → Within part (.array items)
  | field {fields : List (String × Value)} {key : String} {v : Value} (h : (key, v) ∈ fields) :
    Within part v → Within part (.object fields)

namespace Value

/-- It holds of all the values that stand in a value. -/
def Everywhere (P : Value → Prop) (v : Value) : Prop := ∀ part, Within part v → P part

/-- A decimal has a text that spells a number, and not an integer. -/
def Spelt : Value → Prop
  | decimal text => Reader.numberAt? text.toList = some (decimal text, [])
  | _ => True

/-- An object gives no key twice. -/
def KeysOnce : Value → Prop
  | object fields => (fields.map Prod.fst).Nodup
  | _ => True

/-- Neither an array nor an object. -/
def IsLeaf : Value → Prop
  | array _ | object _ => False
  | _ => True

variable {P Q : Value → Prop}

/-- What holds all through a value may be weakened. -/
theorem Everywhere.imp {v : Value} (h : v.Everywhere P) (hpq : ∀ part, P part → Q part) : v.Everywhere Q :=
  fun part hpart => hpq part (h part hpart)

/-- The parts of an item are parts of the array. -/
theorem Everywhere.item {items : List Value} (h : (array items).Everywhere P) {v : Value} (hv : v ∈ items) :
    v.Everywhere P := fun part hpart => h part (.item hv hpart)

/-- The parts of a field's value are parts of the object. -/
theorem Everywhere.field {fields : List (String × Value)} (h : (object fields).Everywhere P) {key : String}
    {v : Value} (hv : (key, v) ∈ fields) : v.Everywhere P := fun part hpart => h part (.field hv hpart)

/-- A value without parts is the only one of its parts. -/
theorem everywhere_leaf {v : Value} (hleaf : v.IsLeaf) (h : P v) : v.Everywhere P := by
  intro part hpart
  cases hpart with
  | self => exact h
  | item => exact hleaf.elim
  | field => exact hleaf.elim

/-- It holds all through an array if it holds of the array and all through each item. -/
theorem everywhere_array {items : List Value} (h : P (array items)) (hitems : ∀ v ∈ items, v.Everywhere P) :
    (array items).Everywhere P := by
  intro part hpart
  cases hpart with
  | self => exact h
  | item hv hpart => exact hitems _ hv part hpart

/-- It holds all through an object if it holds of the object and all through the value of each field. -/
theorem everywhere_object {fields : List (String × Value)} (h : P (object fields))
    (hfields : ∀ field ∈ fields, field.2.Everywhere P) : (object fields).Everywhere P := by
  intro part hpart
  cases hpart with
  | self => exact h
  | field hv hpart => exact hfields _ hv part hpart

end Value

namespace Reader

open Toml (IsDigits isDigits_toDigits span_append head?_cons_eq_false)
open Toml.Strings (hexValue? scalar?)

/-! ## Space

  Space is passed over before a value and before what separates values.  Only line ends and the steps behind
  them are ever written outside strings, apart from the one step behind a colon. -/

/-- Where there is no space, none is passed over. -/
theorem skipSpace_ink {c : Char} (h : isSpace c = false) (r : List Char) : skipSpace (c :: r) = c :: r := by
  rw [skipSpace, List.dropWhile_cons_of_neg]
  rw [h]
  exact Bool.false_ne_true

/-- A line end is passed over together with the steps of the next line. -/
theorem skipSpace_newline (depth : Nat) (s : List Char) : skipSpace (newline depth ++ s) = skipSpace s := by
  refine List.dropWhile_append_of_pos fun c hc => ?_
  rcases List.mem_cons.1 hc with rfl | hc
  · decide
  · obtain rfl : c = ' ' := List.eq_of_mem_replicate hc
    decide

/-! ## Strings

  The reader keeps a mark of what is begun: nothing, an escape, or some digits of a number.  Written
  characters begin and end with nothing begun, so they can be read one at a time. -/

/-- A character in front of a result. -/
def consText (c : Char) (done : List Char × List Char) : List Char × List Char := (c :: done.1, done.2)

/-- A character that is taken adds what it completes and leaves the next mark.  The quotation mark with
    nothing begun is the one character that is not taken like this. -/
theorem body_of_step {mark next : Mark} {c : Char} {out : List Char} (hc : ¬ (mark = .plain ∧ c = '"'))
    (hs : step mark c = some (out, next)) (r : List Char) :
    body mark (c :: r) = (body next r).map fun done => (out ++ done.1, done.2) := by
  rw [body, if_neg hc, hs]

/-- A character of an escape that is not at its end. -/
theorem body_of_silent_step {mark next : Mark} {c : Char} (hc : ¬ (mark = .plain ∧ c = '"'))
    (hs : step mark c = some ([], next)) (r : List Char) : body mark (c :: r) = body next r := by
  rw [body_of_step hc hs]
  cases body next r <;> rfl

/-- The quotation mark ends a string if nothing is begun. -/
theorem body_quote (r : List Char) : body .plain ('"' :: r) = some ([], r) := if_pos ⟨rfl, rfl⟩

/-- A backslash begins an escape. -/
theorem body_backslash (r : List Char) : body .plain ('\\' :: r) = body .escape r :=
  body_of_silent_step (by decide) rfl r

/-- A backslash and a letter that has an escape of its own are the character that it stands for. -/
theorem body_shortEscape {letter c : Char} (hu : letter ≠ 'u') (h : shortEscape? letter = some c)
    (r : List Char) : body .plain ('\\' :: letter :: r) = (body .plain r).map (consText c) := by
  have hs : step .escape letter = some ([c], .plain) := by rw [step, if_neg hu, h]; rfl
  rw [body_backslash, body_of_step (fun h => Mark.noConfusion h.1) hs]
  rfl

/-- The reader takes each digit that the writer knows for its value. -/
theorem hexValue?_hexDigit : ∀ d, d < 16 → hexValue? (hexDigit d) = some d := by decide

/-- A digit that others follow is added to the number, and no character is complete yet. -/
theorem body_hexDigit {d : Nat} (hd : d < 16) (more value : Nat) (r : List Char) :
    body (.digits (more + 2) value none) (hexDigit d :: r) =
      body (.digits (more + 1) (16 * value + d) none) r := by
  refine body_of_silent_step (fun h => Mark.noConfusion h.1) ?_ r
  simp only [step, hexValue?_hexDigit d hd]
  rw [if_neg (by omega)]
  rfl

/-- The last digit completes a character.  Only numbers below the surrogates are looked at, as the writer
    gives none but control characters by their numbers. -/
theorem body_lastHexDigit {c : Char} {d value : Nat} (hd : d < 16) (hc : 16 * value + d = c.toNat)
    (hlow : c.toNat < 0xD800) (r : List Char) :
    body (.digits 1 value none) (hexDigit d :: r) = (body .plain r).map (consText c) := by
  have hv : c.toNat.isValidChar := c.valid
  -- below the surrogates one unit is a character, which is found again by its number
  have hunit : unit? none c.toNat = some ([c], .plain) := by
    rw [unit?, if_neg (by omega), scalar?, if_pos hv, Char.ofNat_toNat]
    rfl
  have hs : step (.digits 1 value none) (hexDigit d) = some ([c], .plain) := by
    simp only [step, hexValue?_hexDigit d hd, Nat.le_refl, if_true, hc, hunit]
  rw [body_of_step (fun h => Mark.noConfusion h.1) hs]
  rfl

/-- A control character by its number. -/
theorem body_numbered {c : Char} (hc : c.toNat < 0x20) (r : List Char) :
    body .plain (['\\', 'u', '0', '0', hexDigit (c.toNat / 16), hexDigit (c.toNat % 16)] ++ r) =
      (body .plain r).map (consText c) := by
  have hu : ∀ t : List Char, body .escape ('u' :: t) = body (.digits 4 0 none) t :=
    body_of_silent_step (fun h => Mark.noConfusion h.1) rfl
  -- the first two digits are always zeros, so the number is that of the last two
  have hzero : '0' = hexDigit 0 := by decide
  show body .plain ('\\' :: 'u' :: '0' :: '0' :: hexDigit (c.toNat / 16) :: hexDigit (c.toNat % 16) :: r) = _
  rw [body_backslash, hu, hzero, body_hexDigit (by omega), body_hexDigit (by omega), body_hexDigit (by omega),
    body_lastHexDigit (c := c) (by omega) (by omega) (by omega)]

/-- A character that needs no escape stands for itself. -/
theorem body_plain {c : Char} (hq : c ≠ '"') (hb : c ≠ '\\') (hc : ¬ c.toNat < 0x20) (r : List Char) :
    body .plain (c :: r) = (body .plain r).map (consText c) := by
  have hs : step .plain c = some ([c], .plain) := by rw [step, if_neg hb, if_neg hc]
  rw [body_of_step (fun h => hq h.2) hs]
  rfl

/-- A character as it is written adds itself. -/
theorem body_escaped_append (c : Char) (r : List Char) :
    body .plain (escaped c ++ r) = (body .plain r).map (consText c) := by
  -- case by case of the writer: the seven characters with a letter, the numbered ones, and all others
  unfold escaped
  split
  · next h => subst h; exact body_shortEscape (by decide) rfl r
  split
  · next h => subst h; exact body_shortEscape (by decide) rfl r
  split
  · next h => subst h; exact body_shortEscape (by decide) rfl r
  split
  · next h => subst h; exact body_shortEscape (by decide) rfl r
  split
  · next h => subst h; exact body_shortEscape (by decide) rfl r
  split
  · next h => subst h; exact body_shortEscape (by decide) rfl r
  split
  · next h => subst h; exact body_shortEscape (by decide) rfl r
  split
  · next h => exact body_numbered h r
  · next hq hb _ _ _ _ _ hc => exact body_plain hq hb hc r

/-- A text is read back up to the quotation mark behind it. -/
theorem body_flatMap_escaped (s r : List Char) :
    body .plain (s.flatMap escaped ++ '"' :: r) = some (s, r) := by
  -- on the text, one written character after the other, up to the quotation mark that ends it
  induction s with
  | nil => exact body_quote r
  | cons c s ih =>
    rw [List.flatMap_cons, List.append_assoc, body_escaped_append, ih]
    rfl

/-- A written string is its characters, written each, between quotation marks. -/
theorem stringText_append (s : String) (r : List Char) :
    stringText s ++ r = '"' :: (s.toList.flatMap escaped ++ '"' :: r) := by
  simp [stringText]

/-! ## Texts that denote a value

  Values stand inside of others, so being read is said of a text with anything behind it; all that is asked
  is that a value may end there. -/

/-- Where a value may end. -/
def EndsValue (rest : List Char) : Prop := ∀ c ∈ rest.head?, isNumberChar c = false

/-- A value may end before a character that no number contains. -/
theorem endsValue_cons {c : Char} (h : isNumberChar c = false) (r : List Char) : EndsValue (c :: r) :=
  head?_cons_eq_false h r

/-- A value may end where the text does. -/
theorem endsValue_nil : EndsValue [] := fun c hc => by cases hc

/-- A value may end before a line end. -/
theorem endsValue_newline (depth : Nat) (r : List Char) : EndsValue (newline depth ++ r) :=
  endsValue_cons (by decide) _

/-- A text that is read as a value wherever one may end; its length is enough calls. -/
structure Denotes (t : List Char) (v : Value) : Prop where
  /-- The text begins with a character that is seen. -/
  inked : ∃ c r, t = c :: r ∧ isSpace c = false
  reads : ∀ calls rest, t.length ≤ calls → EndsValue rest → value? calls (t ++ rest) = some (v, rest)

/-- A text that is read in one call. -/
theorem denotes_of_value? {t : List Char} {v : Value} (h : ∃ c r, t = c :: r ∧ isSpace c = false)
    (hread : ∀ calls rest, EndsValue rest → value? (calls + 1) (t ++ rest) = some (v, rest)) :
    Denotes t v := by
  refine ⟨h, fun calls rest hcalls hrest => ?_⟩
  -- the text is not empty, so its length leaves the one call that is needed
  obtain ⟨c, r, rfl, -⟩ := h
  obtain ⟨calls, rfl⟩ : ∃ n, calls = n + 1 := ⟨calls - 1, by rw [List.length_cons] at hcalls; omega⟩
  exact hread calls rest hrest

/-- A written string denotes itself.  It ends with its own mark, whatever follows. -/
theorem denotes_string (s : String) : Denotes (stringText s) (.string s) := by
  refine denotes_of_value? ⟨_, _, rfl, by decide⟩ fun calls rest _ => ?_
  rw [stringText_append, value?, if_pos rfl, body_flatMap_escaped]
  simp only [Option.map_some, String.ofList_toList]

/-- A name denotes its value. -/
theorem denotes_name {word : List Char} {v : Value}
    (h : word = "null".toList ∧ v = .null ∨ word = "true".toList ∧ v = .boolean true ∨
      word = "false".toList ∧ v = .boolean false) : Denotes word v := by
  obtain ⟨rfl, rfl⟩ | ⟨rfl, rfl⟩ | ⟨rfl, rfl⟩ := h <;>
    exact denotes_of_value? ⟨_, _, rfl, by decide⟩ fun calls rest _ => rfl

/-! ## Numbers

  A number is read up to the first character that cannot belong to it, so what follows must not begin with
  one. -/

/-- A character of a number is none of those that are not. -/
theorem not_mem_of_isNumberChar {c : Char} (hc : isNumberChar c = true) {s : List Char}
    (hs : s.all (fun d => !isNumberChar d) = true) : c ∉ s := by
  intro hm
  have hnot := List.all_eq_true.1 hs c hm
  rw [hc] at hnot
  exact Bool.false_ne_true hnot

/-- A word of characters of a number denotes the number that it spells. -/
theorem denotes_number {word : List Char} {v : Value} (hword : ∀ c ∈ word, isNumberChar c = true)
    (hv : number? word = some v) : Denotes word v := by
  cases word with
  | nil => exact absurd hv (by simp [number?, unsigned?, isWhole])
  | cons c r =>
    have hc := hword c List.mem_cons_self
    -- none of the characters at which another kind of value begins is one of a number
    have hmark : c ∉ ['"', '[', '\x7b', ' ', '\t', '\n', '\r'] := not_mem_of_isNumberChar hc (by decide)
    simp only [List.mem_cons, not_or] at hmark
    obtain ⟨hquote, hopen, hbrace, hspace, htab, hfeed, hreturn, -⟩ := hmark
    refine denotes_of_value? ⟨c, r, rfl, by simp [isSpace, *]⟩ fun calls rest hrest => ?_
    obtain ⟨htake, hdrop⟩ := span_append hword hrest
    rw [List.cons_append] at htake hdrop ⊢
    rw [value?, if_neg hquote, if_neg hopen, if_neg hbrace, if_pos hc, numberAt?, htake, hdrop, hv]
    rfl

/-! ## Integers -/

/-- Digits are among the characters of a number. -/
theorem isNumberChar_of_isDigit {c : Char} (h : c.isDigit = true) : isNumberChar c = true := by
  rw [isNumberChar, h, Bool.true_or]

/-- The digits of a number have no zero too many in front. -/
theorem isWhole_toDigits (n : Nat) : isWhole (Nat.toDigits 10 n) = true := by
  have hd := isDigits_toDigits n
  unfold isWhole
  split
  · next h => exact absurd h Nat.toDigits_ne_nil
  · rfl
  · next d ds hne h =>
    rw [← h, List.all_eq_true.2 hd, Bool.and_true, bne_iff_ne]
    rintro rfl
    cases ds with
    | nil => exact hne rfl rfl
    | cons c r => exact Toml.Numbers.toDigits_ne_zero_cons n c r h

/-- The digits of a number are read as the number, below zero if a sign was in front. -/
theorem unsigned?_toDigits (negative : Bool) (word : List Char) (n : Nat) :
    unsigned? negative word (Nat.toDigits 10 n) =
      some (.integer (if negative then -(n : Int) else n)) := by
  have hnil : ∀ c ∈ ([] : List Char).head?, c.isDigit = false := fun c hc => by cases hc
  obtain ⟨htake, hdrop⟩ := span_append (isDigits_toDigits n) hnil
  rw [List.append_nil] at htake hdrop
  simp only [unsigned?, htake, hdrop, isWhole_toDigits, Bool.not_true, Bool.false_eq_true, if_false, if_true,
    Nat.ofDigitChars_ten_toDigits]

/-- A number without a sign in front. -/
theorem number?_of_isDigit {c : Char} (hc : c.isDigit = true) (r : List Char) :
    number? (c :: r) = unsigned? false (c :: r) (c :: r) := by
  unfold number?
  split
  · next h =>
    obtain rfl : c = '-' := (List.cons.inj h).1
    exact absurd hc (by decide)
  · rfl

/-- A written integer denotes itself. -/
theorem denotes_integer (n : Int) : Denotes (integerText n) (.integer n) := by
  have hd := isDigits_toDigits n.natAbs
  rw [integerText]
  split
  · next hn =>
    -- below zero: the sign and the digits of the distance from zero
    refine denotes_number (fun c hc => ?_) ?_
    · rcases List.mem_cons.1 hc with rfl | hc
      · decide
      · exact isNumberChar_of_isDigit (hd c hc)
    · show unsigned? true _ (Nat.toDigits 10 n.natAbs) = _
      rw [unsigned?_toDigits, if_pos rfl, Int.ofNat_natAbs_of_nonpos (by omega), Int.neg_neg]
  · next hn =>
    -- from zero on: the digits alone, and a digit is in front
    refine denotes_number (fun c hc => isNumberChar_of_isDigit (hd c hc)) ?_
    obtain ⟨c, r, hcons⟩ := List.exists_cons_of_ne_nil (Nat.toDigits_ne_nil (b := 10) (n := n.natAbs))
    have hc : c.isDigit = true := hd c (by rw [hcons]; exact List.mem_cons_self)
    rw [List.nil_append, hcons, number?_of_isDigit hc, ← hcons, unsigned?_toDigits,
      if_neg Bool.false_ne_true, Int.natAbs_of_nonneg (by omega)]

/-! ## Decimals

  A decimal is kept as it is spelled, so reading has only to find where it ends and that it is one.  Its
  text is cut into the parts of the grammar: the whole part, a fraction, a power of ten. -/

/-- A point and digits behind it, or nothing. -/
inductive IsFraction : List Char → Prop
  | nothing : IsFraction []
  | point {ds : List Char} (hne : ds ≠ []) (hd : IsDigits ds) : IsFraction ('.' :: ds)

/-- A power of ten with its sign, or nothing. -/
inductive IsTenPower : List Char → Prop
  | nothing : IsTenPower []
  | power {sign : Char} {ds : List Char} (hsign : sign = '-' ∨ sign = '+') (hne : ds ≠ [])
      (hd : IsDigits ds) : IsTenPower ('e' :: sign :: ds)

/-- A power of ten does not begin like what may stand in front of it, so that digits and point end there. -/
theorem IsTenPower.head {p : List Char} (h : IsTenPower p) : ∀ c ∈ p.head?, c.isDigit = false ∧ c ≠ '.' := by
  intro c hc
  cases h with
  | nothing => cases hc
  | power =>
    obtain rfl : 'e' = c := Option.some.inj hc
    decide

/-- A power of ten is one to the reader. -/
theorem IsTenPower.isPower {p : List Char} (h : IsTenPower p) : isPower p = true := by
  cases h with
  | nothing => rfl
  | power hsign hne hd =>
    have hall := List.all_eq_true.2 hd
    obtain ⟨c, r, rfl⟩ := List.exists_cons_of_ne_nil hne
    obtain rfl | rfl := hsign
    · simpa [Reader.isPower, skipSign] using hall
    · simpa [Reader.isPower, skipSign] using hall

/-- The reader passes over a fraction and stops at the power of ten. -/
theorem skipFraction?_append {f p : List Char} (hf : IsFraction f) (hp : IsTenPower p) :
    skipFraction? (f ++ p) = some p := by
  cases hf with
  | nothing =>
    rw [List.nil_append]
    unfold skipFraction?
    split
    · exact absurd rfl (hp.head '.' rfl).2
    · rfl
  | point hne hd =>
    obtain ⟨htake, hdrop⟩ := span_append hd fun c hc => (hp.head c hc).1
    rw [List.cons_append, skipFraction?, htake, hdrop, if_neg hne]

/-- A number with a fraction, a power of ten or both. -/
theorem unsigned?_decimal {whole f p : List Char} (hwhole : isWhole whole = true) (hd : IsDigits whole)
    (hf : IsFraction f) (hp : IsTenPower p) (hne : f ++ p ≠ []) (negative : Bool) (word : List Char) :
    unsigned? negative word (whole ++ (f ++ p)) = some (.decimal (String.ofList word)) := by
  -- the whole part ends at the point or at the sign of the power, for neither is a digit
  have hhead : ∀ c ∈ (f ++ p).head?, c.isDigit = false := by
    intro c hc
    cases hf with
    | nothing => exact (hp.head c hc).1
    | point =>
      obtain rfl : '.' = c := Option.some.inj hc
      decide
  obtain ⟨htake, hdrop⟩ := span_append hd hhead
  simp only [unsigned?, htake, hdrop, hwhole, skipFraction?_append hf hp, hp.isPower, Bool.not_true,
    Bool.false_eq_true, if_false, if_true, if_neg hne]

/-- The characters of a fraction are characters of a number. -/
theorem IsFraction.isNumberChar {f : List Char} (h : IsFraction f) : ∀ c ∈ f, isNumberChar c = true := by
  cases h with
  | nothing => exact fun c hc => by cases hc
  | point hne hd =>
    intro c hc
    rcases List.mem_cons.1 hc with rfl | hc
    · decide
    · exact isNumberChar_of_isDigit (hd c hc)

/-- The characters of a power of ten are characters of a number. -/
theorem IsTenPower.isNumberChar {p : List Char} (h : IsTenPower p) : ∀ c ∈ p, isNumberChar c = true := by
  cases h with
  | nothing => exact fun c hc => by cases hc
  | power hsign hne hd =>
    intro c hc
    rcases List.mem_cons.1 hc with rfl | hc
    · decide
    rcases List.mem_cons.1 hc with rfl | hc
    · obtain rfl | rfl := hsign <;> decide
    · exact isNumberChar_of_isDigit (hd c hc)

/-- A text of a sign, digits, a fraction and a power of ten is a number by itself. -/
theorem numberAt?_decimal (negative : Bool) {whole f p : List Char} (hwhole : isWhole whole = true)
    (hd : IsDigits whole) (hf : IsFraction f) (hp : IsTenPower p) (hne : f ++ p ≠ []) {word : List Char}
    (hword : word = (if negative then ['-'] else []) ++ (whole ++ (f ++ p))) :
    numberAt? word = some (.decimal (String.ofList word), []) := by
  have hchars : ∀ c ∈ word, isNumberChar c = true := by
    intro c hc
    rw [hword, List.mem_append, List.mem_append, List.mem_append] at hc
    obtain hc | hc | hc | hc := hc
    · cases negative with
      | true => obtain rfl := List.mem_singleton.1 hc; decide
      | false => cases hc
    · exact isNumberChar_of_isDigit (hd c hc)
    · exact hf.isNumberChar c hc
    · exact hp.isNumberChar c hc
  -- the sign is taken off first; without one the number begins with a digit of its whole part
  have hnumber : number? word = some (.decimal (String.ofList word)) := by
    rw [hword]
    cases negative with
    | true => exact unsigned?_decimal hwhole hd hf hp hne true _
    | false =>
      cases whole with
      | nil => cases hwhole
      | cons c r =>
        have hread := number?_of_isDigit (hd c List.mem_cons_self) (r ++ (f ++ p))
        rw [← List.cons_append, unsigned?_decimal hwhole hd hf hp hne] at hread
        exact hread
  obtain ⟨htake, hdrop⟩ := span_append hchars endsValue_nil
  rw [List.append_nil] at htake hdrop
  rw [numberAt?, htake, hdrop, hnumber]
  rfl

/-- A decimal that is spelled as one denotes itself. -/
theorem denotes_decimal {text : String} (h : numberAt? text.toList = some (.decimal text, [])) :
    Denotes text.toList (.decimal text) := by
  obtain ⟨v, hv, hpair⟩ := Option.map_eq_some_iff.1 h
  obtain ⟨rfl, hdrop⟩ := Prod.mk.inj hpair
  have hchars := List.dropWhile_eq_nil_iff.1 hdrop
  rw [List.takeWhile_eq_self_iff.2 hchars] at hv
  exact denotes_number hchars hv

/-! ## Arrays

  Each item stands on a line of its own, one step further in, and the bracket on a line of its own again.
  The reader has a call left for each item because the written text is longer than there are items. -/

/-- A line with a value begins with the value. -/
theorem Denotes.skipSpace_newline {t : List Char} {v : Value} (h : Denotes t v) (depth : Nat)
    (r : List Char) : skipSpace (newline depth ++ (t ++ r)) = t ++ r := by
  obtain ⟨c, t', rfl, hc⟩ := h.inked
  rw [Reader.skipSpace_newline]
  exact skipSpace_ink hc _

/-- The last item, and the bracket on the next line. -/
theorem items?_last {calls : Nat} {t : List Char} {v : Value} (h : Denotes t v) (hcalls : t.length ≤ calls)
    (depth : Nat) (rest : List Char) :
    items? (calls + 1) (t ++ (newline depth ++ ']' :: rest)) = some ([v], rest) := by
  rw [items?, h.reads calls _ hcalls (endsValue_newline depth _)]
  simp only [Reader.skipSpace_newline, skipSpace_ink (show isSpace ']' = false by decide)]

/-- An item in front of others. -/
theorem items?_next {calls : Nat} {t : List Char} {v : Value} (h : Denotes t v) (hcalls : t.length ≤ calls)
    (r : List Char) : items? (calls + 1) (t ++ ',' :: r) =
      (items? calls (skipSpace r)).map fun (vs, r) => (v :: vs, r) := by
  rw [items?, h.reads calls _ hcalls (endsValue_cons (by decide) r)]
  simp only [skipSpace_ink (show isSpace ',' = false by decide)]

/-- One item is written on a line. -/
theorem prettyItems_singleton (depth : Nat) (v : Value) :
    prettyItems depth [v] = newline depth ++ (pretty depth v ++ []) := by
  rw [prettyItems, List.append_nil]

/-- Of more items the first is written on a line, with a comma before the next. -/
theorem prettyItems_cons_cons (depth : Nat) (v w : Value) (vs : List Value) :
    prettyItems depth (v :: w :: vs) =
      newline depth ++ (pretty depth v ++ ',' :: prettyItems depth (w :: vs)) := by
  rw [prettyItems, List.append_assoc]
  exact fun h => List.cons_ne_nil w vs h

/-- Items on lines of their own, up to the bracket on the next line. -/
theorem items?_prettyItems {depth : Nat} {vs : List Value} (hne : vs ≠ [])
    (h : ∀ v ∈ vs, Denotes (pretty depth v) v) (outer : Nat) {calls : Nat}
    (hcalls : (prettyItems depth vs).length ≤ calls) (rest : List Char) :
    items? calls (skipSpace (prettyItems depth vs ++ (newline outer ++ ']' :: rest))) = some (vs, rest) := by
  -- on the items, the last one apart, for it is followed by the bracket and not by a comma
  induction vs generalizing calls with
  | nil => exact absurd rfl hne
  | cons v vs ih =>
    have hv := h v List.mem_cons_self
    cases vs with
    | nil =>
      rw [prettyItems_singleton] at hcalls ⊢
      simp only [newline, List.cons_append, List.length_cons, List.length_append] at hcalls
      obtain ⟨calls, rfl⟩ : ∃ n, calls = n + 1 := ⟨calls - 1, by omega⟩
      rw [List.append_assoc, List.append_assoc, hv.skipSpace_newline, List.nil_append]
      exact items?_last hv (by omega) outer rest
    | cons w vs =>
      rw [prettyItems_cons_cons] at hcalls ⊢
      simp only [newline, List.cons_append, List.length_cons, List.length_append] at hcalls
      obtain ⟨calls, rfl⟩ : ∃ n, calls = n + 1 := ⟨calls - 1, by omega⟩
      rw [List.append_assoc, List.append_assoc, hv.skipSpace_newline, List.cons_append,
        items?_next hv (by omega),
        ih (List.cons_ne_nil w vs) (fun u hu => h u (List.mem_cons_of_mem v hu)) (by omega)]
      rfl

/-- The bracket is no item, so a list that is begun is not empty. -/
theorem items?_bracket (calls : Nat) (r : List Char) : items? calls (']' :: r) = none := by
  match calls with
  | 0 => rfl
  | 1 => rfl
  | calls + 2 => rfl

/-- An array is what its items are read as. -/
theorem value?_array {calls : Nat} {r rest : List Char} {vs : List Value}
    (h : items? calls (skipSpace r) = some (vs, rest)) :
    value? (calls + 1) ('[' :: r) = some (.array vs, rest) := by
  rw [value?, if_neg (by decide), if_pos rfl]
  split
  · next r' heq =>
    -- the empty array is read apart, and it cannot be meant, as its bracket is no item
    rw [heq, items?_bracket] at h
    cases h
  · rw [h]
    rfl

/-- A written array denotes itself if its items do, one step further in. -/
theorem denotes_array {depth : Nat} {vs : List Value} (h : ∀ v ∈ vs, Denotes (pretty (depth + 1) v) v) :
    Denotes (pretty depth (.array vs)) (.array vs) := by
  by_cases hne : vs = []
  · subst hne
    rw [pretty]
    exact denotes_of_value? ⟨'[', [']'], rfl, by decide⟩ fun calls rest _ => rfl
  · have htext : pretty depth (.array vs) =
        '[' :: (prettyItems (depth + 1) vs ++ (newline depth ++ [']'])) := by
      rw [pretty]
      · simp
      · exact hne
    rw [htext]
    refine ⟨⟨'[', _, rfl, by decide⟩, fun calls rest hcalls hrest => ?_⟩
    rw [List.length_cons, List.length_append] at hcalls
    obtain ⟨calls, rfl⟩ : ∃ n, calls = n + 1 := ⟨calls - 1, by omega⟩
    have hlength : (prettyItems (depth + 1) vs).length ≤ calls := by omega
    have hitems := items?_prettyItems hne h depth hlength rest
    rw [List.cons_append, List.append_assoc, List.append_assoc]
    exact value?_array hitems

/-! ## Objects

  As for arrays, with a key in front of each value. -/

/-- The text of a field, with a step between the colon and the value. -/
def fieldText (depth : Nat) (key : String) (v : Value) : List Char :=
  stringText key ++ ':' :: ' ' :: pretty depth v

/-- One field is written on a line. -/
theorem prettyFields_singleton (depth : Nat) (key : String) (v : Value) :
    prettyFields depth [(key, v)] = newline depth ++ (fieldText depth key v ++ []) := by
  rw [prettyFields, fieldText, List.append_nil, List.append_assoc]

/-- Of more fields the first is written on a line, with a comma before the next. -/
theorem prettyFields_cons_cons (depth : Nat) (key : String) (v : Value) (f : String × Value)
    (fs : List (String × Value)) : prettyFields depth ((key, v) :: f :: fs) =
      newline depth ++ (fieldText depth key v ++ ',' :: prettyFields depth (f :: fs)) := by
  rw [prettyFields, fieldText]
  · simp
  · exact fun h => List.cons_ne_nil f fs h

/-- A line with a field begins with the quotation mark of its key. -/
theorem skipSpace_newline_field (depth inner : Nat) (key : String) (v : Value) (r : List Char) :
    skipSpace (newline depth ++ (fieldText inner key v ++ r)) = fieldText inner key v ++ r := by
  rw [skipSpace_newline, fieldText, List.append_assoc, stringText_append]
  exact skipSpace_ink (by decide) _

/-- The key of a field is read up to the value. -/
theorem key?_fieldText {depth : Nat} {key : String} {v : Value} (h : Denotes (pretty depth v) v)
    (r : List Char) : key? (fieldText depth key v ++ r) = some (key, pretty depth v ++ r) := by
  have hvalue : skipSpace (' ' :: (pretty depth v ++ r)) = pretty depth v ++ r := by
    obtain ⟨c, t, ht, hc⟩ := h.inked
    rw [ht]
    exact skipSpace_ink hc _
  rw [fieldText, List.append_assoc, stringText_append, key?, body_flatMap_escaped]
  simp only [List.cons_append, skipSpace_ink (show isSpace ':' = false by decide), hvalue,
    String.ofList_toList]

/-- The last field, and the brace on the next line. -/
theorem fields?_last {calls depth : Nat} {key : String} {v : Value} (h : Denotes (pretty depth v) v)
    (hcalls : (pretty depth v).length ≤ calls) (outer : Nat) (rest : List Char) :
    fields? (calls + 1) (fieldText depth key v ++ (newline outer ++ '\x7d' :: rest)) =
      some ([(key, v)], rest) := by
  rw [fields?, key?_fieldText h]
  simp only [h.reads calls _ hcalls (endsValue_newline outer _), skipSpace_newline,
    skipSpace_ink (show isSpace '\x7d' = false by decide)]

/-- A field in front of others. -/
theorem fields?_next {calls depth : Nat} {key : String} {v : Value} (h : Denotes (pretty depth v) v)
    (hcalls : (pretty depth v).length ≤ calls) (r : List Char) :
    fields? (calls + 1) (fieldText depth key v ++ ',' :: r) =
      (fields? calls (skipSpace r)).map fun (fs, r) => ((key, v) :: fs, r) := by
  rw [fields?, key?_fieldText h]
  have hends : EndsValue (',' :: r) := endsValue_cons (by decide) r
  simp only [h.reads calls _ hcalls hends, skipSpace_ink (show isSpace ',' = false by decide)]

/-- A field is longer than its value, so the calls for the field are enough for the value. -/
theorem length_fieldText (depth : Nat) (key : String) (v : Value) :
    (pretty depth v).length < (fieldText depth key v).length := by
  simp only [fieldText, List.length_append, List.length_cons]
  omega

/-- Fields on lines of their own, up to the brace on the next line. -/
theorem fields?_prettyFields {depth : Nat} {fs : List (String × Value)} (hne : fs ≠ [])
    (h : ∀ key v, (key, v) ∈ fs → Denotes (pretty depth v) v) (outer : Nat) {calls : Nat}
    (hcalls : (prettyFields depth fs).length ≤ calls) (rest : List Char) :
    fields? calls (skipSpace (prettyFields depth fs ++ (newline outer ++ '\x7d' :: rest))) =
      some (fs, rest) := by
  -- on the fields, the last one apart, for it is followed by the brace and not by a comma
  induction fs generalizing calls with
  | nil => exact absurd rfl hne
  | cons field fs ih =>
    obtain ⟨key, v⟩ := field
    have hv := h key v List.mem_cons_self
    have hlength := length_fieldText depth key v
    cases fs with
    | nil =>
      rw [prettyFields_singleton] at hcalls ⊢
      simp only [newline, List.cons_append, List.length_cons, List.length_append] at hcalls
      obtain ⟨calls, rfl⟩ : ∃ n, calls = n + 1 := ⟨calls - 1, by omega⟩
      rw [List.append_assoc, List.append_assoc, skipSpace_newline_field, List.nil_append]
      exact fields?_last hv (by omega) outer rest
    | cons field' fs =>
      rw [prettyFields_cons_cons] at hcalls ⊢
      simp only [newline, List.cons_append, List.length_cons, List.length_append] at hcalls
      obtain ⟨calls, rfl⟩ : ∃ n, calls = n + 1 := ⟨calls - 1, by omega⟩
      rw [List.append_assoc, List.append_assoc, skipSpace_newline_field, List.cons_append,
        fields?_next hv (by omega), ih (List.cons_ne_nil field' fs)
          (fun key w hw => h key w (List.mem_cons_of_mem _ hw)) (by omega)]
      rfl

/-- The brace is no field, so a list that is begun is not empty. -/
theorem fields?_brace (calls : Nat) (r : List Char) : fields? calls ('\x7d' :: r) = none := by
  match calls with
  | 0 => rfl
  | calls + 1 => rfl

/-- An object is what its fields are read as. -/
theorem value?_object {calls : Nat} {r rest : List Char} {fs : List (String × Value)}
    (h : fields? calls (skipSpace r) = some (fs, rest)) :
    value? (calls + 1) ('\x7b' :: r) = some (.object fs, rest) := by
  rw [value?, if_neg (by decide), if_neg (by decide), if_pos rfl]
  split
  · next r' heq =>
    rw [heq, fields?_brace] at h
    cases h
  · rw [h]
    rfl

/-- A written object denotes itself if the values of its fields do, one step further in. -/
theorem denotes_object {depth : Nat} {fs : List (String × Value)}
    (h : ∀ key v, (key, v) ∈ fs → Denotes (pretty (depth + 1) v) v) :
    Denotes (pretty depth (.object fs)) (.object fs) := by
  by_cases hne : fs = []
  · subst hne
    rw [pretty]
    exact denotes_of_value? ⟨'\x7b', ['\x7d'], rfl, by decide⟩ fun calls rest _ => rfl
  · have htext : pretty depth (.object fs) =
        '\x7b' :: (prettyFields (depth + 1) fs ++ (newline depth ++ ['\x7d'])) := by
      rw [pretty]
      · simp
      · exact hne
    rw [htext]
    refine ⟨⟨'\x7b', _, rfl, by decide⟩, fun calls rest hcalls hrest => ?_⟩
    rw [List.length_cons, List.length_append] at hcalls
    obtain ⟨calls, rfl⟩ : ∃ n, calls = n + 1 := ⟨calls - 1, by omega⟩
    have hlength : (prettyFields (depth + 1) fs).length ≤ calls := by omega
    have hfields := fields?_prettyFields hne h depth hlength rest
    rw [List.cons_append, List.append_assoc, List.append_assoc]
    exact value?_object hfields

/-! ## All values

  By recursion on values, together with their items and their fields. -/

/-- Every value is written as a text that denotes it, at any depth. -/
theorem denotes_pretty (depth : Nat) (v : Value) (h : v.Everywhere Value.Spelt) : Denotes (pretty depth v) v := by
  match v with
  | .null => exact denotes_name (.inl ⟨rfl, rfl⟩)
  | .boolean true => exact denotes_name (.inr (.inl ⟨rfl, rfl⟩))
  | .boolean false => exact denotes_name (.inr (.inr ⟨rfl, rfl⟩))
  | .integer n => exact denotes_integer n
  | .decimal text => exact denotes_decimal (h (.decimal text) .self)
  | .string s => exact denotes_string s
  | .array vs => exact denotes_array fun v hv => denotes_pretty (depth + 1) v (h.item hv)
  | .object fs => exact denotes_object fun key v hv => denotes_pretty (depth + 1) v (h.field hv)
termination_by sizeOf v
decreasing_by
  · have hsize := List.sizeOf_lt_of_mem hv
    simp only [Value.array.sizeOf_spec]
    omega
  · have hsize := List.sizeOf_lt_of_mem hv
    simp only [Prod.mk.sizeOf_spec] at hsize
    simp only [Value.object.sizeOf_spec]
    omega

end Reader

/-- **Reading undoes writing.** -/
theorem read?_pretty {v : Value} (h : v.Everywhere Value.Spelt) : read? (pretty 0 v) = some v := by
  have hdenotes := Reader.denotes_pretty 0 v h
  have hskip : Reader.skipSpace (pretty 0 v) = pretty 0 v := by
    obtain ⟨c, r, ht, hc⟩ := hdenotes.inked
    rw [ht, Reader.skipSpace_ink hc]
  have hread := hdenotes.reads ((pretty 0 v).length + 1) [] (by omega) Reader.endsValue_nil
  rw [List.append_nil] at hread
  rw [read?, hskip, hread]
  rfl

end BenchSweep.Json
