/-
  The texts of axes and subjects, and what can be read back from them.

  Both texts are put together from the front, one item after the other.  Seen whole, each is a marker and the
  tokens of its items, joined with colons (`Axis.toList_metaText`, `Subjects.toList_metaText`).

  1. **Tokens** (`readMarked?_of_joined`).  A reader that splits at the colons gets the marker back and behind
     it the pieces of the tokens: the tokens themselves if none has a colon, and too many pieces if one has.

  2. **Axes** (`Axis.ofMetaText?_metaText`).  The token of a level is its digits, which are read as the level.
     There is no colon among them, so every axis is read back.

  3. **Subjects** (`Subjects.ofMetaText?_metaText_iff`).  The token of a name is the name behind a mark.  What
     else stands in the name (the mark, digits, `=`) does no harm, but a colon does.  `validate` lets no name
     with a colon pass (`Subjects.validate_eq_ok_iff`), nor a blank.
-/
import BenchSweep.Text.Split
import BenchSweep.Proofs.Validity
import BenchSweep.Proofs.Walks

namespace BenchSweep

/-! ## Tokens

  A text of this kind is one string, to which each item is added with a colon in front.  The first piece is
  the marker, which says what kind of text it is. -/

namespace MetaText

/-- A text to which each item puts a colon and its token is these tokens joined. -/
theorem toList_foldl {α : Type} {add : String → α → String} {token : α → List Char}
    (h : ∀ text x, (add text x).toList = text.toList ++ ':' :: token x) (xs : List α) (text : String) :
    (xs.foldl add text).toList = List.intercalate [':'] (text.toList :: xs.map token) := by
  rw [Text.intercalate_cons, List.flatMap_map]
  -- on the items, for every text that they are added to
  induction xs generalizing text with
  | nil => rw [List.foldl_nil, List.flatMap_nil, List.append_nil]
  | cons x xs ih => rw [List.foldl_cons, ih, h, List.flatMap_cons, List.append_assoc, List.cons_append]

/-- What stands between the colons of a text. -/
def tokens (text : String) : List (List Char) := List.splitOn ':' text.toList

/-- The items of a text with a certain marker, as its tokens are read. -/
def readMarked? {α : Type} (marker : List Char) (item? : List Char → Option α) (text : String) :
    Option (List α) :=
  match tokens text with
  | [] => none
  | first :: rest => if first = marker then rest.mapM item? else none

/-- A text without a gap: it has no blank, and something stands between each two of its colons. -/
structure Gapless (text : String) : Prop where
  blank : ∀ c ∈ text.toList, Text.isBlank c = false
  token : [] ∉ tokens text

section Joined

variable {α : Type} {text : String} {marker : List Char} {items : List (List Char)}

/-- The pieces of a text are the marker and the pieces of its items. -/
theorem tokens_of_joined (htext : text.toList = List.intercalate [':'] (marker :: items)) (hmarker : ':' ∉ marker) :
    tokens text = marker :: items.flatMap (List.splitOn ':') := by
  rw [tokens, htext, Text.splitOn_intercalate_eq_flatMap ':' (List.cons_ne_nil marker items), List.flatMap_cons,
    List.splitOn_eq_singleton hmarker, List.singleton_append]

/-- A reader is given the pieces of the items, behind the right marker. -/
theorem readMarked?_of_joined (htext : text.toList = List.intercalate [':'] (marker :: items))
    (hmarker : ':' ∉ marker) (item? : List Char → Option α) :
    readMarked? marker item? text = (items.flatMap (List.splitOn ':')).mapM item? := by
  rw [readMarked?, tokens_of_joined htext hmarker]
  exact if_pos rfl

/-- A text is free of blanks if its marker and its items are. -/
theorem isBlank_of_joined (htext : text.toList = List.intercalate [':'] (marker :: items))
    (hmarker : marker.any Text.isBlank = false) (hitems : ∀ p ∈ items, ∀ c ∈ p, Text.isBlank c = false) :
    ∀ c ∈ text.toList, Text.isBlank c = false := by
  intro c hc
  rw [htext] at hc
  rcases Text.mem_intercalate hc with rfl | ⟨p, hp, hmem⟩
  · decide
  · rcases List.mem_cons.1 hp with rfl | hp
    · exact Bool.eq_false_iff.2 (List.any_eq_false.1 hmarker c hmem)
    · exact hitems p hp c hmem

end Joined

end MetaText

open MetaText

/-! ## Axes -/

/-- A number is written as its decimal digits. -/
theorem toList_toString (n : Nat) : (toString n).toList = Nat.toDigits 10 n := by
  rw [Nat.toString_eq_repr, Nat.toList_repr]

/-- Digits are no blanks. -/
theorem Text.isBlank_of_isDigit {c : Char} (h : c.isDigit = true) : Text.isBlank c = false := by
  simp only [Char.isDigit, Bool.and_eq_true, decide_eq_true_eq, ge_iff_le, UInt32.le_iff_toNat_le] at h
  have hbounds : 0x30 ≤ c.toNat ∧ c.toNat ≤ 0x39 := h
  simp only [Text.isBlank, Bool.or_eq_false_iff, Bool.and_eq_false_iff, decide_eq_false_iff_not,
    beq_eq_false_iff_ne]
  omega

namespace Axis

/-- The token of a level: its digits. -/
def token (level : UInt32) : List Char := Nat.toDigits 10 level.toNat

/-- The level that a token spells in digits, if it is one. -/
def levelOf? (token : List Char) : Option UInt32 :=
  if token ≠ [] ∧ token.all Char.isDigit then level? (Nat.ofDigitChars 10 token 0) else none

/-- The axis that a text tells. -/
def ofMetaText? (text : String) : Option Axis := (readMarked? ['t'] levelOf? text).map Axis.mk

/-- The token of a level is nothing but digits. -/
theorem isDigit_of_mem_token {level : UInt32} {c : Char} (h : c ∈ token level) : c.isDigit = true :=
  Nat.isDigit_of_mem_toDigits (by decide) (by decide) h

/-- The token of a level has no colon. -/
theorem colon_not_mem_token (level : UInt32) : ':' ∉ token level :=
  fun hmem => absurd (isDigit_of_mem_token hmem) (by decide)

/-- The level is read back from its token. -/
theorem levelOf?_token (level : UInt32) : levelOf? (token level) = some level := by
  have hdigits : token level ≠ [] ∧ (token level).all Char.isDigit :=
    ⟨Nat.toDigits_ne_nil, List.all_eq_true.2 fun _ hc => isDigit_of_mem_token hc⟩
  rw [levelOf?, if_pos hdigits, token, Nat.ofDigitChars_ten_toDigits, level?, if_pos level.toNat_lt_size,
    UInt32.ofNat_toNat]

/-- The text of an axis is its marker and the tokens of its levels, joined. -/
theorem toList_metaText (axis : Axis) :
    axis.metaText.toList = List.intercalate [':'] (['t'] :: axis.levels.map token) := by
  refine toList_foldl (fun text level => ?_) axis.levels "t"
  rw [String.toList_append, String.toList_append, toList_toString, List.append_assoc]
  rfl

/-- Splitting leaves the tokens of levels whole. -/
theorem flatMap_split_tokens (levels : List UInt32) :
    (levels.map token).flatMap (List.splitOn ':') = levels.map token :=
  Text.flatMap_splitOn_of_not_mem (List.forall_mem_map.2 fun level _ => colon_not_mem_token level)

/-- The pieces of the text of an axis are its marker and the tokens of its levels. -/
theorem tokens_metaText (axis : Axis) : tokens axis.metaText = ['t'] :: axis.levels.map token := by
  rw [tokens_of_joined axis.toList_metaText (by decide), flatMap_split_tokens]

/-- Every axis is read back from its text. -/
theorem ofMetaText?_metaText (axis : Axis) : ofMetaText? axis.metaText = some axis := by
  have hlevels : (axis.levels.map token).mapM levelOf? = some axis.levels :=
    mapM_map_eq_pure fun level _ => levelOf?_token level
  rw [ofMetaText?, readMarked?_of_joined axis.toList_metaText (by decide), flatMap_split_tokens, hlevels]
  rfl

/-- The text of an axis has no blank. -/
theorem isBlank_of_mem_metaText {axis : Axis} {c : Char} (h : c ∈ axis.metaText.toList) :
    Text.isBlank c = false := by
  refine isBlank_of_joined axis.toList_metaText (by decide) (List.forall_mem_map.2 ?_) c h
  intro level _ c hc
  exact Text.isBlank_of_isDigit (isDigit_of_mem_token hc)

/-- The text of an axis has no gap, for a level has a digit at least. -/
theorem gapless_metaText (axis : Axis) : Gapless axis.metaText where
  blank := fun _ hc => isBlank_of_mem_metaText hc
  token := by
    rw [tokens_metaText, List.mem_cons, List.mem_map]
    rintro (h | ⟨level, -, h⟩)
    · cases h
    · exact Nat.toDigits_ne_nil h

end Axis

/-! ## Subjects -/

namespace Subjects

/-- What stands in front of a name in its token. -/
def mark : List Char := "tracker=".toList

/-- The token of a name: the name behind its mark. -/
def token (name : String) : List Char := mark ++ name.toList

/-- The name that a token tells; of one without the mark `unmarked` is the reading. -/
def nameOf? (unmarked : List Char → Option String) (token : List Char) : Option String :=
  match mark.isPrefixOf? token with
  | some name => some (String.ofList name)
  | none => unmarked token

/-- The subjects that a text tells. -/
def ofMetaText? (unmarked : List Char → Option String) (text : String) : Option Subjects :=
  (readMarked? ['d'] (nameOf? unmarked) text).map Subjects.mk

/-- A colon in a token is one of the name. -/
theorem colon_mem_token_iff (name : String) : ':' ∈ token name ↔ ':' ∈ name.toList := by
  have hmark : ':' ∉ mark := by decide
  rw [token, List.mem_append, or_iff_right hmark]

/-- The name is read back from its token. -/
theorem nameOf?_token (unmarked : List Char → Option String) (name : String) :
    nameOf? unmarked (token name) = some name := by
  have hprefix : mark.isPrefixOf? (token name) = some name.toList :=
    List.isPrefixOf?_eq_some_iff_append_eq.2 rfl
  rw [nameOf?, hprefix]
  exact congrArg some String.ofList_toList

/-- The text of subjects is their marker and the tokens of the names, joined. -/
theorem toList_metaText (subjects : Subjects) :
    subjects.metaText.toList = List.intercalate [':'] (['d'] :: subjects.names.map token) := by
  refine toList_foldl (fun text name => ?_) subjects.names "d"
  rw [String.toList_append, String.toList_append, List.append_assoc]
  rfl

/-- Splitting leaves the tokens of names whole if no name has a colon. -/
theorem flatMap_split_tokens {names : List String} (h : ∀ name ∈ names, ':' ∉ name.toList) :
    (names.map token).flatMap (List.splitOn ':') = names.map token :=
  Text.flatMap_splitOn_of_not_mem <| List.forall_mem_map.2 fun name hname hmem =>
    h name hname ((colon_mem_token_iff name).1 hmem)

/-- A name with a colon comes apart into several tokens. -/
theorem length_flatMap_split_tokens_iff {names : List String} :
    ((names.map token).flatMap (List.splitOn ':')).length = names.length ↔
      ∀ name ∈ names, ':' ∉ name.toList := by
  have hlength : names.length = (names.map token).length := by rw [List.length_map]
  rw [hlength, Text.length_flatMap_splitOn_iff, List.forall_mem_map]
  simp only [colon_mem_token_iff]

/-- The pieces of the text of subjects are their marker and the tokens of the names, if no name has a colon.
    -/
theorem tokens_metaText {subjects : Subjects} (h : ∀ name ∈ subjects.names, ':' ∉ name.toList) :
    tokens subjects.metaText = ['d'] :: subjects.names.map token := by
  rw [tokens_of_joined subjects.toList_metaText (by decide), flatMap_split_tokens h]

/-- Subjects are read back exactly if no name has a colon, whatever a reader makes of tokens without the
    mark.  With a colon in a name there are more tokens than names. -/
theorem ofMetaText?_metaText_iff (unmarked : List Char → Option String) (subjects : Subjects) :
    ofMetaText? unmarked subjects.metaText = some subjects ↔
      ∀ name ∈ subjects.names, ':' ∉ name.toList := by
  rw [ofMetaText?, readMarked?_of_joined subjects.toList_metaText (by decide)]
  constructor
  · intro h
    obtain ⟨names, hread, hnames⟩ := Option.map_eq_some_iff.1 h
    -- one name was read from each token, so there are no more tokens than names
    have hlength := (mapM_eq_some_iff.1 hread).length_eq
    rw [← hnames] at hlength ⊢
    exact length_flatMap_split_tokens_iff.1 hlength
  · intro h
    have hread : (subjects.names.map token).mapM (nameOf? unmarked) = some subjects.names :=
      mapM_map_eq_pure fun name _ => nameOf?_token unmarked name
    rw [flatMap_split_tokens h, hread]
    rfl

/-- What `validate` asks of a list of names, said without stopping. -/
theorem validate_eq_ok_iff (subjects : Subjects) : subjects.validate = .ok () ↔
    subjects.names ≠ [] ∧ ∀ name ∈ subjects.names,
      name ≠ "" ∧ ∀ c ∈ name.toList, c ≠ ':' ∧ Text.isBlank c = false := by
  -- the plan reports a fault of the subjects in its own words, and has the list of their checks
  have hwrapped : subjects.validate = .ok () ↔ subjects.validate.mapError Plan.Fault.subjects = .ok () := by
    cases subjects.validate with
    | ok _ => exact iff_of_true rfl rfl
    | error fault => exact iff_of_false (fun h => by cases h) fun h => by cases h
  rw [hwrapped, (Plan.verdict_validateSubjects subjects).eq_ok_iff, List.forall_mem_cons,
    List.forall_mem_flatMap]
  simp only [Plan.forall_nameChecks_iff]

/-- The text of subjects has no blank if no name has one. -/
theorem isBlank_of_mem_metaText {subjects : Subjects}
    (hnames : ∀ name ∈ subjects.names, ∀ c ∈ name.toList, Text.isBlank c = false) {c : Char}
    (h : c ∈ subjects.metaText.toList) : Text.isBlank c = false := by
  have hmark : mark.any Text.isBlank = false := by decide
  refine isBlank_of_joined subjects.toList_metaText (by decide) (List.forall_mem_map.2 ?_) c h
  intro name hname c hc
  rcases List.mem_append.1 hc with hc | hc
  · exact Bool.eq_false_iff.2 (List.any_eq_false.1 hmark c hc)
  · exact hnames name hname c hc

/-- The text of usable subjects has no gap, and behind each mark stands a name. -/
theorem gapless_metaText {subjects : Subjects} (h : subjects.validate = .ok ()) :
    Gapless subjects.metaText ∧ mark ∉ tokens subjects.metaText := by
  obtain ⟨-, hnames⟩ := (validate_eq_ok_iff subjects).1 h
  have htokens := tokens_metaText fun name hname hmem => ((hnames name hname).2 ':' hmem).1 rfl
  have hempty : ([] : List Char) ≠ ['d'] ∧ mark ≠ ['d'] := by decide
  refine ⟨⟨fun c hc => ?_, ?_⟩, ?_⟩
  · exact isBlank_of_mem_metaText (fun name hname c hc => ((hnames name hname).2 c hc).2) hc
  · rw [htokens, List.mem_cons, or_iff_right hempty.1, List.mem_map]
    rintro ⟨name, -, htoken⟩
    exact absurd (List.append_eq_nil_iff.1 htoken).1 (by decide)
  · -- a mark with nothing behind it would be the token of an empty name
    rw [htokens, List.mem_cons, or_iff_right hempty.2, List.mem_map]
    rintro ⟨name, hname, htoken⟩
    exact (hnames name hname).1 (String.toList_eq_nil_iff.1 (List.append_right_eq_self.1 htoken))

end Subjects

/-! ## Both texts

  Each part of the statement is an instance of what was shown for one of the two texts.  Injectivity comes
  from the readers: who can read a text back cannot have written it for two things. -/

/-- **The texts can be read back.**  Every axis is read back from the tokens of its text, so two axes with
    one text are equal.  A list of subjects is read back exactly if no name has a colon; all that are accepted
    are, so two of these with one text are equal.  The texts of axes and of accepted subjects have no gap. -/
theorem metaTexts_read_back :
    (∀ axis : Axis, tokens axis.metaText = ['t'] :: axis.levels.map Axis.token ∧
      Axis.ofMetaText? axis.metaText = some axis ∧ Gapless axis.metaText) ∧
    (∀ a b : Axis, a.metaText = b.metaText → a = b) ∧
    (∀ (subjects : Subjects) (unmarked : List Char → Option String),
      Subjects.ofMetaText? unmarked subjects.metaText = some subjects ↔
        ∀ name ∈ subjects.names, ':' ∉ name.toList) ∧
    (∀ subjects : Subjects, subjects.validate = .ok () →
      (∀ unmarked, Subjects.ofMetaText? unmarked subjects.metaText = some subjects) ∧
        Gapless subjects.metaText ∧ Subjects.mark ∉ tokens subjects.metaText) ∧
    ∀ a b : Subjects, a.validate = .ok () → b.validate = .ok () → a.metaText = b.metaText → a = b := by
  have haccepted : ∀ subjects : Subjects, subjects.validate = .ok () → ∀ unmarked,
      Subjects.ofMetaText? unmarked subjects.metaText = some subjects := by
    intro subjects h unmarked
    obtain ⟨-, hnames⟩ := (Subjects.validate_eq_ok_iff subjects).1 h
    exact (Subjects.ofMetaText?_metaText_iff unmarked subjects).2
      fun name hname hmem => ((hnames name hname).2 ':' hmem).1 rfl
  refine ⟨fun axis => ?_, fun a b h => ?_, fun subjects unmarked => ?_, fun subjects h => ?_,
    fun a b ha hb h => ?_⟩
  · exact ⟨axis.tokens_metaText, axis.ofMetaText?_metaText, axis.gapless_metaText⟩
  · apply Option.some.inj
    rw [← a.ofMetaText?_metaText, h, b.ofMetaText?_metaText]
  · exact Subjects.ofMetaText?_metaText_iff unmarked subjects
  · exact ⟨haccepted subjects h, Subjects.gapless_metaText h⟩
  · apply Option.some.inj
    rw [← haccepted a ha fun _ => none, h, haccepted b hb]

/-- Names that look like marks, markers and digits. -/
def lookalikes : Subjects := ⟨["tracker=", "d", "tracker=tracker=2", "12"]⟩

/-- What stands behind the marks in their text. -/
def retold : Subjects :=
  ⟨(tokens lookalikes.metaText).tail.map fun token => String.ofList (token.drop Subjects.mark.length)⟩

/-- The names are accepted and read back, and so they are what stands behind the marks. -/
theorem metaTexts_read_back_lookalikes :
    lookalikes.validate = .ok () ∧ retold.validate = .ok () ∧ retold.metaText = lookalikes.metaText ∧
      Subjects.ofMetaText? (fun _ => none) lookalikes.metaText = some lookalikes ∧ retold = lookalikes := by
  have hvalid : lookalikes.validate = .ok () := rfl
  have hretold : retold.validate = .ok () := by rfl
  have hsame : retold.metaText = lookalikes.metaText := by decide +kernel
  obtain ⟨-, -, -, haccepted, hinjective⟩ := metaTexts_read_back
  exact ⟨hvalid, hretold, hsame, (haccepted lookalikes hvalid).1 _,
    hinjective retold lookalikes hretold hvalid hsame⟩

/-- Of a list that is not accepted the text can be that of one that is. -/
example : (⟨["NIL:tracker=RCU"]⟩ : Subjects).metaText = (⟨["NIL", "RCU"]⟩ : Subjects).metaText := by decide

end BenchSweep
