/-
  A request on one line is read back.

  `display` writes the program as it is and every argument so that it can be read back; `words` is the
  reader.  A line is read from the front, and what was read so far is remembered only by being between
  quotes or not.

  1. **One character** (`words_quote`, `words_between`, `words_outside`).  Outside quotes a backslash is a
     character like any other unless a quote follows, and that is the only place where the reader looks at
     two characters at once.

  2. **One argument** (`words_shown`).  A text behind an argument is read as it would be without it, with
     the characters of the argument in front of its first word.  Between quotes a quote costs four
     characters, after which the reader is between quotes again; without quotes the argument may end with
     a backslash, so what follows must not begin with a quote.

  3. **All arguments** (`words_shownArguments`).  A space stands in front of each and ends the word before
     it, so what is behind the program is read as the arguments (`display_read`).

  4. **The program** is shown without quotes, so it is read as one word only if it is plain; and otherwise
     nothing behind it can make up for that (`words_ne_of_owed`).
-/
import BenchSweep.Request.Display

namespace BenchSweep
namespace Request

/-! ## One character

  What the reader does with the next character, by what it is and by whether a quote is open. -/

/-- A quote opens or closes, and stands in no word. -/
theorem words_quote (quoted : Bool) (r : List Char) : words quoted ('\'' :: r) = words (!quoted) r := by
  rw [words]

/-- Outside quotes a space ends a word. -/
theorem words_space (r : List Char) : words false (' ' :: r) = [] :: words false r := by
  rw [words, if_neg Bool.false_ne_true]

/-- Outside quotes a backslash in front of a quote makes it a character of the word. -/
theorem words_escape (r : List Char) :
    words false ('\\' :: '\'' :: r) = consWord '\'' (words false r) := by
  rw [words, if_neg Bool.false_ne_true]

/-- Outside quotes a character stands for itself, a backslash only if no quote is behind it. -/
theorem words_outside {c : Char} (hquote : c ≠ '\'') (hspace : c ≠ ' ') {r : List Char}
    (hescape : c = '\\' → r.head? ≠ some '\'') : words false (c :: r) = consWord c (words false r) := by
  refine words.eq_5 false c r hquote hspace fun rest hc hr => hescape hc ?_
  rw [hr, List.head?_cons]

/-- Between quotes a character other than the quote stands for itself. -/
theorem words_between {c : Char} (h : c ≠ '\'') (r : List Char) :
    words true (c :: r) = consWord c (words true r) := by
  by_cases hspace : c = ' '
  · rw [hspace, words, if_pos rfl]
  · -- the pattern for the escape matches here too, but between quotes it has no effect
    by_cases hescape : c = '\\' ∧ r.head? = some '\''
    · obtain ⟨rfl, hr⟩ := hescape
      obtain ⟨rest, rfl⟩ := List.head?_eq_some_iff.1 hr
      rw [words_quote true rest, words.eq_4, if_pos rfl]
      rfl
    · refine words.eq_5 true c r h hspace fun rest hc hr => hescape ⟨hc, ?_⟩
      rw [hr, List.head?_cons]

/-- A character in front belongs to some word. -/
theorem consWord_ne_nil (c : Char) (ws : List (List Char)) : consWord c ws ≠ [] := by
  cases ws with
  | nil => exact List.cons_ne_nil _ _
  | cons w ws => exact List.cons_ne_nil _ _

/-! ## One argument -/

/-- A word in front of the first one. -/
theorem foldr_consWord (argument w : List Char) (ws : List (List Char)) :
    argument.foldr consWord (w :: ws) = (argument ++ w) :: ws := by
  -- on the characters, the last of which is put in front first
  induction argument with
  | nil => rfl
  | cons c argument ih => rw [List.foldr_cons, ih, consWord, List.cons_append]

/-- Between quotes, and up to the quote that closes them, a text is read as itself. -/
theorem words_quotedBody (argument r : List Char) :
    words true (quotedBody argument ++ '\'' :: r) = argument.foldr consWord (words false r) := by
  -- on the text; between two of its characters the reader is always between quotes
  induction argument with
  | nil => exact words_quote true r
  | cons c argument ih =>
    rw [quotedBody, List.flatMap_cons, ← quotedBody, List.append_assoc, List.foldr_cons]
    by_cases hc : c = '\''
    · -- out of the quotes, a quote, and in again
      rw [if_pos hc, hc, List.cons_append, words_quote, ← ih]
      show words false ('\\' :: '\'' :: '\'' :: (quotedBody argument ++ '\'' :: r)) = _
      rw [words_escape, words_quote]
      rfl
    · rw [if_neg hc, List.cons_append, List.nil_append, words_between hc, ih]

/-- A text without quotes and spaces.  Outside quotes it stands for itself, unless a quote behind it meets a
    backslash at its end. -/
def IsPlain (text : List Char) : Prop := ∀ c ∈ text, c ≠ '\'' ∧ c ≠ ' '

instance (text : List Char) : Decidable (IsPlain text) := List.decidableBAll _ text

/-- A text that is shown without quotes is plain. -/
theorem isPlain_of_not_needsQuotes {argument : List Char} (h : needsQuotes argument = false) :
    IsPlain argument := by
  rw [needsQuotes, Bool.or_eq_false_iff, List.any_eq_false] at h
  intro c hc
  have hclear := h.2 c hc
  refine ⟨?_, ?_⟩
  · rintro rfl
    exact hclear (by decide)
  · rintro rfl
    exact hclear (by decide)

/-- A plain text is read as itself, if no quote follows. -/
theorem words_plain {text : List Char} (h : IsPlain text) {r : List Char} (hr : r.head? ≠ some '\'') :
    words false (text ++ r) = text.foldr consWord (words false r) := by
  induction text with
  | nil => rfl
  | cons c text ih =>
    obtain ⟨hquote, hspace⟩ := h c List.mem_cons_self
    have htext : IsPlain text := fun d hd => h d (List.mem_cons_of_mem c hd)
    -- no quote is behind a character: the text has none, and what follows does not begin with one
    have hnext : (text ++ r).head? ≠ some '\'' := by
      cases text with
      | nil => exact hr
      | cons d text => exact fun hd => (htext d List.mem_cons_self).1 (Option.some.inj hd)
    rw [List.cons_append, words_outside hquote hspace fun _ => hnext, ih htext, List.foldr_cons]

/-- **One argument** is read as what it is, whatever it holds. -/
theorem words_shown (argument : List Char) {r : List Char} (hr : r.head? ≠ some '\'') :
    words false (shown argument ++ r) = argument.foldr consWord (words false r) := by
  rw [shown]
  cases hquotes : needsQuotes argument with
  | true =>
    rw [if_pos rfl, List.cons_append, List.cons_append, words_quote, List.append_assoc]
    exact words_quotedBody argument r
  | false =>
    rw [if_neg Bool.false_ne_true]
    exact words_plain (isPlain_of_not_needsQuotes hquotes) hr

/-! ## All arguments -/

/-- The line behind the program. -/
def shownArguments (arguments : List (List Char)) : List Char :=
  arguments.flatMap fun argument => ' ' :: shown argument

/-- Behind the program an argument stands after a space. -/
theorem shownArguments_cons (argument : List Char) (arguments : List (List Char)) :
    shownArguments (argument :: arguments) = ' ' :: (shown argument ++ shownArguments arguments) := rfl

/-- A space stands behind the program and behind every argument but the last. -/
theorem head?_shownArguments_ne (arguments : List (List Char)) :
    (shownArguments arguments).head? ≠ some '\'' := by
  cases arguments with
  | nil => exact Option.some_ne_none _ ∘ Eq.symm
  | cons argument arguments => exact fun h => absurd (Option.some.inj h) (by decide)

/-- Behind a word, the arguments are read one by one. -/
theorem words_shownArguments (arguments : List (List Char)) :
    words false (shownArguments arguments) = [] :: arguments := by
  -- on the arguments; the space in front of each ends the word before it
  induction arguments with
  | nil => rfl
  | cons argument arguments ih =>
    rw [shownArguments_cons, words_space, words_shown argument (head?_shownArguments_ne arguments), ih,
      foldr_consWord, List.append_nil]

/-- The line behind the program, without the space in front, is read as the arguments. -/
theorem exists_shownArguments {arguments : List (List Char)} (h : arguments ≠ []) :
    ∃ r, shownArguments arguments = ' ' :: r ∧ words false r = arguments := by
  cases arguments with
  | nil => exact absurd rfl h
  | cons argument arguments =>
    refine ⟨_, shownArguments_cons argument arguments, ?_⟩
    rw [words_shown argument (head?_shownArguments_ne arguments), words_shownArguments, foldr_consWord,
      List.append_nil]

/-- Different arguments are shown differently, as they are read back from what is shown. -/
theorem shownArguments_injective {arguments others : List (List Char)}
    (h : shownArguments arguments = shownArguments others) : arguments = others := by
  have hwords := congrArg (words false) h
  rw [words_shownArguments, words_shownArguments] at hwords
  exact (List.cons.inj hwords).2

/-! ## The program

  The program is shown as it is.  If it has a quote, a space or a backslash at the wrong place, it is read
  as something else, and what stands behind it does not put this right: the argument follows a reader that
  has fallen behind its text. -/

/-- Every text has a word, be it an empty one. -/
theorem words_ne_nil (quoted : Bool) (text : List Char) : words quoted text ≠ [] := by
  induction text generalizing quoted with
  | nil => exact List.cons_ne_nil _ _
  | cons c r ih =>
    by_cases hquote : c = '\''
    · rw [hquote, words_quote]
      exact ih (!quoted)
    · cases quoted with
      | true =>
        rw [words_between hquote]
        exact consWord_ne_nil _ _
      | false =>
        by_cases hspace : c = ' '
        · rw [hspace, words_space]
          exact List.cons_ne_nil _ _
        · by_cases hescape : c = '\\' ∧ r.head? = some '\''
          · obtain ⟨rfl, hr⟩ := hescape
            obtain ⟨rest, rfl⟩ := List.head?_eq_some_iff.1 hr
            rw [words_escape]
            exact consWord_ne_nil _ _
          · rw [words_outside hquote hspace fun hc hr => hescape ⟨hc, hr⟩]
            exact consWord_ne_nil _ _

/-- One character that is read pays one that is owed. -/
theorem pays_of_consWord {c : Char} (owed rest : List Char) (hne : owed ≠ []) {quoted : Bool}
    {text : List Char} {ws : List (List Char)}
    (h : consWord c (words quoted text) = (owed ++ rest) :: ws) :
    ∃ more, owed = c :: more ∧ words quoted text = (more ++ rest) :: ws := by
  obtain ⟨d, more, rfl⟩ := List.exists_cons_of_ne_nil hne
  cases hwords : words quoted text with
  | nil => exact absurd hwords (words_ne_nil quoted text)
  | cons v vs =>
    rw [hwords, consWord, List.cons_append] at h
    obtain ⟨hword, rfl⟩ := List.cons.inj h
    obtain ⟨rfl, rfl⟩ := List.cons.inj hword
    exact ⟨more, rfl, rfl⟩

/-- A space pays nothing: outside quotes it ends the word, and between them it is not what is owed. -/
theorem words_space_ne_of_owed {owed : List Char} (hne : owed ≠ []) (hspace : ' ' ∉ owed) (quoted : Bool)
    (r rest : List Char) (ws : List (List Char)) : words quoted (' ' :: r) ≠ (owed ++ rest) :: ws := by
  intro h
  cases quoted with
  | false =>
    rw [words_space] at h
    exact hne (List.append_eq_nil_iff.1 (List.cons.inj h).1.symm).1
  | true =>
    rw [words_between (by decide)] at h
    obtain ⟨more, rfl, -⟩ := pays_of_consWord _ _ hne h
    exact hspace List.mem_cons_self

/-- A reader in debt cannot catch up.  It owes characters of a word, and those that it reads are part of
    that word as well, so with each the debt stays or grows, until the space behind them comes too early. -/
theorem words_ne_of_owed (quoted : Bool) (text r : List Char) (ws : List (List Char)) (owed : List Char)
    (hne : owed ≠ []) (hspace : ' ' ∉ owed) : words quoted (text ++ ' ' :: r) ≠ (owed ++ text) :: ws := by
  -- by the cases of the reader, for every debt; a quote that is passed over adds to it
  induction quoted, text using words.induct generalizing owed with
  | case1 quoted => exact words_space_ne_of_owed hne hspace quoted r [] ws
  | case2 quoted text ih =>
    rw [List.cons_append, words_quote, List.append_cons owed]
    exact ih (owed ++ ['\'']) (by simp) (by simpa using hspace)
  | case3 text _ => exact words_space_ne_of_owed hne hspace true _ _ ws
  | case4 quoted text _ _ => exact words_space_ne_of_owed hne hspace quoted _ _ ws
  | case5 text ih =>
    intro h
    rw [List.cons_append, words_between (by decide), List.cons_append, words_quote] at h
    obtain ⟨more, rfl, hmore⟩ := pays_of_consWord _ _ hne h
    rw [List.append_cons more, List.append_cons (more ++ _)] at hmore
    exact ih (more ++ ['\\'] ++ ['\'']) (by simp) (by simpa using hspace) hmore
  | case6 quoted text hquoted ih =>
    obtain rfl : quoted = false := Bool.eq_false_iff.2 hquoted
    intro h
    rw [List.cons_append, List.cons_append, words_escape] at h
    obtain ⟨more, rfl, hmore⟩ := pays_of_consWord _ _ hne h
    rw [List.append_cons more, List.append_cons (more ++ _)] at hmore
    exact ih (more ++ ['\\'] ++ ['\'']) (by simp) (by simpa using hspace) hmore
  | case7 quoted c text hquote hblank hescape ih =>
    intro h
    have hread : words quoted (c :: (text ++ ' ' :: r)) = consWord c (words quoted (text ++ ' ' :: r)) := by
      refine words.eq_5 quoted c _ hquote hblank fun rest hc hrest => ?_
      cases text with
      | nil => exact absurd (List.cons.inj hrest).1 (by decide)
      | cons d text => exact hescape text hc (congrArg (· :: text) (List.cons.inj hrest).1)
    rw [List.cons_append, hread] at h
    obtain ⟨more, rfl, hmore⟩ := pays_of_consWord _ _ hne h
    rw [List.append_cons more] at hmore
    exact ih (more ++ [c]) (by simp) (by simpa [or_comm] using hspace) hmore

/-- A program that is read as itself in front of something else is plain. -/
theorem isPlain_of_words {program r : List Char} {ws : List (List Char)}
    (h : words false (program ++ ' ' :: r) = program :: ws) : IsPlain program := by
  induction program with
  | nil => exact fun c hc => absurd hc List.not_mem_nil
  | cons c program ih =>
    rw [List.cons_append] at h
    by_cases hquote : c = '\''
    · rw [hquote, words_quote] at h
      exact absurd h (words_ne_of_owed true program r ws ['\''] (List.cons_ne_nil _ _) (by decide))
    · by_cases hspace : c = ' '
      · rw [hspace, words_space] at h
        cases h
      · by_cases hescape : c = '\\' ∧ (program ++ ' ' :: r).head? = some '\''
        · -- the backslash would be read as the quote behind it
          obtain ⟨rfl, hnext⟩ := hescape
          obtain ⟨rest, hrest⟩ := List.head?_eq_some_iff.1 hnext
          rw [hrest, words_escape] at h
          obtain ⟨more, hc, -⟩ := pays_of_consWord ['\\'] program (List.cons_ne_nil _ _) h
          cases hc
        · rw [words_outside hquote hspace fun hc hnext => hescape ⟨hc, hnext⟩] at h
          obtain ⟨more, hc, hmore⟩ := pays_of_consWord [c] program (List.cons_ne_nil c []) h
          obtain rfl : [] = more := (List.cons.inj hc).2
          exact List.forall_mem_cons.2 ⟨⟨hquote, hspace⟩, ih hmore⟩

/-- **The line of a program and its arguments** is read as these exactly if the program is plain. -/
theorem words_line_iff {program : List Char} {arguments : List (List Char)} (h : arguments ≠ []) :
    words false (line program arguments) = program :: arguments ↔ IsPlain program := by
  have hline : line program arguments = program ++ shownArguments arguments := rfl
  rw [hline]
  constructor
  · intro hwords
    obtain ⟨r, hr, -⟩ := exists_shownArguments h
    rw [hr] at hwords
    exact isPlain_of_words hwords
  · intro hplain
    rw [words_plain hplain (head?_shownArguments_ne arguments), words_shownArguments, foldr_consWord,
      List.append_nil]

/-! ## The line of a request -/

/-- The words of a text. -/
def textWords (text : String) : List String := (words false text.toList).map String.ofList

/-- Texts are given back by their characters. -/
theorem map_ofList_toList (texts : List String) : (texts.map String.toList).map String.ofList = texts := by
  rw [List.map_map]
  exact (List.map_congr_left fun text _ => String.ofList_toList).trans (List.map_id texts)

/-- The line of a request is the program, as it is, and what is shown of the arguments. -/
theorem display_eq (request : Request) : request.display =
    request.program ++ String.ofList (shownArguments (request.arguments.map String.toList)) := by
  rw [display, line, String.ofList_append, String.ofList_toList]
  rfl

/-- The whole line is read as the program and the arguments exactly if the program is plain. -/
theorem textWords_display_iff {request : Request} (h : request.arguments ≠ []) :
    textWords request.display = request.program :: request.arguments ↔ IsPlain request.program.toList := by
  have hne : request.arguments.map String.toList ≠ [] := fun hnil => h (List.map_eq_nil_iff.1 hnil)
  have htexts : (request.program :: request.arguments).map String.toList =
      request.program.toList :: request.arguments.map String.toList := List.map_cons
  rw [← words_line_iff hne, textWords, display, String.toList_ofList, ← htexts]
  constructor
  · intro hread
    rw [← hread, List.map_map]
    exact ((List.map_congr_left fun word _ => String.toList_ofList).trans (List.map_id _)).symm
  · intro hread
    rw [hread, map_ofList_toList]

/-- **A request on one line is read back.**  Behind the program stands nothing if there are no arguments, and
    else a space and a text whose words are the arguments; so of two requests with one program, different
    arguments are shown differently. -/
theorem display_read (request : Request) :
    (∃ shown, request.display = request.program ++ shown ∧ (request.arguments = [] → shown = "") ∧
      (request.arguments ≠ [] → ∃ rest, shown = " " ++ rest ∧ textWords rest = request.arguments)) ∧
    ∀ other : Request, request.program = other.program →
      (request.display = other.display ↔ request.arguments = other.arguments) := by
  refine ⟨⟨_, request.display_eq, fun h => ?_, fun h => ?_⟩, fun other hprogram => ⟨fun h => ?_, fun h => ?_⟩⟩
  · rw [h]
    rfl
  · have hne : request.arguments.map String.toList ≠ [] := fun hnil => h (List.map_eq_nil_iff.1 hnil)
    obtain ⟨rest, hshown, hwords⟩ := exists_shownArguments hne
    refine ⟨String.ofList rest, ?_, ?_⟩
    · rw [hshown]
      show String.ofList ([' '] ++ rest) = String.ofList [' '] ++ String.ofList rest
      exact String.ofList_append
    · rw [textWords, String.toList_ofList, hwords, map_ofList_toList]
  · rw [display_eq, display_eq, hprogram, String.append_right_inj, String.ofList_inj] at h
    have htexts := shownArguments_injective h
    rw [← map_ofList_toList request.arguments, htexts, map_ofList_toList]
  · rw [display_eq, display_eq, hprogram, h]

/-- A request with arguments that are empty, blank or end with a backslash, and with quotes next to one. -/
def awkwardRequest : Request :=
  { repetition := 0, kindIndex := 0, experiment := "a", program := "./h '"
    arguments := ["", "it's", " ", "\\", "\\'", "'\\'' ", "a\nb\\"], output := .ofString "o" }

/-- The same with a space in another argument. -/
def shiftedRequest : Request :=
  { awkwardRequest with arguments := ["", "it's ", "", "\\", "\\'", "'\\'' ", "a\nb\\"] }

/-- The awkward arguments are read back, and the shifted ones are shown differently. -/
theorem display_read_awkward :
    awkwardRequest.arguments ≠ [] ∧
      (∃ shown rest, awkwardRequest.display = awkwardRequest.program ++ shown ∧ shown = " " ++ rest ∧
        textWords rest = awkwardRequest.arguments) ∧
      awkwardRequest.program = shiftedRequest.program ∧ awkwardRequest.display ≠ shiftedRequest.display := by
  have hne : awkwardRequest.arguments ≠ [] := List.cons_ne_nil _ _
  have hprogram : awkwardRequest.program = shiftedRequest.program := rfl
  have hother : awkwardRequest.arguments ≠ shiftedRequest.arguments := by decide
  obtain ⟨⟨shown, hdisplay, -, hread⟩, hshows⟩ := display_read awkwardRequest
  obtain ⟨rest, hshown, hwords⟩ := hread hne
  exact ⟨hne, ⟨shown, rest, hdisplay, hshown, hwords⟩, hprogram,
    fun hsame => hother ((hshows shiftedRequest hprogram).1 hsame)⟩

end Request
end BenchSweep
