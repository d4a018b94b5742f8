/-
  What the lines of a plan's text do to the document that is read.

  `Reads text st st'` says that reading the text takes the document from one state to the other, whatever
  follows.  It composes over `++` (`Reads.append`), so the text of a plan is read piece by piece, each
  piece a line or a header.

  A line changes the section that is open and nothing else.  `Holds header put` says where that section
  is: `put` puts its entries into the document, and every change below the header is a change of them.
  What lines do can then be said of the section alone (`Fills text s s'`), once for the root, a table and
  an element of an array.
-/
import BenchSweep.Plan.Text
import BenchSweep.Proofs.Tables
import BenchSweep.Proofs.Toml.Values

namespace BenchSweep.Plan.Written

open Toml (Section Item Value)
open Toml.Document
open Toml.Strings (write writeKey isBare)

/-! ## One line -/

/-- A line is a key, a sign with a space on either side, and a value, up to the line feed. -/
theorem line_append (key : String) (value rest : List Char) :
    line key value ++ rest = writeKey key.toList ++ ' ' :: '=' :: ' ' :: (value ++ '\n' :: rest) := by
  simp [line]

/-- A key, as it is written, up to the sign behind it. -/
theorem keyPath?_writeKey (key : String) (r : List Char) :
    keyPath? (writeKey key.toList ++ ' ' :: '=' :: r) = some ([key], '=' :: r) := by
  have hsimple := simpleKey?_writeKey key.toList ('=' :: r)
  rw [String.ofList_toList] at hsimple
  obtain ⟨c, t, hc, hink, -⟩ := writeKey_eq_cons key.toList
  have hsign : skipSpace (' ' :: '=' :: r) = '=' :: r := by
    show skipSpace ('=' :: r) = _
    exact skipSpace_ink (by decide) r
  rw [keyPath?_of_simpleKey? ⟨c, _, by rw [hc, List.cons_append], hink⟩ hsimple, hsign]
  rw [hsign]
  exact fun e => absurd (Option.some.inj e) (by decide)

/-- What stands behind the key of a line is read as its value, up to the line feed. -/
theorem assignment?_line {t : List Char} {v : Value} (h : Denotes maxDepth t v) (key : String)
    (rest : List Char) :
    assignment? (writeKey key.toList ++ ' ' :: '=' :: ' ' :: (t ++ '\n' :: rest)) =
      some ([key], v, '\n' :: rest) := by
  have hskip : skipSpace (' ' :: (t ++ '\n' :: rest)) = t ++ '\n' :: rest := by
    obtain ⟨c, r, rfl, hink, -⟩ := h.inked
    exact skipSpace_ink hink _
  -- the reader takes its calls from the length of what is left, which is more than that of the value
  have hread : value? (2 * (' ' :: (t ++ '\n' :: rest)).length + 2) maxDepth (t ++ '\n' :: rest) =
      some (v, '\n' :: rest) := by
    refine h.reads _ _ ?_ ⟨'\n', rest, rfl, .inl rfl⟩
    simp only [List.length_cons, List.length_append]
    omega
  unfold assignment?
  rw [keyPath?_writeKey]
  simp only [hskip, hread, Option.bind_eq_bind, Option.bind_some]
  rfl

/-- A line gives its key its value in the section that is open. -/
theorem line?_line {t : List Char} {v : Value} (h : Denotes maxDepth t v) (key : String) (st : State)
    (rest : List Char) : line? st (line key t ++ rest) =
      (Section.descend (Section.assign [key] v) st.header st.root).map
        fun root => ({ st with root }, rest) := by
  have hassign := assignment?_line h key rest
  obtain ⟨c, r, hc, hink, hbracket⟩ := writeKey_eq_cons key.toList
  rw [line_append]
  rw [hc, List.cons_append] at hassign ⊢
  -- the first character of the key shows that the line is neither empty nor a header
  unfold line?
  rw [endOfLine?_ink hink, skipSpace_ink hink]
  split
  · next e => cases e
  · split
    · next e => exact absurd (List.cons.inj e).1 hbracket
    · rw [hassign]
      simp only [Option.bind_eq_bind, Option.bind_some, endOfLine?_newline]
      cases Section.descend (Section.assign [key] v) st.header st.root <;> rfl

/-! ## Headers

  The names of sections are written by the program, and all of them can stand bare. -/

/-- A key between brackets. -/
theorem keyPath?_bare {key : String} (hne : key.toList ≠ []) (hbare : key.toList.all isBare = true)
    (r : List Char) : keyPath? (key.toList ++ ']' :: r) = some ([key], ']' :: r) := by
  have hsimple := simpleKey?_bare hne hbare (c := ']') (by decide) r
  rw [String.ofList_toList] at hsimple
  obtain ⟨c, t, hc⟩ := List.exists_cons_of_ne_nil hne
  have hink : IsInk c := by
    rw [hc] at hbare
    exact (isInk_of_isBare (List.all_eq_true.1 hbare c List.mem_cons_self)).1
  have hclose : skipSpace (']' :: r) = ']' :: r := skipSpace_ink (by decide) r
  rw [keyPath?_of_simpleKey? ⟨c, _, by rw [hc, List.cons_append], hink⟩ hsimple, hclose]
  rw [hclose]
  exact fun e => absurd (Option.some.inj e) (by decide)

/-- The header of a table, behind its first bracket. -/
theorem header?_table {key : String} (hne : key.toList ≠ []) (hbare : key.toList.all isBare = true)
    (rest : List Char) : header? (key.toList ++ ']' :: rest) = some (false, [key], rest) := by
  have hpath := keyPath?_bare hne hbare rest
  obtain ⟨c, t, hc⟩ := List.exists_cons_of_ne_nil hne
  rw [hc] at hbare
  have hbracket := (isInk_of_isBare (List.all_eq_true.1 hbare c List.mem_cons_self)).2
  unfold header?
  split
  · next e =>
    rw [hc] at e
    exact absurd (List.cons.inj e).1 hbracket
  · rw [hpath]
    rfl

/-- The header of an element of an array, behind its first bracket. -/
theorem header?_element {key : String} (hne : key.toList ≠ []) (hbare : key.toList.all isBare = true)
    (rest : List Char) : header? ('[' :: (key.toList ++ ']' :: ']' :: rest)) = some (true, [key], rest) := by
  have hpath := keyPath?_bare hne hbare (']' :: rest)
  simp only [header?, hpath]
  rfl

/-- A bracket at the front of a line begins a header, which opens its section. -/
theorem line?_header {isElement : Bool} {path : List String} {s rest : List Char}
    (h : header? s = some (isElement, path, '\n' :: rest)) (st : State) :
    line? st ('[' :: s) = (st.openSection isElement path).map fun st => (st, rest) := by
  unfold line?
  rw [endOfLine?_ink (by decide), skipSpace_ink (by decide)]
  simp only [h, Option.bind_eq_bind, Option.bind_some, endOfLine?_newline]
  cases st.openSection isElement path <;> rfl

/-- The header of a table opens the section under its key. -/
theorem openSection_table {key : String} {st : State} {root : Section}
    (h : Section.openTable key st.root = some root) : st.openSection false [key] = some ⟨[key], root⟩ := by
  show (Section.openTable key st.root).bind (fun root => some (State.mk [key] root)) = _
  rw [h]
  rfl

/-- The header of an element opens the last section of the array under its key. -/
theorem openSection_element {key : String} {st : State} {root : Section}
    (h : Section.openElement key st.root = some root) : st.openSection true [key] = some ⟨[key], root⟩ := by
  show (Section.openElement key st.root).bind (fun root => some (State.mk [key] root)) = _
  rw [h]
  rfl

/-! ## Texts of several lines -/

/-- Reading the text takes the document from one state to the other, whatever follows.  The length of a
    text is enough fuel to read it. -/
def Reads (text : List Char) (st st' : State) : Prop :=
  ∀ fuel rest, (text ++ rest).length ≤ fuel →
    ∃ fuel', rest.length ≤ fuel' ∧ lines? fuel st (text ++ rest) = lines? fuel' st' rest

/-- A text without lines changes nothing. -/
theorem Reads.nil (st : State) : Reads [] st st := fun fuel _ h => ⟨fuel, h, rfl⟩

/-- Texts are read one after the other, the second from where the first has taken the document. -/
theorem Reads.append {t u : List Char} {st st' st'' : State} (h : Reads t st st')
    (h' : Reads u st' st'') : Reads (t ++ u) st st'' := by
  intro fuel rest hfuel
  rw [List.append_assoc] at hfuel ⊢
  obtain ⟨fuel', hfuel', e⟩ := h fuel (u ++ rest) hfuel
  obtain ⟨fuel'', hfuel'', e'⟩ := h' fuel' rest hfuel'
  exact ⟨fuel'', hfuel'', e.trans e'⟩

/-- One line that is read. -/
theorem Reads.of_line? {text : List Char} {st st' : State} (hne : text ≠ [])
    (h : ∀ rest, line? st (text ++ rest) = some (st', rest)) : Reads text st st' := by
  intro fuel rest hfuel
  obtain ⟨c, r, rfl⟩ := List.exists_cons_of_ne_nil hne
  have hline := h rest
  rw [List.cons_append] at hfuel hline ⊢
  rw [List.length_cons, List.length_append] at hfuel
  obtain ⟨fuel, rfl⟩ : ∃ n, fuel = n + 1 := ⟨fuel - 1, by omega⟩
  refine ⟨fuel, by omega, ?_⟩
  rw [lines?, hline]
  · rfl
  · exact fun e => by cases e

/-- A whole document. -/
theorem Reads.read? {text : List Char} {st : State} (h : Reads text ⟨[], []⟩ st)
    (hmark : dropMark text = text) : read? text = some (Section.toEntries st.root) := by
  obtain ⟨fuel, -, e⟩ := h text.length [] (by rw [List.append_nil])
  rw [List.append_nil] at e
  simp only [Toml.Document.read?, hmark, e]
  cases fuel <;> rfl

/-- The empty line in front of a header. -/
theorem reads_newline (st : State) : Reads ['\n'] st st :=
  Reads.of_line? (by decide) fun _ => rfl

/-- A header is an empty line, its name, and a line feed. -/
theorem header_eq (name : String) : header name = ['\n'] ++ (name.toList ++ ['\n']) := rfl

/-- A header on a line of its own, behind an empty one. -/
theorem reads_header {name : String} {s : List Char} {isElement : Bool} {path : List String}
    (hname : name.toList = '[' :: s) (hs : ∀ rest, header? (s ++ rest) = some (isElement, path, rest))
    {st st' : State} (hst : st.openSection isElement path = some st') : Reads (header name) st st' := by
  rw [header_eq, hname]
  refine (reads_newline st).append (Reads.of_line? (List.cons_ne_nil _ _) fun rest => ?_)
  rw [List.append_assoc, List.cons_append, List.singleton_append, line?_header (hs _), hst]
  rfl

/-- The header of a table is read as the section that it opens. -/
theorem reads_tableHeader {name key : String} (hname : name.toList = '[' :: (key.toList ++ [']']))
    (hne : key.toList ≠ []) (hbare : key.toList.all isBare = true) {st : State} {root : Section}
    (hroot : Section.openTable key st.root = some root) : Reads (header name) st ⟨[key], root⟩ := by
  refine reads_header hname (fun rest => ?_) (openSection_table hroot)
  rw [List.append_assoc]
  exact header?_table hne hbare rest

/-- The header of an element is read as the section that it opens. -/
theorem reads_elementHeader {name key : String}
    (hname : name.toList = '[' :: '[' :: (key.toList ++ [']', ']'])) (hne : key.toList ≠ [])
    (hbare : key.toList.all isBare = true) {st : State} {root : Section}
    (hroot : Section.openElement key st.root = some root) : Reads (header name) st ⟨[key], root⟩ := by
  refine reads_header hname (fun rest => ?_) (openSection_element hroot)
  rw [List.cons_append, List.append_assoc]
  exact header?_element hne hbare rest

/-! ## The section that is open

  The reader keeps one table for the whole document and goes down to the open section for each line.  Seen
  from the section, the tables above it are a function `put` that a line leaves alone. -/

/-- `put` puts entries into the document where the section of the header is, so that every change below
    the header is a change of them. -/
def Holds (header : List String) (put : Section → Section) : Prop :=
  ∀ change s, Section.descend change header (put s) = (change s).map put

/-- With no header above it, the section is the document. -/
theorem holds_root : Holds [] id := by
  intro change s
  rw [Section.descend, id_eq, Option.map_id_fun, id_eq]

/-- Under the header of a table, the section is what stands under its key. -/
theorem holds_table (key : String) (origin : Toml.Origin) (root : Section) :
    Holds [key] fun s => Keyed.place key (.table origin s) root := by
  intro change s
  rw [Section.descend, Keyed.lookup_place_self]
  simp only [Section.descend, Keyed.place_place]

/-- Under the header of an element, the section is the last element, which stands in front of those before
    it. -/
theorem holds_element (key : String) (before : List Section) (root : Section) :
    Holds [key] fun s => Keyed.place key (.tables (s :: before)) root := by
  intro change s
  rw [Section.descend, Keyed.lookup_place_self]
  simp only [Section.descend, Keyed.place_place]

/-- Read where a section is open, the text takes its entries from `s` to `s'`. -/
def Fills (text : List Char) (s s' : Section) : Prop :=
  ∀ header put, Holds header put → Reads text ⟨header, put s⟩ ⟨header, put s'⟩

/-- A text without lines fills nothing in. -/
theorem Fills.nil (s : Section) : Fills [] s s := fun _ _ _ => Reads.nil _

/-- Texts fill a section one after the other. -/
theorem Fills.append {t u : List Char} {s s' s'' : Section} (h : Fills t s s') (h' : Fills u s' s'') :
    Fills (t ++ u) s s'' :=
  fun header put hput => (h header put hput).append (h' header put hput)

/-- A line fills its value in under its key. -/
theorem fills_line {key : String} {t : List Char} {v : Value} {s s' : Section}
    (h : Denotes maxDepth t v) (hs : Section.assign [key] v s = some s') : Fills (line key t) s s' := by
  intro header put hput
  refine Reads.of_line? ?_ ?_
  · obtain ⟨c, r, hc, -⟩ := writeKey_eq_cons key.toList
    rw [line, hc]
    exact List.cons_ne_nil _ _
  · intro rest
    rw [line?_line h, hput, hs]
    rfl

/-- A new key goes to its place. -/
theorem assign_of_lookup {key : String} {s : Section} (h : s.lookup key = none) (v : Value) :
    Section.assign [key] v s = some (Keyed.place key (.value v) s) := by
  rw [Section.assign, h]

/-! ## Fields

  The text of a plan is made of lines of five kinds.  A field carries, with the text of its value, that this
  text is read as the value, so a list of fields can be read without looking at their kinds. -/

/-- A written flag denotes itself. -/
theorem denotes_flag (depth : Nat) (b : Bool) : Denotes depth (flag b) (.boolean b) := by
  cases b with
  | true => exact denotes_true depth
  | false => exact denotes_false depth

/-- A written list of texts denotes the array of these texts. -/
theorem denotes_texts (texts : List String) :
    Denotes maxDepth (array (texts.map fun s : String => write s.toList)) (.array (texts.map .string)) := by
  refine denotes_array fun (s : String) _ => ?_
  exact denotes_write _ s

/-- A written list of words denotes the array of their numbers. -/
theorem denotes_words (ns : List UInt32) :
    Denotes maxDepth (array (ns.map word)) (.array (ns.map fun n => .integer n.toNat)) := by
  refine denotes_array fun (n : UInt32) _ => ?_
  exact denotes_number _ n.toNat

/-- A key with the text of its value. -/
structure Field where
  key : String
  text : List Char
  value : Value
  /-- The text is read as the value. -/
  denotes : Denotes maxDepth text value

namespace Field

/-- The line of a field. -/
def line (f : Field) : List Char := Written.line f.key f.text

/-- A field with a text. -/
def ofText (key s : String) : Field := ⟨key, write s.toList, .string s, denotes_write _ s⟩

/-- A field with a word. -/
def ofWord (key : String) (n : UInt32) : Field := ⟨key, word n, .integer n.toNat, denotes_number _ n.toNat⟩

/-- A field with a flag. -/
def ofFlag (key : String) (b : Bool) : Field := ⟨key, flag b, .boolean b, denotes_flag _ b⟩

/-- A field with a list of texts. -/
def ofTexts (key : String) (texts : List String) : Field := ⟨key, _, _, denotes_texts texts⟩

/-- A field with a list of words. -/
def ofWords (key : String) (ns : List UInt32) : Field := ⟨key, _, _, denotes_words ns⟩

end Field

/-- The entries after lines for the fields. -/
def placed (fields : List Field) (s : Section) : Section :=
  fields.foldl (fun s f => Keyed.place f.key (.value f.value) s) s

/-- Lines with different keys, none of which is there yet, add their fields. -/
theorem fills_fields {fields : List Field} (hnodup : (fields.map Field.key).Nodup) {s : Section}
    (hs : ∀ f ∈ fields, s.lookup f.key = none) : Fills (fields.flatMap Field.line) s (placed fields s) := by
  -- on the fields, for every section that has none of their keys
  induction fields generalizing s with
  | nil => exact Fills.nil s
  | cons f fields ih =>
    obtain ⟨hf, hfields⟩ := List.nodup_cons.1 hnodup
    -- the keys of the other fields are still missing behind the first line
    have hline := fills_line f.denotes (assign_of_lookup (hs f List.mem_cons_self) f.value)
    refine hline.append (ih hfields fun g hg => ?_)
    have hne : g.key ≠ f.key := fun e => hf (e ▸ List.mem_map_of_mem hg)
    rw [Keyed.lookup_place_of_ne hne]
    exact hs g (List.mem_cons_of_mem f hg)

/-- Fields in ascending order of their keys stay in that order. -/
theorem placed_of_ascending {fields : List Field} {s : Section}
    (h : (s.map Prod.fst ++ fields.map Field.key).Pairwise (· < ·)) :
    placed fields s = s ++ fields.map fun f => (f.key, .value f.value) := by
  -- on the fields, each of which is put behind all entries that are there by then
  induction fields generalizing s with
  | nil => exact (List.append_nil s).symm
  | cons f fields ih =>
    have hlt : ∀ e ∈ s, e.1 < f.key := fun e he =>
      (List.pairwise_append.1 h).2.2 e.1 (List.mem_map_of_mem he) f.key List.mem_cons_self
    have hrest : ((s ++ [(f.key, Item.value f.value)]).map Prod.fst ++ fields.map Field.key).Pairwise
        (· < ·) := by
      rw [List.map_append, List.append_assoc]
      exact h
    have hfirst : placed (f :: fields) s = placed fields (s ++ [(f.key, .value f.value)]) := by
      rw [placed, placed, List.foldl_cons, Keyed.place_of_all_lt hlt]
    rw [hfirst, ih hrest, List.append_assoc]
    rfl

end BenchSweep.Plan.Written
