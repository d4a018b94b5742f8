/-
  The keys of a document that is read are in order.

  Whatever a text says, the entries of each of its tables stand in ascending order of their keys, however
  deep the table is nested (`ordered_of_read?`).  So no key is there twice, and looking a key up finds the
  one value that the document gives it.

  `Occurs` says that one value stands inside another; a value is `Ordered` when every table in it is.  Tables
  under construction take this over from the values that they come to: entries are only ever put in their
  place, so each change to a section, each section on the way to it and each line keeps the order.  The
  values themselves are read by functions that call each other, and the induction is on their fuel.
-/
import BenchSweep.Proofs.Tables
import BenchSweep.Toml.Document

namespace BenchSweep.Toml

/-! ## Values inside values

  A value is ordered if every table that occurs in it has its keys in order; so whatever occurs in an item
  or in an entry occurs in the whole. -/

/-- A value stands inside another, at any depth, or is that value. -/
inductive Value.Occurs (u : Value) : Value → Prop
  | self : Occurs u u
  | item {items : List Value} {v : Value} : v ∈ items → Occurs u v → Occurs u (.array items)
  | entry {entries : List (String × Value)} {key : String} {v : Value} :
      (key, v) ∈ entries → Occurs u v → Occurs u (.table entries)

/-- The keys are in ascending order in every table of a value. -/
def Value.Ordered (v : Value) : Prop :=
  ∀ entries, Value.Occurs (.table entries) v → entries.Pairwise (fun a b => a.1 < b.1)

/-- A value that holds no other. -/
def Value.Plain : Value → Prop
  | .array _ | .table _ => False
  | _ => True

/-- A value that holds no other has no table whose keys could be out of order. -/
theorem Value.Plain.ordered {v : Value} (h : v.Plain) : v.Ordered := by
  intro entries ho
  cases ho with
  | self => exact h.elim
  | item _ _ => exact h.elim
  | entry _ _ => exact h.elim

/-- An array is ordered if its items are. -/
theorem Value.ordered_array {items : List Value} (h : ∀ v ∈ items, v.Ordered) :
    (Value.array items).Ordered := by
  intro entries ho
  cases ho with
  | item hv ho => exact h _ hv entries ho

/-- A table is ordered if its own keys are in order and its values are ordered. -/
theorem Value.ordered_table_iff {entries : List (String × Value)} : (Value.table entries).Ordered ↔
    entries.Pairwise (fun a b => a.1 < b.1) ∧ ∀ e ∈ entries, e.2.Ordered := by
  constructor
  · intro h
    exact ⟨h _ .self, fun e he es ho => h es (.entry he ho)⟩
  · rintro ⟨hascending, hentries⟩ es ho
    cases ho with
    | self => exact hascending
    | entry he ho => exact hentries _ he es ho

/-- What is found in an ordered table is ordered. -/
theorem Value.Ordered.lookup {entries : List (String × Value)} (h : (Value.table entries).Ordered)
    {key : String} {v : Value} (hv : entries.lookup key = some v) : v.Ordered := by
  obtain ⟨before, after, rfl, -⟩ := List.lookup_eq_some_iff.1 hv
  have hmem : (key, v) ∈ before ++ (key, v) :: after := List.mem_append_right _ List.mem_cons_self
  exact fun es ho => h es (.entry hmem ho)

/-- The items of an ordered array are ordered. -/
theorem Value.Ordered.item {items : List Value} (h : (Value.array items).Ordered) {v : Value}
    (hv : v ∈ items) : v.Ordered := fun entries ho => h entries (.item hv ho)

/-! ## Tables under construction

  A section has items where the document will have values: values already read, tables that lines may still
  add to, and arrays of tables, whose elements are kept with the last one in front.  Each change puts an
  item in its place, so it is enough to know that this item comes to an ordered value. -/

namespace Section

/-- What a table under construction comes to is ordered. -/
def Ordered (s : Section) : Prop := (Value.table (toEntries s)).Ordered

/-- A table that nothing was added to is ordered. -/
theorem ordered_nil : Ordered [] :=
  Value.ordered_table_iff.2 ⟨List.Pairwise.nil, fun _ he => absurd he List.not_mem_nil⟩

/-- To put an item in its place and to put there what it comes to is the same. -/
theorem toEntries_place (key : String) (item : Item) (s : Section) :
    toEntries (Keyed.place key item s) = Keyed.place key item.toValue (toEntries s) := by
  induction s with
  | nil => rfl
  | cons e s ih =>
    obtain ⟨other, found⟩ := e
    rw [Keyed.place, toEntries, Keyed.place]
    split
    · rfl
    · split
      · rfl
      · rw [toEntries, ih]

/-- What is found in a section is found in what it comes to. -/
theorem mem_toEntries_of_lookup {key : String} {item : Item} {s : Section} (h : s.lookup key = some item) :
    (key, item.toValue) ∈ toEntries s := by
  induction s with
  | nil => cases h
  | cons e s ih =>
    rw [Keyed.lookup_cons_eq_ite] at h
    split at h
    · next hkey =>
      cases h
      rw [hkey]
      exact List.mem_cons_self
    · exact List.mem_cons_of_mem _ (ih h)

/-- The elements of an array of tables are what its sections come to, besides those that stand behind it. -/
theorem mem_toElements {elements : List Section} {after : List Value} {v : Value} :
    v ∈ toElements elements after ↔ (∃ s ∈ elements, v = .table (toEntries s)) ∨ v ∈ after := by
  induction elements generalizing after with
  | nil => simp [toElements]
  | cons s elements ih =>
    rw [toElements, ih]
    simp only [List.mem_cons, exists_eq_or_imp, or_assoc, or_left_comm]

/-- An array of tables is ordered if what each of its sections comes to is. -/
theorem ordered_tables_iff {elements : List Section} :
    (Item.tables elements).toValue.Ordered ↔ ∀ s ∈ elements, Ordered s := by
  constructor
  · intro h s hs
    exact h.item (mem_toElements.2 (Or.inl ⟨s, hs, rfl⟩))
  · intro h
    refine Value.ordered_array fun v hv => ?_
    rcases mem_toElements.1 hv with ⟨s, hs, rfl⟩ | hv
    · exact h s hs
    · exact absurd hv List.not_mem_nil

/-- What is found in an ordered section comes to an ordered value. -/
theorem Ordered.lookup {s : Section} (h : Ordered s) {key : String} {item : Item}
    (hitem : s.lookup key = some item) : item.toValue.Ordered :=
  (Value.ordered_table_iff.1 h).2 _ (mem_toEntries_of_lookup hitem)

/-- An ordered section stays so when an item is put in its place that comes to an ordered value. -/
theorem Ordered.place {s : Section} (h : Ordered s) (key : String) {item : Item}
    (hitem : item.toValue.Ordered) : Ordered (Keyed.place key item s) := by
  obtain ⟨hascending, hentries⟩ := Value.ordered_table_iff.1 h
  rw [Ordered, toEntries_place]
  refine Value.ordered_table_iff.2 ⟨Keyed.ascending_place hascending key _, fun e he => ?_⟩
  -- an entry is the new one or was there before
  rcases Keyed.mem_place he with rfl | he
  · exact hitem
  · exact hentries e he

/-- The last element of an array of tables is exchanged. -/
theorem Ordered.exchange {s : Section} (h : Ordered s) {key : String} {last : Section}
    {before : List Section} (hitem : s.lookup key = some (.tables (last :: before))) {last' : Section}
    (hlast : Ordered last → Ordered last') :
    Ordered (Keyed.place key (.tables (last' :: before)) s) := by
  have helements := ordered_tables_iff.1 (h.lookup hitem)
  refine h.place key (ordered_tables_iff.2 fun t ht => ?_)
  rcases List.mem_cons.1 ht with rfl | ht
  · exact hlast (helements _ List.mem_cons_self)
  · exact helements t (List.mem_cons_of_mem _ ht)

/-- An assignment keeps the order.  The cases are those of the function: at the end of the path a value is
    put in its place, on the way a table is made, entered, or entered as the last element of an array. -/
theorem ordered_assign {path : List String} {v : Value} (hv : v.Ordered) {s s' : Section} (hs : Ordered s)
    (h : assign path v s = some s') : Ordered s' := by
  fun_induction assign path v s generalizing s' with
  | case1 => cases h
  | case2 key v s hnone =>
    cases h
    exact hs.place key hv
  | case3 => cases h
  | case4 key path v s _ hnone ih =>
    obtain ⟨sub, hsub, rfl⟩ := Option.map_eq_some_iff.1 h
    exact hs.place key (ih hv ordered_nil hsub)
  | case5 => cases h
  | case6 key path v s _ origin sub hitem _ ih =>
    obtain ⟨sub', hsub, rfl⟩ := Option.map_eq_some_iff.1 h
    exact hs.place key (ih hv (hs.lookup hitem) hsub)
  | case7 => cases h
  | case8 key path v s _ last before hitem _ ih =>
    obtain ⟨last', hlast, rfl⟩ := Option.map_eq_some_iff.1 h
    exact hs.exchange hitem fun hordered => ih hv hordered hlast
  | case9 => cases h

/-- A change that keeps the order of every section keeps it also at the end of a path, through new tables,
    known ones and the last elements of arrays. -/
theorem ordered_descend {change : Section → Option Section}
    (hchange : ∀ s s', Ordered s → change s = some s' → Ordered s') {path : List String} {s s' : Section}
    (hs : Ordered s) (h : descend change path s = some s') : Ordered s' := by
  fun_induction descend change path s generalizing s' with
  | case1 s => exact hchange s s' hs h
  | case2 key path s hnone ih =>
    obtain ⟨sub, hsub, rfl⟩ := Option.map_eq_some_iff.1 h
    exact hs.place key (ih ordered_nil hsub)
  | case3 key path s origin sub hitem ih =>
    obtain ⟨sub', hsub, rfl⟩ := Option.map_eq_some_iff.1 h
    exact hs.place key (ih (hs.lookup hitem) hsub)
  | case4 key path s last before hitem ih =>
    obtain ⟨last', hlast, rfl⟩ := Option.map_eq_some_iff.1 h
    exact hs.exchange hitem fun hordered => ih hordered hlast
  | case5 => cases h

/-- The head of a table makes an empty table or goes on with the one that the lines so far have implied. -/
theorem ordered_openTable {key : String} {s s' : Section} (hs : Ordered s)
    (h : openTable key s = some s') : Ordered s' := by
  unfold openTable at h
  split at h
  · cases h
    exact hs.place key ordered_nil
  · next sub hitem =>
    cases h
    have hsub : Ordered sub := hs.lookup hitem
    exact hs.place key hsub
  · cases h

/-- The head of an element puts an empty table behind those that are there. -/
theorem ordered_openElement {key : String} {s s' : Section} (hs : Ordered s)
    (h : openElement key s = some s') : Ordered s' := by
  unfold openElement at h
  split at h
  · cases h
    refine hs.place key (ordered_tables_iff.2 fun t ht => ?_)
    obtain rfl := List.mem_singleton.1 ht
    exact ordered_nil
  · next elements hitem =>
    cases h
    refine hs.place key (ordered_tables_iff.2 fun t ht => ?_)
    rcases List.mem_cons.1 ht with rfl | ht
    · exact ordered_nil
    · exact ordered_tables_iff.1 (hs.lookup hitem) t ht
  · cases h

end Section

/-! ## Words

  A word that is not a string is a truth value, a date or a number, and none of these holds another value.
-/

namespace Numbers

/-- A decimal becomes a number or is out of range, and neither holds anything. -/
theorem plain_nearestFloat (negative : Bool) (ds : List Char) (k : Int) :
    (nearestFloat negative ds k).Plain := by
  unfold nearestFloat
  split <;> exact trivial

/-- What is read as a decimal holds no other value, with a point, with a power, or with both. -/
theorem plain_float? {negative : Bool} {s : List Char} {v : Value} (h : float? negative s = some v) :
    v.Plain := by
  obtain ⟨whole, -, h⟩ := Option.bind_eq_some_iff.1 h
  split at h
  · obtain ⟨fraction, -, h⟩ := Option.bind_eq_some_iff.1 h
    obtain ⟨k, -, h⟩ := Option.bind_eq_some_iff.1 h
    cases h
    exact plain_nearestFloat _ _ _
  · obtain ⟨k, -, h⟩ := Option.bind_eq_some_iff.1 h
    cases h
    exact plain_nearestFloat _ _ _

/-- What is read as an integer holds no other value, also when it is too large for any type. -/
theorem plain_integer? {negative : Bool} {s : List Char} {v : Value} (h : integer? negative s = some v) :
    v.Plain := by
  unfold integer? at h
  cases hgrouped : isGrouped s with
  | false =>
    rw [hgrouped] at h
    cases h
  | true =>
    rw [hgrouped] at h
    simp only [Bool.not_true, Bool.false_eq_true, if_false] at h
    obtain ⟨text, -, h⟩ := Option.bind_eq_some_iff.1 h
    split at h
    · cases h
    · cases h
    · split at h
      · cases h
        exact trivial
      · cases h
        exact trivial

/-- What is read behind a sign holds no other value. -/
theorem plain_unsigned? {negative : Bool} {s : List Char} {v : Value} (h : unsigned? negative s = some v) :
    v.Plain := by
  unfold unsigned? at h
  split at h
  · exact plain_float? h
  · exact plain_integer? h

/-- The value of a number literal is a number. -/
theorem plain_read? {s : List Char} {v : Value} (h : read? s = some v) : v.Plain := by
  unfold read? at h
  split at h
  · -- a prefix decides the base, and such a number has no sign
    split at h
    · obtain ⟨ds, -, rfl⟩ := Option.map_eq_some_iff.1 h
      split <;> exact trivial
    · exact plain_unsigned? h
  · -- behind the sign stand the two names, or a number
    generalize Binary64.takeSign s = signed at h
    obtain ⟨negative, r⟩ := signed
    dsimp only at h
    split at h
    · cases h
      exact trivial
    · split at h
      · cases h
        exact trivial
      · exact plain_unsigned? h

end Numbers

namespace Document

/-- What is read as a word holds no other value. -/
theorem plain_wordValue? {word : List Char} {v : Value} (h : wordValue? word = some v) : v.Plain := by
  unfold wordValue? at h
  split at h
  · cases h
    exact trivial
  · split at h
    · cases h
      exact trivial
    · split at h
      · cases h
        exact trivial
      · exact Numbers.plain_read? h

/-! ## Values

  The functions that read values call each other, with less fuel each time.  So all of them are treated at
  once, by induction on the fuel, and an inline table is the one place where keys are put together. -/

/-- What each of the functions that read values gives, with so much fuel: values that are ordered, and
    fields of a table that is. -/
structure ReadsOrdered (fuel : Nat) : Prop where
  value : ∀ {depth s v r}, value? fuel depth s = some (v, r) → v.Ordered
  items : ∀ {depth s vs r}, items? fuel depth s = some (vs, r) → ∀ v ∈ vs, v.Ordered
  fields : ∀ {depth es s es' r}, Section.Ordered es → fields? fuel depth es s = some (es', r) →
    Section.Ordered es'

/-- With one more call a value is ordered: strings and words hold no other, and the items and fields are
    read with the calls that were left. -/
theorem ReadsOrdered.value_succ {fuel : Nat} (ih : ReadsOrdered fuel) {depth : Nat} {s r : List Char}
    {v : Value} (h : value? (fuel + 1) depth s = some (v, r)) : v.Ordered := by
  rw [value?.eq_def] at h
  dsimp only at h
  split at h
  · obtain ⟨⟨text, rest⟩, -, heq⟩ := Option.map_eq_some_iff.1 h
    obtain ⟨rfl, -⟩ := Prod.mk.inj heq
    exact Value.Plain.ordered trivial
  · obtain ⟨⟨text, rest⟩, -, heq⟩ := Option.map_eq_some_iff.1 h
    obtain ⟨rfl, -⟩ := Prod.mk.inj heq
    exact Value.Plain.ordered trivial
  · split at h
    · cases h
    · obtain ⟨⟨vs, rest⟩, hitems, heq⟩ := Option.map_eq_some_iff.1 h
      obtain ⟨rfl, -⟩ := Prod.mk.inj heq
      exact Value.ordered_array (ih.items hitems)
  · split at h
    · cases h
    · obtain ⟨⟨es, rest⟩, hfields, heq⟩ := Option.map_eq_some_iff.1 h
      obtain ⟨rfl, -⟩ := Prod.mk.inj heq
      exact ih.fields Section.ordered_nil hfields
  · obtain ⟨word, hword, heq⟩ := Option.map_eq_some_iff.1 h
    obtain ⟨rfl, -⟩ := Prod.mk.inj heq
    exact (plain_wordValue? hword).ordered

/-- With one more call the items are ordered: the first is, and so are the others. -/
theorem ReadsOrdered.items_succ {fuel : Nat} (ih : ReadsOrdered fuel) {depth : Nat} {s r : List Char}
    {vs : List Value} (h : items? (fuel + 1) depth s = some (vs, r)) : ∀ v ∈ vs, v.Ordered := by
  rw [items?.eq_def] at h
  dsimp only at h
  split at h
  · cases h
    exact fun _ hv => absurd hv List.not_mem_nil
  · obtain ⟨⟨first, rest⟩, hfirst, h⟩ := Option.bind_eq_some_iff.1 h
    have hordered := ih.value hfirst
    dsimp only at h
    split at h
    · cases h
      intro v hv
      obtain rfl := List.mem_singleton.1 hv
      exact hordered
    · obtain ⟨⟨others, rest'⟩, hothers, h⟩ := Option.bind_eq_some_iff.1 h
      cases h
      intro v hv
      rcases List.mem_cons.1 hv with rfl | hv
      · exact hordered
      · exact ih.items hothers v hv
    · cases h

/-- With one more call the fields are those of an ordered table: one assignment keeps the order, and so do
    the others behind it. -/
theorem ReadsOrdered.fields_succ {fuel : Nat} (ih : ReadsOrdered fuel) {depth : Nat} {s r : List Char}
    {es es' : Section} (hes : Section.Ordered es) (h : fields? (fuel + 1) depth es s = some (es', r)) :
    Section.Ordered es' := by
  rw [fields?.eq_def] at h
  dsimp only at h
  split at h
  · cases h
    exact hes
  · obtain ⟨⟨path, rest⟩, -, h⟩ := Option.bind_eq_some_iff.1 h
    dsimp only at h
    split at h
    · obtain ⟨⟨v, rest'⟩, hvalue, h⟩ := Option.bind_eq_some_iff.1 h
      obtain ⟨assigned, hassign, h⟩ := Option.bind_eq_some_iff.1 h
      have hordered := Section.ordered_assign (ih.value hvalue) hes hassign
      dsimp only at h
      split at h
      · cases h
        exact hordered
      · exact ih.fields hordered h
      · cases h
    · cases h

/-- The three functions call each other, each time with one call less, so one induction is for all of them.
    -/
theorem readsOrdered (fuel : Nat) : ReadsOrdered fuel := by
  induction fuel with
  | zero =>
    constructor
    · intro depth s v r h
      rw [value?] at h
      cases h
    · intro depth s vs r h
      rw [items?] at h
      cases h
    · intro depth es s es' r _ h
      rw [fields?] at h
      cases h
  | succ fuel ih => exact ⟨ih.value_succ, ih.items_succ, ih.fields_succ⟩

/-! ## Lines

  The state between two lines is the table of the whole document and the path of the section that is open.
  A head changes the table at that path and a line with a value below it, in both cases by what was shown to
  keep the order. -/

/-- The head of a section keeps the order of the document. -/
theorem ordered_openSection {st st' : State} {isElement : Bool} {path : List String}
    (hst : Section.Ordered st.root) (h : st.openSection isElement path = some st') :
    Section.Ordered st'.root := by
  obtain ⟨key, -, h⟩ := Option.bind_eq_some_iff.1 h
  obtain ⟨root, hroot, h⟩ := Option.bind_eq_some_iff.1 h
  cases h
  refine Section.ordered_descend (fun s s' hs hchange => ?_) hst hroot
  cases isElement with
  | true => exact Section.ordered_openElement hs hchange
  | false => exact Section.ordered_openTable hs hchange

/-- The value of a line is ordered. -/
theorem ordered_assignment? {s r : List Char} {path : List String} {v : Value}
    (h : assignment? s = some (path, v, r)) : v.Ordered := by
  obtain ⟨⟨found, rest⟩, -, h⟩ := Option.bind_eq_some_iff.1 h
  dsimp only at h
  split at h
  · obtain ⟨⟨w, rest'⟩, hvalue, h⟩ := Option.bind_eq_some_iff.1 h
    cases h
    exact (readsOrdered _).value hvalue
  · cases h

/-- Each line keeps the order of the document, whether it is blank, a head or an assignment. -/
theorem ordered_line? {st st' : State} {s rest : List Char} (hst : Section.Ordered st.root)
    (h : line? st s = some (st', rest)) : Section.Ordered st'.root := by
  unfold line? at h
  split at h
  · cases h
    exact hst
  · split at h
    · obtain ⟨⟨isElement, path, r⟩, -, h⟩ := Option.bind_eq_some_iff.1 h
      obtain ⟨behind, -, h⟩ := Option.bind_eq_some_iff.1 h
      obtain ⟨opened, hopened, h⟩ := Option.bind_eq_some_iff.1 h
      cases h
      exact ordered_openSection hst hopened
    · obtain ⟨⟨path, v, r⟩, hassignment, h⟩ := Option.bind_eq_some_iff.1 h
      obtain ⟨behind, -, h⟩ := Option.bind_eq_some_iff.1 h
      obtain ⟨root, hroot, h⟩ := Option.bind_eq_some_iff.1 h
      cases h
      have hv : v.Ordered := ordered_assignment? hassignment
      exact Section.ordered_descend (fun _ _ hs => Section.ordered_assign hv hs) hst hroot

/-- All lines keep the order of the document, by induction on the lines that are left. -/
theorem ordered_lines? {fuel : Nat} {st st' : State} {s : List Char} (hst : Section.Ordered st.root)
    (h : lines? fuel st s = some st') : Section.Ordered st'.root := by
  fun_induction lines? fuel st s with
  | case1 =>
    cases h
    exact hst
  | case2 => cases h
  | case3 fuel st s _ ih =>
    obtain ⟨⟨next, rest⟩, hline, h⟩ := Option.bind_eq_some_iff.1 h
    exact ih next rest (ordered_line? hst hline) h

/-- **Documents are ordered.**  In what is read of a text, the keys of every table are in ascending order,
    and so are those of the document. -/
theorem ordered_of_read? {text : List Char} {document : List (String × Value)}
    (h : read? text = some document) : (Value.table document).Ordered := by
  obtain ⟨st, hlines, rfl⟩ := Option.map_eq_some_iff.1 h
  exact ordered_lines? Section.ordered_nil hlines

end Document
end BenchSweep.Toml
