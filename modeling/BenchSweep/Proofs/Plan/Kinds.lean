/-
  Kinds of values, and what values say.

  A reader takes a value if it is of a certain kind, and what it gives is what the value says; for each reader
  both are named here.  A structure is read entry by entry, each of which sets the field of its key and no
  other.

  1. **One value.**  Readers of words, texts, flags and paths, and of arrays of them; what is passed over
     (`passOver_eq_ok_iff`) is a value whose numbers can all be held.

  2. **All entries.**  Whether an entry is taken depends on its key and value alone, so all are taken exactly
     if each is (`exists_foldlM_eq_ok_iff`); and by induction on the entries a field is what its key is found
     to say (`given_foldlM`).  No key may be there twice for that.

  3. **Items.**  A structure that is given as an array has the names of its fields for keys
     (`Kinds.admits_zip_iff`).
-/
import BenchSweep.Plan.Shape
import BenchSweep.Proofs.Plan.RoundTrip
import BenchSweep.Proofs.Toml.Ordered
import BenchSweep.Proofs.Walks

namespace BenchSweep.Plan.Shape

open Toml (Value)

/-! ## Kinds of values

  What a reader takes.  A kind is a property of one value of the document and says nothing of what is made
  of it; the kinds of the fields of a structure stand with the fields' names. -/

/-- An integer that a word of 32 bits holds. -/
def IsWord (v : Value) : Prop := ∃ n : Int, v = .integer n ∧ 0 ≤ n ∧ n < capacity 32

/-- A string of any kind: quoted either way, on one line or on many. -/
def IsText (v : Value) : Prop := ∃ s, v = .string s

/-- Either of the two truth values. -/
def IsFlag (v : Value) : Prop := ∃ b, v = .boolean b

/-- An array of items of one kind. -/
def IsList (kind : Value → Prop) (v : Value) : Prop := ∃ items, v = .array items ∧ ∀ item ∈ items, kind item

/-- A table whose values are of one kind. -/
def IsTable (kind : Value → Prop) (v : Value) : Prop := ∃ es, v = .table es ∧ ∀ e ∈ es, kind e.2

/-- Every number in a value, however deep, is one that can be held. -/
def Fits (v : Value) : Prop :=
  (∀ n, Value.Occurs (.integer n) v → -capacity 127 ≤ n ∧ n < capacity 128) ∧
    ∀ kind, ¬ Value.Occurs (.overflowing kind) v

/-- The names of the fields of a structure and their kinds, in the order of the type. -/
abbrev Kinds := List (String × (Value → Prop))

/-- An entry under the name of a field is of its kind; under any other key it is passed over. -/
def Kinds.Admits (kinds : Kinds) (e : String × Value) : Prop := ((kinds.lookup e.1).getD Fits) e.2

/-- The items of an array are of the kinds of the fields, one after the other, as far as both go. -/
def Kinds.AdmitsItems (kinds : Kinds) (items : List Value) : Prop := ∀ p ∈ kinds.zip items, p.1.2 p.2

/-! ## What values say

  What a reader gives.  Each of these relates a value to what it stands for, without a word on how it is
  read, so the two can be compared with a description that was written for a person. -/

/-- The text is that of the value, character by character. -/
def TextOf (v : Value) (s : String) : Prop := v = .string s

/-- The number is that of the value, as it is. -/
def WordOf (v : Value) (n : UInt32) : Prop := v = .integer n.toNat

/-- The flag is that of the value. -/
def FlagOf (v : Value) (b : Bool) : Prop := v = .boolean b

/-- A path has the bytes of the text. -/
def PathOf (v : Value) (p : Path) : Prop := ∃ s, v = .string s ∧ p = .ofString s

/-- A list has an item for each item of the array, in its order. -/
def ListOf {α : Type} (means : Value → α → Prop) (v : Value) (xs : List α) : Prop :=
  ∃ items, v = .array items ∧ List.Forall₂ means items xs

/-- What a field is when its key is found to stand for a value, or is not found. -/
def Given {β : Type} (means : Value → β → Prop) (usual : β) : Option Value → β → Prop
  | none, b => b = usual
  | some v, b => means v b

/-- What a field is that has no usual value. -/
def Found {β : Type} (means : Value → β → Prop) (found : Option Value) (b : β) : Prop :=
  ∃ v, found = some v ∧ means v b

/-! ## One meaning

  A value stands for one thing at most.  With this the plan that a document describes is the one that is
  read from it, and no other. -/

section

open Relator (RightUnique)

variable {β : Type} {means : Value → β → Prop}

/-- A value stands for one text at most. -/
theorem rightUnique_textOf : RightUnique TextOf := fun _ _ _ h h' => Value.string.inj (h.symm.trans h')

/-- A value stands for one word at most, for different words are different numbers. -/
theorem rightUnique_wordOf : RightUnique WordOf := fun _ _ _ h h' =>
  UInt32.toNat_inj.1 (Int.ofNat_inj.1 (Value.integer.inj (h.symm.trans h')))

/-- A value stands for one flag at most. -/
theorem rightUnique_flagOf : RightUnique FlagOf := fun _ _ _ h h' => Value.boolean.inj (h.symm.trans h')

/-- A value stands for one path at most, as the bytes of a text are given by the text. -/
theorem rightUnique_pathOf : RightUnique PathOf := by
  rintro v p q ⟨s, rfl, rfl⟩ ⟨t, ht, rfl⟩
  cases ht
  rfl

/-- A value stands for one list at most if each item stands for one thing at most. -/
theorem rightUnique_listOf (h : RightUnique means) : RightUnique (ListOf means) := by
  rintro v xs ys ⟨items, rfl, hxs⟩ ⟨others, hothers, hys⟩
  cases hothers
  exact Relator.RightUnique.forall₂ h hxs hys

/-- A field has one value at most, found or not. -/
theorem Given.unique (h : RightUnique means) {usual a b : β} {found : Option Value}
    (ha : Given means usual found a) (hb : Given means usual found b) : a = b := by
  cases found with
  | none =>
    obtain rfl : a = usual := ha
    exact hb.symm
  | some v => exact h ha hb

/-- A field without a usual value has one value at most. -/
theorem Found.unique (h : RightUnique means) {a b : β} {found : Option Value} (ha : Found means found a)
    (hb : Found means found b) : a = b := by
  obtain ⟨v, rfl, ha⟩ := ha
  obtain ⟨w, hw, hb⟩ := hb
  cases hw
  exact h ha hb

end

/-! ## Single values

  For each reader of one value: what it gives (`…_eq_ok_iff`) and what it takes (`exists_…_iff`).  In both
  the value is split into its kinds, of which all but one are refused. -/

/-- A text is read from a string and is the whole of it. -/
theorem text_eq_ok_iff {v : Value} {s : String} : text v = .ok s ↔ TextOf v s := by
  cases v with
  | string t =>
    rw [text, TextOf, Except.ok.injEq, Value.string.injEq]
  | _ => constructor <;> intro h <;> cases h

/-- A flag is read from a truth value and is that value. -/
theorem flag_eq_ok_iff {v : Value} {b : Bool} : flag v = .ok b ↔ FlagOf v b := by
  cases v with
  | boolean c => rw [flag, FlagOf, Except.ok.injEq, Value.boolean.injEq]
  | _ => constructor <;> intro h <;> cases h

/-- A path is read from a string and is given by its bytes, which nothing is done to. -/
theorem path_eq_ok_iff {v : Value} {p : Path} : path v = .ok p ↔ PathOf v p := by
  cases v with
  | string s =>
    constructor
    · intro h
      exact ⟨s, rfl, (Except.ok.inj h).symm⟩
    · rintro ⟨t, ht, rfl⟩
      cases ht
      rfl
  | _ =>
    constructor
    · intro h
      cases h
    · rintro ⟨t, ht, -⟩
      cases ht

/-- A word is read from an integer and is the same number, not what is left of it in 32 bits. -/
theorem word_eq_ok_iff {v : Value} {n : UInt32} : word v = .ok n ↔ WordOf v n := by
  constructor
  · intro h
    unfold word at h
    split at h
    · next m =>
      split at h
      · next hrange =>
        obtain rfl := Except.ok.inj h
        -- the number is below the size of a word, so as a word it is still that number
        have hlt : m.toNat < UInt32.size := by omega
        rw [WordOf, UInt32.toNat_ofNat_of_lt' hlt, Int.toNat_of_nonneg hrange.1]
      · split at h <;> cases h
    · cases h
  · rintro rfl
    exact word_wordValue n

/-- A word is read from an integer that fits, and from nothing else. -/
theorem exists_word_iff {v : Value} : (∃ n, word v = .ok n) ↔ IsWord v := by
  have hsize : capacity 32 = UInt32.size := rfl
  unfold IsWord
  simp only [word_eq_ok_iff, hsize]
  constructor
  · rintro ⟨n, rfl⟩
    exact ⟨n.toNat, rfl, Int.natCast_nonneg _, Int.ofNat_lt.2 n.toNat_lt_size⟩
  · rintro ⟨n, rfl, hnonneg, hlt⟩
    -- a number in the range is given back by the word that is made of it
    have htoNat : n.toNat < UInt32.size := by omega
    refine ⟨UInt32.ofNat n.toNat, ?_⟩
    rw [WordOf, UInt32.toNat_ofNat_of_lt' htoNat, Int.toNat_of_nonneg hnonneg]

/-- A text is read from a string, and from nothing else. -/
theorem exists_text_iff {v : Value} : (∃ s, text v = .ok s) ↔ IsText v := by
  simp only [text_eq_ok_iff, IsText, TextOf]

/-- A flag is read from a truth value, and from nothing else. -/
theorem exists_flag_iff {v : Value} : (∃ b, flag v = .ok b) ↔ IsFlag v := by
  simp only [flag_eq_ok_iff, IsFlag, FlagOf]

/-- A path is read from any string: the reader knows no path that is malformed. -/
theorem exists_path_iff {v : Value} : (∃ p, path v = .ok p) ↔ IsText v := by
  simp only [path_eq_ok_iff, PathOf, IsText]
  exact ⟨fun ⟨_, s, h, _⟩ => ⟨s, h⟩, fun ⟨s, h⟩ => ⟨.ofString s, s, h, rfl⟩⟩

/-! ## Lists

  The readers of arrays differ in the reader of their items and in the field that they set.  Both are
  parameters here, so that each of them is an instance of what follows. -/

variable {α δ : Type} {read : Value → Except Fault α}

/-- What the reader of an array gives is made of a list with an item for each item of the array. -/
theorem items_eq_ok_iff {set : List α → δ} {v : Value} {d : δ} :
    (list v >>= fun items => items.mapM read >>= fun xs => pure (set xs)) = .ok d ↔
      ∃ xs, ListOf (fun w x => read w = .ok x) v xs ∧ set xs = d := by
  simp only [bind_eq_ok_iff, mapM_eq_ok_iff]
  constructor
  · rintro ⟨items, hitems, xs, hall, hd⟩
    obtain rfl := Except.ok.inj hd
    cases v with
    | array others =>
      obtain rfl : others = items := Except.ok.inj hitems
      exact ⟨xs, ⟨others, rfl, hall⟩, rfl⟩
    | _ => cases hitems
  · rintro ⟨xs, ⟨items, rfl, hall⟩, rfl⟩
    exact ⟨items, rfl, xs, hall, rfl⟩

/-- An array is taken if all of its items are, which the reader of items has to say for the items of this
    array only. -/
theorem exists_items_iff {set : List α → δ} {kind : Value → Prop} {v : Value}
    (h : ∀ items, v = .array items → ∀ w ∈ items, (∃ x, read w = .ok x) ↔ kind w) :
    (∃ d, (list v >>= fun items => items.mapM read >>= fun xs => pure (set xs)) = .ok d) ↔
      IsList kind v := by
  simp only [bind_eq_ok_iff]
  constructor
  · rintro ⟨d, items, hitems, xs, hxs, -⟩
    cases v with
    | array others =>
      obtain rfl : others = items := Except.ok.inj hitems
      have hall := exists_mapM_eq_ok_iff.1 ⟨xs, hxs⟩
      exact ⟨others, rfl, fun w hw => (h others rfl w hw).1 (hall w hw)⟩
    | _ => cases hitems
  · rintro ⟨items, rfl, hall⟩
    obtain ⟨xs, hxs⟩ := exists_mapM_eq_ok_iff.2 fun w hw => (h items rfl w hw).2 (hall w hw)
    exact ⟨set xs, items, rfl, xs, hxs, rfl⟩

/-- What the items stand for may be said in other words if the words agree on the items of this array. -/
theorem ListOf.imp {means means' : Value → α → Prop} {v : Value} {xs : List α} (h : ListOf means v xs)
    (good : Value → Prop) (hgood : ∀ items, v = .array items → ∀ w ∈ items, good w)
    (himp : ∀ w x, good w → means w x → means' w x) : ListOf means' v xs := by
  obtain ⟨items, hitems, hall⟩ := h
  have hboth := (List.forall₂_and_left _ _).2 ⟨hgood items hitems, hall⟩
  exact ⟨items, hitems, hboth.imp fun {w x} hw => himp w x hw.1 hw.2⟩

/-- What a field stands for may be said in other words if the words agree on the value that was found. -/
theorem Found.imp {β : Type} {means means' : Value → β → Prop} {found : Option Value} {b : β}
    (h : Found means found b) (himp : ∀ v, found = some v → means v b → means' v b) :
    Found means' found b := by
  obtain ⟨v, hv, hb⟩ := h
  exact ⟨v, hv, himp v hv hb⟩

/-! ## What is passed over

  A key that no field has is passed over with all that stands under it, yet its numbers are read.  So a
  value is passed over exactly if each number in it, however deep, is one that the reader can hold. -/

/-- The numbers of an array are those of its items. -/
theorem fits_array_iff {items : List Value} : Fits (.array items) ↔ ∀ v ∈ items, Fits v := by
  constructor
  · rintro ⟨hintegers, hnumbers⟩ v hv
    exact ⟨fun n ho => hintegers n (.item hv ho), fun kind ho => hnumbers kind (.item hv ho)⟩
  · intro h
    constructor
    · intro n ho
      cases ho with
      | item hv ho => exact (h _ hv).1 n ho
    · intro kind ho
      cases ho with
      | item hv ho => exact (h _ hv).2 kind ho

/-- The numbers of a table are those of the values in it; its keys have none. -/
theorem fits_table_iff {es : List (String × Value)} : Fits (.table es) ↔ ∀ e ∈ es, Fits e.2 := by
  constructor
  · rintro ⟨hintegers, hnumbers⟩ e he
    exact ⟨fun n ho => hintegers n (.entry he ho), fun kind ho => hnumbers kind (.entry he ho)⟩
  · intro h
    constructor
    · intro n ho
      cases ho with
      | entry he ho => exact (h _ he).1 n ho
    · intro kind ho
      cases ho with
      | entry he ho => exact (h _ he).2 kind ho

/-- An integer fits if a word of 128 bits holds it, with a sign or without one. -/
theorem fits_integer_iff {n : Int} : Fits (.integer n) ↔ -capacity 127 ≤ n ∧ n < capacity 128 := by
  constructor
  · intro h
    exact h.1 n .self
  · intro h
    constructor
    · intro m ho
      cases ho
      exact h
    · intro kind ho
      cases ho

/-- The test of the reader is the range in words. -/
theorem fits128_iff {n : Int} : fits128 n = true ↔ -capacity 127 ≤ n ∧ n < capacity 128 := by
  rw [fits128, Bool.and_eq_true, decide_eq_true_iff, decide_eq_true_iff]

mutual

/-- A value is passed over if its numbers fit.  The induction is that of the reader, on the value with its
    items and entries. -/
theorem passOver_eq_ok_iff : ∀ v : Value, passOver v = .ok () ↔ Fits v
  | .integer n => by
    rw [passOver, fits_integer_iff, ← fits128_iff]
    cases fits128 n with
    | true => exact ⟨fun _ => rfl, fun _ => rfl⟩
    | false => constructor <;> intro h <;> cases h
  | .overflowing kind => by
    rw [passOver]
    constructor
    · intro h
      cases h
    · intro h
      exact absurd .self (h.2 kind)
  | .array items => by rw [passOver, fits_array_iff, passOverItems_eq_ok_iff items]
  | .table es => by rw [passOver, fits_table_iff, passOverEntries_eq_ok_iff es]
  | .string _ | .float _ | .boolean _ | .date _ => by
    -- no number stands in any of these
    constructor
    · intro _
      constructor
      · intro n ho
        cases ho
      · intro kind ho
        cases ho
    · intro _
      rfl

/-- The items of an array are passed over if the numbers of each fit. -/
theorem passOverItems_eq_ok_iff : ∀ items : List Value, passOverItems items = .ok () ↔ ∀ v ∈ items, Fits v
  | [] => ⟨fun _ _ hv => absurd hv List.not_mem_nil, fun _ => by rw [passOverItems]⟩
  | v :: items => by
    rw [passOverItems, List.forall_mem_cons, ← passOver_eq_ok_iff v, ← passOverItems_eq_ok_iff items,
      bind_eq_ok_iff]
    exact ⟨fun ⟨_, hv, hitems⟩ => ⟨hv, hitems⟩, fun ⟨hv, hitems⟩ => ⟨(), hv, hitems⟩⟩

/-- The entries of a table are passed over if the numbers in each value fit. -/
theorem passOverEntries_eq_ok_iff :
    ∀ es : List (String × Value), passOverEntries es = .ok () ↔ ∀ e ∈ es, Fits e.2
  | [] => ⟨fun _ _ he => absurd he List.not_mem_nil, fun _ => by rw [passOverEntries]⟩
  | (key, v) :: es => by
    rw [passOverEntries, List.forall_mem_cons, ← passOver_eq_ok_iff v, ← passOverEntries_eq_ok_iff es,
      bind_eq_ok_iff]
    exact ⟨fun ⟨_, hv, hes⟩ => ⟨hv, hes⟩, fun ⟨hv, hes⟩ => ⟨(), hv, hes⟩⟩

end

/-- Nothing is given for what is passed over, so to be taken is all that there is to say. -/
theorem exists_passOver_iff {v : Value} : (∃ u, passOver v = .ok u) ↔ Fits v := by
  rw [← passOver_eq_ok_iff]
  exact ⟨fun ⟨_, h⟩ => h, fun h => ⟨(), h⟩⟩

/-! ## Entries one after the other

  A structure is read by a walk along the entries, which carries the fields that were set so far.  What one
  entry does is said by `Given` for a table of this entry alone; the walk adds up such steps. -/

section

variable {β : Type} {means : Value → β → Prop}

/-- In a table of one entry a field is what the entry says if it is the field's own, and else as before. -/
theorem given_singleton_iff {a b : β} {key name : String} {v : Value} :
    Given means a ([(key, v)].lookup name) b ↔ if key = name then means v b else b = a := by
  rw [Keyed.lookup_cons_eq_ite]
  by_cases hkey : key = name
  · rw [if_pos hkey, if_pos hkey.symm]
    exact Iff.rfl
  · rw [if_neg hkey, if_neg (Ne.symm hkey)]
    exact Iff.rfl

/-- A field that one entry sets, if it is the field's own, and that the others leave as it is. -/
theorem Given.cons {a b c : β} {name : String} {e : String × Value} {es : List (String × Value)}
    (he : Given means a ([e].lookup name) b) (hes : Given means b (es.lookup name) c)
    (hnone : es.lookup e.1 = none) : Given means a ((e :: es).lookup name) c := by
  obtain ⟨key, v⟩ := e
  rw [given_singleton_iff] at he
  rw [Keyed.lookup_cons_eq_ite]
  split at he
  · next hkey =>
    -- the field's own entry: none behind it has this key again, so the rest leaves the field alone
    rw [← hkey, hnone] at hes
    obtain rfl : c = b := hes
    rw [if_pos hkey.symm]
    exact he
  · next hkey =>
    -- another entry: the field is as it was before it
    subst he
    rw [if_neg (Ne.symm hkey)]
    exact hes

/-- When no key is there twice, a field is what its key is found to say, or is as before. -/
theorem given_foldlM {step : δ → String × Value → Except Fault δ} {name : String} {get : δ → β}
    (hstep : ∀ d e d', step d e = .ok d' → Given means (get d) ([e].lookup name) (get d'))
    {es : List (String × Value)} (hes : (es.map Prod.fst).Nodup) {d d' : δ}
    (h : es.foldlM step d = .ok d') : Given means (get d) (es.lookup name) (get d') := by
  -- on the entries, for every state of the fields that the walk may be in
  induction es generalizing d with
  | nil =>
    obtain rfl := Except.ok.inj h
    exact rfl
  | cons e es ih =>
    obtain ⟨hkey, hrest⟩ := List.nodup_cons.1 hes
    obtain ⟨next, hnext, hwalk⟩ := bind_eq_ok_iff.1 h
    exact (hstep d e next hnext).cons (ih hrest hwalk) (Keyed.lookup_eq_none_of_not_mem hkey)

/-- Whether an entry can be taken is for its value alone. -/
theorem exists_set_iff {read : Value → Except Fault β} {set : β → δ} {v : Value} :
    (∃ d, (read v >>= fun b => (pure (set b) : Except Fault δ)) = .ok d) ↔ ∃ b, read v = .ok b := by
  constructor
  · rintro ⟨d, h⟩
    obtain ⟨b, hb, -⟩ := bind_eq_ok_iff.1 h
    exact ⟨b, hb⟩
  · rintro ⟨b, hb⟩
    exact ⟨set b, bind_eq_ok_iff.2 ⟨b, hb, rfl⟩⟩

/-- A field that was set once. -/
def Once (means : Value → β → Prop) (v : Value) (b? : Option β) : Prop := ∃ b, b? = some b ∧ means v b

/-- A field that was set stands for the value under its key. -/
theorem Given.found {found : Option Value} {b? : Option β} {b : β} (h : Given (Once means) none found b?)
    (hb : b? = some b) : Found means found b := by
  cases found with
  | none =>
    obtain rfl : b? = none := h
    cases hb
  | some v =>
    obtain ⟨c, hc, hmeans⟩ := h
    cases hb.symm.trans hc
    exact ⟨v, rfl, hmeans⟩

/-- A field was set if and only if its key is there. -/
theorem Given.isSome_iff {found : Option Value} {b? : Option β} (h : Given (Once means) none found b?) :
    (∃ b, b? = some b) ↔ found.isSome = true := by
  cases found with
  | none =>
    obtain rfl : b? = none := h
    constructor
    · rintro ⟨b, hb⟩
      cases hb
    · intro hsome
      cases hsome
  | some v =>
    obtain ⟨b, hb, -⟩ := h
    exact ⟨fun _ => rfl, fun _ => ⟨b, hb⟩⟩

end

/-- A field without a usual value is required: the reader goes on if it was set, and with what it was set
    to. -/
theorem required_eq_ok_iff {α : Type} {name : String} {a? : Option α} {a : α} :
    required name a? = .ok a ↔ a? = some a := by
  cases a? with
  | none => constructor <;> intro h <;> cases h
  | some b => rw [required, Except.ok.injEq, Option.some.injEq]

/-! ## Items as fields -/

/-- What stands under a key that no field has is passed over. -/
theorem Kinds.admits_iff_fits {kinds : Kinds} {key : String} (h : key ∉ kinds.map Prod.fst) {v : Value} :
    kinds.Admits (key, v) ↔ Fits v := by
  rw [Admits, Keyed.lookup_eq_none_of_not_mem h]
  exact Iff.rfl

/-- Fields that are given by their places are admitted if the items are. -/
theorem Kinds.admits_zip_iff {kinds : Kinds} (h : (kinds.map Prod.fst).Nodup) {items : List Value} :
    (∀ e ∈ (kinds.map Prod.fst).zip items, kinds.Admits e) ↔ kinds.AdmitsItems items := by
  -- no name is there twice, so a name finds the kind that stands with it
  have hadmits : ∀ p ∈ kinds.zip items, kinds.Admits (p.1.1, p.2) ↔ p.1.2 p.2 := by
    intro p hp
    have hkind := Keyed.lookup_eq_some_of_mem h (List.of_mem_zip hp).1
    rw [Admits, hkind]
    exact Iff.rfl
  rw [List.zip_map_left, List.forall_mem_map]
  exact forall₂_congr hadmits

/-- Names that are all different stay so when there are fewer items than names, or more. -/
theorem nodup_keys_zip {keys : List String} (h : keys.Nodup) (items : List Value) :
    ((keys.zip items).map Prod.fst).Nodup := by
  have hlength : (keys.take (min keys.length items.length)).length ≤
      (items.take (min keys.length items.length)).length := by
    rw [List.length_take, List.length_take]
    omega
  -- the names that find an item are the first ones
  rw [List.zip_eq_zip_take_min, List.map_fst_zip hlength]
  exact h.sublist (List.take_sublist _ _)

end BenchSweep.Plan.Shape
