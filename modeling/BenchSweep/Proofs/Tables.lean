/-
  Looking up and adding entries of tables.

  `place` puts an entry where its key belongs.  What callers need of it is said in terms of `lookup`,
  and for a key above all others in terms of the list itself: a table that is filled in ascending order
  of the keys grows at its end only.

  A table of entries in any order holds the last entry of each key (`get?_ofList`), so it is as long as
  the list exactly if no key is there twice (`length_ofList_eq_iff`).
-/
import BenchSweep.Keyed
import Mathlib.Data.List.Dedup

namespace BenchSweep
namespace Keyed

variable {α : Type}

/-! ## Looking up

  Looking up goes along the entries and stops at the first one with the key, so the facts here go by
  induction on the entries with two cases for the first. -/

/-- Looking up in front of a list asks about the first key and nothing else. -/
theorem lookup_cons_eq_ite {κ : Type} [BEq κ] [LawfulBEq κ] [DecidableEq κ] (key : κ) (e : κ × α)
    (r : List (κ × α)) :
    (e :: r).lookup key = if key = e.1 then some e.2 else r.lookup key := by
  obtain ⟨k, v⟩ := e
  by_cases hk : key = k
  · subst hk
    rw [List.lookup_cons_self, if_pos rfl]
  · rw [List.lookup_cons, beq_false_of_ne hk, if_neg hk]

/-- A key is found exactly if some entry has it. -/
theorem lookup_isSome_iff {key : String} {es : List (String × α)} :
    (es.lookup key).isSome = true ↔ ∃ value, (key, value) ∈ es := by
  induction es with
  | nil => simp [List.lookup_nil]
  | cons e r ih =>
    rw [lookup_cons_eq_ite]
    split
    · next hk => exact ⟨fun _ => ⟨e.2, by rw [hk]; exact List.mem_cons_self⟩, fun _ => rfl⟩
    · next hk =>
      rw [ih]
      constructor
      · rintro ⟨value, h⟩
        exact ⟨value, List.mem_cons_of_mem _ h⟩
      · rintro ⟨value, h⟩
        rcases List.mem_cons.1 h with h | h
        · exact absurd (congrArg Prod.fst h) hk
        · exact ⟨value, h⟩

/-- A table has a key exactly if one of its entries has it. -/
theorem contains_iff {t : Keyed α} {key : String} :
    t.contains key = true ↔ ∃ value, (key, value) ∈ t.entries :=
  lookup_isSome_iff

/-- A key that no entry has is not found. -/
theorem lookup_eq_none_of_not_mem {key : String} {es : List (String × α)} (h : key ∉ es.map Prod.fst) :
    es.lookup key = none := by
  refine Option.not_isSome_iff_eq_none.1 fun hsome => ?_
  obtain ⟨value, hmem⟩ := lookup_isSome_iff.1 hsome
  exact h (List.mem_map.2 ⟨_, hmem, rfl⟩)

/-- Where no key is there twice, looking one up finds its only value. -/
theorem lookup_eq_some_of_mem {es : List (String × α)} (h : (es.map Prod.fst).Nodup) {e : String × α}
    (he : e ∈ es) : es.lookup e.1 = some e.2 := by
  induction es with
  | nil => cases he
  | cons a r ih =>
    obtain ⟨ha, hr⟩ := List.nodup_cons.1 h
    rw [lookup_cons_eq_ite]
    rcases List.mem_cons.1 he with rfl | he
    · rw [if_pos rfl]
    · -- a later entry has another key than the first
      have hne : e.1 ≠ a.1 := fun heq => ha (heq ▸ List.mem_map.2 ⟨e, he, rfl⟩)
      rw [if_neg hne, ih hr he]

/-- Leaving out one key changes nothing for the others. -/
theorem lookup_filter_ne {key other : String} (h : other ≠ key) (es : List (String × α)) :
    (es.filter (·.1 ≠ key)).lookup other = es.lookup other := by
  induction es with
  | nil => rfl
  | cons e r ih =>
    rw [List.filter_cons, lookup_cons_eq_ite other e]
    by_cases hkey : e.1 = key
    · have hother : other ≠ e.1 := hkey ▸ h
      rw [if_neg (by simp [hkey]), if_neg hother, ih]
    · rw [if_pos (by simp [hkey]), lookup_cons_eq_ite, ih]

/-- Ascending keys are all different. -/
theorem nodup_keys_of_ascending {es : List (String × α)} (h : es.Pairwise fun a b => a.1 < b.1) :
    (es.map Prod.fst).Nodup := by
  refine List.pairwise_map.2 (h.imp fun {a b} hlt heq => ?_)
  rw [heq] at hlt
  exact String.lt_irrefl _ hlt

/-! ## Adding

  `place` walks to where the key belongs, and replaces the entry that is there already.  Its three cases are
  those of the order: below the first key, equal to it, above it. -/

/-- What was put in is found. -/
theorem lookup_place_self (key : String) (value : α) (es : List (String × α)) :
    (place key value es).lookup key = some value := by
  induction es with
  | nil => rw [place, List.lookup_cons_self]
  | cons e r ih =>
    rw [place]
    split
    · rw [List.lookup_cons_self]
    · split
      · rw [List.lookup_cons_self]
      · next hne => rw [lookup_cons_eq_ite, if_neg hne, ih]

/-- Nothing else is found differently. -/
theorem lookup_place_of_ne {key other : String} (h : other ≠ key) (value : α) (es : List (String × α)) :
    (place key value es).lookup other = es.lookup other := by
  induction es with
  | nil => rw [place, lookup_cons_eq_ite, if_neg h]
  | cons e r ih =>
    rw [place]
    split
    · rw [lookup_cons_eq_ite, if_neg h]
    · split
      · next heq =>
        -- the entry that is replaced has the key that was put in, not the other one
        have hne : other ≠ e.1 := heq ▸ h
        rw [lookup_cons_eq_ite, if_neg h, lookup_cons_eq_ite other e, if_neg hne]
      · rw [lookup_cons_eq_ite, lookup_cons_eq_ite other e, ih]

/-- The later entry of a key counts. -/
theorem place_place (key : String) (a b : α) (es : List (String × α)) :
    place key a (place key b es) = place key a es := by
  have hself : ¬ key < key := String.lt_irrefl key
  induction es with
  | nil => simp only [place, if_neg hself, if_true]
  | cons e r ih =>
    -- each of the three places is found again by the second key, which is the first one
    by_cases hlt : key < e.1
    · simp only [place, if_pos hlt, if_neg hself, if_true]
    · by_cases heq : key = e.1
      · simp only [place, if_neg hlt, if_pos heq, if_neg hself, if_true]
      · simp only [place, if_neg hlt, if_neg heq, ih]

/-- A key above all others goes to the end. -/
theorem place_of_all_lt {key : String} {es : List (String × α)} (h : ∀ e ∈ es, e.1 < key) (value : α) :
    place key value es = es ++ [(key, value)] := by
  induction es with
  | nil => rfl
  | cons e r ih =>
    have he := h e List.mem_cons_self
    have hne : key ≠ e.1 := by
      rintro rfl
      exact String.lt_irrefl _ he
    -- so at every entry the walk goes on
    have hnlt : ¬ key < e.1 := fun hlt => String.lt_irrefl key (String.lt_trans hlt he)
    rw [place, if_neg hnlt, if_neg hne, ih fun d hd => h d (List.mem_cons_of_mem e hd), List.cons_append]

/-- After an entry is put in, its key has the new value and every other key what it had. -/
theorem get?_insert (t : Keyed α) (key : String) (value : α) (other : String) :
    (t.insert key value).get? other = if other = key then some value else t.get? other := by
  rw [get?, insert]
  split
  · next heq => rw [heq, lookup_place_self]
  · next hne => rw [lookup_place_of_ne hne, get?]

/-! ## Entries in any order

  A table made of a list puts its entries in one after the other.  What is found in it is told by the list
  alone, read from the end. -/

/-- What is put in later goes before what is there. -/
theorem get?_foldl_insert (es : List (String × α)) (t : Keyed α) (key : String) :
    (es.foldl (fun t e => t.insert e.1 e.2) t).get? key = (es.reverse.lookup key).or (t.get? key) := by
  induction es generalizing t with
  | nil => rfl
  | cons e es ih =>
    rw [List.foldl_cons, ih, get?_insert, List.reverse_cons, List.lookup_append, lookup_cons_eq_ite,
      List.lookup_nil, Option.or_assoc]
    split <;> rfl

/-- Of the entries of a key, the last one is found. -/
theorem get?_ofList (es : List (String × α)) (key : String) :
    (ofList es).get? key = es.reverse.lookup key := by
  rw [ofList, get?_foldl_insert]
  exact Option.or_none

/-- The keys are those that are found. -/
theorem mem_keys_iff {es : List (String × α)} {key : String} :
    key ∈ es.map Prod.fst ↔ (es.lookup key).isSome = true := by
  simp

/-- A table has the keys of the list that it was made of. -/
theorem mem_keys_ofList_iff {es : List (String × α)} {key : String} :
    key ∈ (ofList es).entries.map Prod.fst ↔ key ∈ es.map Prod.fst := by
  rw [mem_keys_iff, ← get?, get?_ofList, ← mem_keys_iff, List.map_reverse, List.mem_reverse]

/-- No entry gives way to another one exactly if no key is there twice. -/
theorem length_ofList_eq_iff (es : List (String × α)) :
    (ofList es).entries.length = es.length ↔ (es.map Prod.fst).Nodup := by
  -- the keys of the table are those of the list, each of them once
  have hperm : ((ofList es).entries.map Prod.fst).Perm (es.map Prod.fst).dedup :=
    (List.perm_ext_iff_of_nodup (nodup_keys_of_ascending (ofList es).ascending) (List.nodup_dedup _)).2
      fun key => mem_keys_ofList_iff.trans List.mem_dedup.symm
  have hlength : (ofList es).entries.length = (es.map Prod.fst).dedup.length := by
    rw [← hperm.length_eq, List.length_map]
  rw [hlength, ← List.dedup_eq_self, ← List.length_map (f := Prod.fst)]
  exact ⟨(List.dedup_sublist _).eq_of_length, congrArg List.length⟩

end Keyed
end BenchSweep
