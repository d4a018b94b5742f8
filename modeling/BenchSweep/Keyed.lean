/-
  Tables with text keys, in key order.

  A `Keyed α` holds each key at most once and lists its entries in the order of the keys, which
  compare character by character (for text, the order of the UTF-8 bytes).  The order is part of the
  type, so two tables with the same entries are equal, and a walk over the entries needs no sorting.
-/

namespace BenchSweep

/-- Entries in strictly ascending order of their keys. -/
structure Keyed (α : Type) where
  /-- The keys and their values. -/
  entries : List (String × α)
  /-- Each key is below all that follow it. -/
  ascending : entries.Pairwise (fun a b => a.1 < b.1)

namespace Keyed

variable {α : Type}

instance [DecidableEq α] : DecidableEq (Keyed α) := fun s t =>
  if h : s.entries = t.entries then
    isTrue (by cases s; cases t; simp_all)
  else isFalse (fun e => h (e ▸ rfl))

instance [Repr α] : Repr (Keyed α) := ⟨fun t n => reprPrec t.entries n⟩

/-- The table without entries. -/
def empty : Keyed α := ⟨[], List.Pairwise.nil⟩

instance : Inhabited (Keyed α) := ⟨empty⟩

/-- The value that is stored under a key. -/
def get? (t : Keyed α) (key : String) : Option α := t.entries.lookup key

/-- Puts an entry in its place in ascending entries; an entry of the same key gives way. -/
def place (key : String) (value : α) : List (String × α) → List (String × α)
  | [] => [(key, value)]
  | e :: r =>
    if key < e.1 then (key, value) :: e :: r
    else if key = e.1 then (key, value) :: r
    else e :: place key value r

/-- What is in the entries afterwards was there or was put in. -/
theorem mem_place {key : String} {value : α} {es : List (String × α)} {e : String × α}
    (h : e ∈ place key value es) : e = (key, value) ∨ e ∈ es := by
  induction es with
  | nil => simpa [place] using h
  | cons a r ih =>
    rw [place] at h
    split at h
    · simpa using h
    · split at h
      · rcases List.mem_cons.1 h with h | h
        · exact .inl h
        · exact .inr (List.mem_cons_of_mem _ h)
      · rcases List.mem_cons.1 h with h | h
        · exact .inr (h ▸ List.mem_cons_self)
        · exact (ih h).imp id (List.mem_cons_of_mem _)

/-- Ascending entries stay so. -/
theorem ascending_place {es : List (String × α)} (h : es.Pairwise (fun a b => a.1 < b.1))
    (key : String) (value : α) : (place key value es).Pairwise (fun a b => a.1 < b.1) := by
  induction es with
  | nil => simp [place]
  | cons a r ih =>
    have ha := (List.pairwise_cons.1 h).1
    have hr := (List.pairwise_cons.1 h).2
    rw [place]
    split
    · next hlt =>
      refine List.pairwise_cons.2 ⟨fun e he => ?_, h⟩
      rcases List.mem_cons.1 he with rfl | he
      · exact hlt
      · exact String.lt_trans hlt (ha e he)
    · next hlt =>
      split
      · next heq => exact List.pairwise_cons.2 ⟨fun e he => heq ▸ ha e he, hr⟩
      · next hne =>
        -- the key is not below the first one and not equal to it, so it is above it
        refine List.pairwise_cons.2 ⟨fun e he => ?_, ih hr⟩
        rcases mem_place he with rfl | he
        · rcases String.le_total a.1 key with hle | hle
          · exact Std.lt_of_le_of_ne hle (fun e => hne e.symm)
          · exact absurd (Std.lt_of_le_of_ne hle hne) hlt
        · exact ha e he

/-- The table with `value` under `key`, in place of what may have been there. -/
def insert (t : Keyed α) (key : String) (value : α) : Keyed α :=
  ⟨place key value t.entries, ascending_place t.ascending key value⟩

/-- The table without `key`. -/
def erase (t : Keyed α) (key : String) : Keyed α :=
  ⟨t.entries.filter (·.1 ≠ key), t.ascending.filter _⟩

/-- The table of some entries in any order; the last one of a key counts. -/
def ofList (es : List (String × α)) : Keyed α := es.foldl (fun t e => t.insert e.1 e.2) empty

/-- Whether a key has a value. -/
def contains (t : Keyed α) (key : String) : Bool := (t.get? key).isSome

example : (ofList [("b", 1), ("a", 2), ("b", 3)]).entries = [("a", 2), ("b", 3)] := by decide

end Keyed
end BenchSweep
