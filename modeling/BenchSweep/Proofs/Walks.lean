/-
  Walks over lists that may fail.

  A step that always succeeds makes of `mapM` a plain `map`, and one that fails anywhere makes the whole
  walk fail; whether a walk that carries a state succeeds depends on its steps alone, if whether these
  succeed does not depend on the state.  The rest of the library reads its walks through these facts and
  never opens `mapM`, and what stands behind a check or another step through `ite_error_eq_ok_iff` and
  `bind_eq_ok_iff`.
-/
import Mathlib.Data.List.Forall2

namespace BenchSweep

/-- Of two lists that are related item by item, everything in the second has something in the first. -/
theorem exists_of_mem_forall₂ {α β : Type} {r : α → β → Prop} {xs : List α} {ys : List β}
    (h : List.Forall₂ r xs ys) {y : β} (hy : y ∈ ys) : ∃ x ∈ xs, r x y := by
  induction h with
  | nil => cases hy
  | cons hxy _ ih =>
    rcases List.mem_cons.1 hy with rfl | hy
    · exact ⟨_, List.mem_cons_self, hxy⟩
    · obtain ⟨x, hx, h⟩ := ih hy
      exact ⟨x, List.mem_cons_of_mem _ hx, h⟩

/-- Behind a step that succeeds the walk goes on with its value. -/
theorem ok_bind {ε α β : Type} (a : α) (f : α → Except ε β) : (Except.ok a >>= f) = f a := rfl

/-- What does not fail succeeds. -/
theorem exists_eq_error_iff {ε α : Type} {x : Except ε α} :
    (∃ fault, x = .error fault) ↔ ¬ ∃ a, x = .ok a := by
  cases x with
  | error fault =>
    refine iff_of_true ⟨fault, rfl⟩ ?_
    rintro ⟨a, h⟩
    cases h
  | ok a =>
    refine iff_of_false ?_ fun hnone => hnone ⟨a, rfl⟩
    rintro ⟨fault, h⟩
    cases h

/-- What stands behind a check is reached exactly if nothing is wrong. -/
theorem ite_error_eq_ok_iff {ε α : Type} {bad : Prop} [Decidable bad] {fault : ε} {x : Except ε α} {a : α} :
    (if bad then .error fault else x) = .ok a ↔ ¬ bad ∧ x = .ok a := by
  by_cases hbad : bad
  · rw [if_pos hbad]
    refine iff_of_false ?_ fun h => h.1 hbad
    intro h
    cases h
  · rw [if_neg hbad, and_iff_right hbad]

/-- A step behind another succeeds if both do. -/
theorem bind_eq_ok_iff {ε α β : Type} {x : Except ε α} {f : α → Except ε β} {b : β} :
    x >>= f = .ok b ↔ ∃ a, x = .ok a ∧ f a = .ok b := by
  cases x with
  | error fault =>
    constructor
    · intro h
      cases h
    · rintro ⟨a, h, -⟩
      cases h
  | ok a =>
    constructor
    · intro h
      exact ⟨a, rfl, h⟩
    · rintro ⟨other, hother, h⟩
      cases hother
      exact h

/-- A step behind another succeeds under the conditions of both. -/
theorem exists_bind_eq_ok_iff {ε α β : Type} {x : Except ε α} {f : α → Except ε β} {first second : Prop}
    (hx : (∃ a, x = .ok a) ↔ first) (hf : ∀ a, x = .ok a → ((∃ b, f a = .ok b) ↔ second)) :
    (∃ b, x >>= f = .ok b) ↔ first ∧ second := by
  -- the second condition is asked only of what the first step gives
  rw [← hx]
  constructor
  · rintro ⟨b, hb⟩
    obtain ⟨a, ha, hfa⟩ := bind_eq_ok_iff.1 hb
    exact ⟨⟨a, ha⟩, (hf a ha).1 ⟨b, hfa⟩⟩
  · rintro ⟨⟨a, ha⟩, hsecond⟩
    obtain ⟨b, hb⟩ := (hf a ha).2 hsecond
    exact ⟨b, bind_eq_ok_iff.2 ⟨a, ha, hb⟩⟩

/-- A walk whose steps do nothing but give a value. -/
theorem mapM_eq_pure_map {m : Type → Type} [Monad m] [LawfulMonad m] {α β : Type} {f : α → m β}
    {g : α → β} {xs : List α} (h : ∀ x ∈ xs, f x = pure (g x)) : xs.mapM f = pure (xs.map g) := by
  induction xs with
  | nil => rw [List.mapM_nil, List.map_nil]
  | cons x xs ih =>
    rw [List.mapM_cons, h x List.mem_cons_self, ih fun y hy => h y (List.mem_cons_of_mem x hy)]
    simp only [pure_bind, List.map_cons]

/-- A walk that gives at every step what `g` gives. -/
theorem mapM_eq_ok_filterMap {α β ε : Type} {f : α → Except ε β} {g : α → Option β} {xs : List α}
    (h : ∀ x ∈ xs, ∃ y, f x = .ok y ∧ g x = some y) : xs.mapM f = .ok (xs.filterMap g) := by
  induction xs with
  | nil => rfl
  | cons x xs ih =>
    obtain ⟨y, hf, hg⟩ := h x List.mem_cons_self
    rw [List.mapM_cons, hf, ih (fun z hz => h z (List.mem_cons_of_mem x hz)), List.filterMap_cons, hg]
    rfl

/-- Items that are read one by one as what they were written for. -/
theorem mapM_map_eq_pure {m : Type → Type} [Monad m] [LawfulMonad m] {α β : Type} {f : β → m α}
    {g : α → β} {xs : List α} (h : ∀ x ∈ xs, f (g x) = pure x) : (xs.map g).mapM f = pure xs := by
  rw [List.mapM_map]
  exact (mapM_eq_pure_map (g := id) h).trans (congrArg pure (List.map_id xs))

/-- The same for walks with faults. -/
theorem mapM_map_eq_ok {α β ε : Type} {f : β → Except ε α} {g : α → β} {xs : List α}
    (h : ∀ x ∈ xs, f (g x) = .ok x) : (xs.map g).mapM f = .ok xs :=
  mapM_map_eq_pure h

/-- Where every step gives something, leaving out what gives nothing leaves out nothing. -/
theorem map_some_filterMap {α β : Type} {g : α → Option β} {xs : List α}
    (h : ∀ x ∈ xs, ∃ y, g x = some y) : (xs.filterMap g).map some = xs.map g := by
  induction xs with
  | nil => rfl
  | cons x xs ih =>
    obtain ⟨y, hy⟩ := h x List.mem_cons_self
    rw [List.filterMap_cons, hy, List.map_cons, List.map_cons, hy,
      ih fun z hz => h z (List.mem_cons_of_mem x hz)]

/-- A walk with a step that gives nothing. -/
theorem mapM_eq_none {α β : Type} {f : α → Option β} {xs : List α} {x : α} (hx : x ∈ xs)
    (h : f x = none) : xs.mapM f = none := by
  induction xs with
  | nil => cases hx
  | cons y ys ih =>
    rw [List.mapM_cons]
    rcases List.mem_cons.1 hx with rfl | hx
    · rw [h]
      rfl
    · rw [ih hx]
      -- whether or not this step gives something, a later one does not
      cases f y <;> rfl

/-- A walk gives nothing exactly if one of its steps does. -/
theorem mapM_eq_none_iff {α β : Type} {f : α → Option β} {xs : List α} :
    xs.mapM f = none ↔ ∃ x ∈ xs, f x = none := by
  refine ⟨fun h => ?_, fun ⟨x, hx, hnone⟩ => mapM_eq_none hx hnone⟩
  induction xs with
  | nil => cases h
  | cons x xs ih =>
    cases hx : f x with
    | none => exact ⟨x, List.mem_cons_self, hx⟩
    | some y =>
      rw [List.mapM_cons, hx] at h
      cases hrest : xs.mapM f with
      | none =>
        obtain ⟨z, hz, hnone⟩ := ih hrest
        exact ⟨z, List.mem_cons_of_mem x hz, hnone⟩
      | some ys =>
        rw [hrest] at h
        cases h

/-- The same for walks without faults. -/
theorem mapM_eq_some_iff {α β : Type} {f : α → Option β} {xs : List α} {ys : List β} :
    xs.mapM f = some ys ↔ List.Forall₂ (fun x y => f x = some y) xs ys := by
  induction xs generalizing ys with
  | nil =>
    rw [List.forall₂_nil_left_iff]
    exact ⟨fun h => (Option.some.inj h).symm, fun h => congrArg some h.symm⟩
  | cons x xs ih =>
    rw [List.mapM_cons, List.forall₂_cons_left_iff]
    constructor
    · intro h
      obtain ⟨y, hy, h⟩ := Option.bind_eq_some_iff.1 h
      obtain ⟨rest, hrest, heq⟩ := Option.bind_eq_some_iff.1 h
      exact ⟨y, rest, hy, ih.1 hrest, (Option.some.inj heq).symm⟩
    · rintro ⟨y, rest, hy, hrest, rfl⟩
      exact Option.bind_eq_some_iff.2 ⟨y, hy, Option.bind_eq_some_iff.2 ⟨rest, ih.2 hrest, rfl⟩⟩

/-- A walk over what another one gives, whose steps tell of its items. -/
theorem mapM_of_mapM {α β γ : Type} {f : α → Option β} {g : β → Option γ} {told : α → γ} {xs : List α}
    {ys : List β} (h : xs.mapM f = some ys) (hstep : ∀ x ∈ xs, ∀ y, f x = some y → g y = some (told x)) :
    ys.mapM g = some (xs.map told) := by
  have hsteps := mapM_eq_some_iff.1 h
  clear h
  induction hsteps with
  | nil => rfl
  | cons hxy _ ih =>
    rw [List.mapM_cons, hstep _ List.mem_cons_self _ hxy,
      ih fun x hx => hstep x (List.mem_cons_of_mem _ hx)]
    rfl

/-- What a walk gives, it gives item by item. -/
theorem mapM_eq_ok_iff {α β ε : Type} {f : α → Except ε β} {xs : List α} {ys : List β} :
    xs.mapM f = .ok ys ↔ List.Forall₂ (fun x y => f x = .ok y) xs ys := by
  induction xs generalizing ys with
  | nil =>
    rw [List.forall₂_nil_left_iff]
    exact ⟨fun h => (Except.ok.inj h).symm, fun h => congrArg Except.ok h.symm⟩
  | cons x xs ih =>
    rw [List.mapM_cons, bind_eq_ok_iff, List.forall₂_cons_left_iff]
    constructor
    · rintro ⟨y, hy, h⟩
      obtain ⟨rest, hrest, heq⟩ := bind_eq_ok_iff.1 h
      exact ⟨y, rest, hy, ih.1 hrest, (Except.ok.inj heq).symm⟩
    · rintro ⟨y, rest, hy, hrest, rfl⟩
      exact ⟨y, hy, bind_eq_ok_iff.2 ⟨rest, ih.2 hrest, rfl⟩⟩

/-- A walk succeeds exactly if every step of it does. -/
theorem exists_mapM_eq_ok_iff {α β ε : Type} {f : α → Except ε β} {xs : List α} :
    (∃ ys, xs.mapM f = .ok ys) ↔ ∀ x ∈ xs, ∃ y, f x = .ok y := by
  induction xs with
  | nil => exact ⟨fun _ _ hx => absurd hx List.not_mem_nil, fun _ => ⟨[], rfl⟩⟩
  | cons x xs ih =>
    rw [List.forall_mem_cons, ← ih]
    constructor
    · rintro ⟨ys, h⟩
      rw [mapM_eq_ok_iff, List.forall₂_cons_left_iff] at h
      obtain ⟨y, rest, hy, hrest, -⟩ := h
      exact ⟨⟨y, hy⟩, rest, mapM_eq_ok_iff.2 hrest⟩
    · rintro ⟨⟨y, hy⟩, rest, hrest⟩
      exact ⟨y :: rest, mapM_eq_ok_iff.2 (.cons hy (mapM_eq_ok_iff.1 hrest))⟩

/-- A walk that carries a state, in which a step succeeds for certain items whatever the state is. -/
theorem exists_foldlM_eq_ok_iff {σ α ε : Type} {step : σ → α → Except ε σ} {accepts : α → Prop}
    {xs : List α} (h : ∀ x ∈ xs, ∀ s, (∃ s', step s x = .ok s') ↔ accepts x) (s : σ) :
    (∃ s', xs.foldlM step s = .ok s') ↔ ∀ x ∈ xs, accepts x := by
  induction xs generalizing s with
  | nil => exact ⟨fun _ _ hx => absurd hx List.not_mem_nil, fun _ => ⟨s, rfl⟩⟩
  | cons x xs ih =>
    -- the first step says nothing of the state that it leaves, but the others are asked for all states
    obtain ⟨hfirst, hothers⟩ := List.forall_mem_cons.1 h
    rw [List.forall_mem_cons]
    constructor
    · rintro ⟨s', hwalk⟩
      obtain ⟨next, hnext, hrest⟩ := bind_eq_ok_iff.1 hwalk
      exact ⟨(hfirst s).1 ⟨next, hnext⟩, (ih hothers next).1 ⟨s', hrest⟩⟩
    · rintro ⟨hx, hxs⟩
      obtain ⟨next, hnext⟩ := (hfirst s).2 hx
      obtain ⟨s', hrest⟩ := (ih hothers next).2 hxs
      exact ⟨s', bind_eq_ok_iff.2 ⟨next, hnext, hrest⟩⟩

end BenchSweep
