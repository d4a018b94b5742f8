/-
  Splitting a sequence at a separator, and joining it again.

  Paths, search paths, meta texts and lines are all sequences of pieces with a separator between each two:
  `List.splitOn` cuts them apart and `List.intercalate` puts them together.  Nothing is merged or dropped:
  the empty sequence has one empty piece, and neighbouring separators have an empty piece between them.
  That joining undoes splitting, and splitting undoes joining where no piece holds the separator, is known of
  these (`List.intercalate_splitOn`, `List.splitOn_intercalate`).

  What readers of such sequences need besides is in this file.  Where a piece does hold the separator it
  comes apart (`splitOn_intercalate_eq_flatMap`), and the pieces are too many
  (`length_flatMap_splitOn_iff`).  An empty piece shows where separators stand (`nil_mem_splitOn_iff`).
-/

namespace BenchSweep.Text

section Splitting

variable {α : Type} [BEq α] [LawfulBEq α] {sep : α}

/-- In front of a separator at the start there is an empty piece. -/
theorem splitOn_cons_self (sep : α) (s : List α) : List.splitOn sep (sep :: s) = [] :: List.splitOn sep s :=
  List.splitOn_append_cons_self_of_not_mem List.not_mem_nil s

/-- Any other item belongs to the first piece. -/
theorem splitOn_cons_of_ne {c : α} (h : c ≠ sep) {s p : List α} {ps : List (List α)}
    (hpieces : List.splitOn sep s = p :: ps) : List.splitOn sep (c :: s) = (c :: p) :: ps := by
  rw [List.splitOn_cons_eq_if_modifyHead, if_neg (fun heq => h (eq_of_beq heq)), hpieces,
    List.modifyHead_cons]

/-- No piece holds the separator. -/
theorem not_mem_of_mem_splitOn {s p : List α} (h : p ∈ List.splitOn sep s) : sep ∉ p := by
  induction s generalizing p with
  | nil =>
    rw [List.splitOn_nil] at h
    rw [List.mem_singleton.1 h]
    exact List.not_mem_nil
  | cons c s ih =>
    by_cases hc : c = sep
    · rw [hc, splitOn_cons_self] at h
      rcases List.mem_cons.1 h with rfl | h
      · exact List.not_mem_nil
      · exact ih h
    · obtain ⟨q, qs, hpieces⟩ := List.exists_cons_of_ne_nil (List.splitOn_ne_nil sep s)
      rw [splitOn_cons_of_ne hc hpieces] at h
      rw [hpieces] at ih
      rcases List.mem_cons.1 h with rfl | h
      · rw [List.mem_cons, not_or]
        exact ⟨fun heq => hc heq.symm, ih List.mem_cons_self⟩
      · exact ih (List.mem_cons_of_mem q h)

/-- Each separator adds a piece. -/
theorem length_splitOn (sep : α) (s : List α) : (List.splitOn sep s).length = s.count sep + 1 := by
  induction s with
  | nil => rfl
  | cons c s ih =>
    by_cases hc : c = sep
    · rw [hc, splitOn_cons_self, List.length_cons, ih, List.count_cons_self]
    · obtain ⟨p, ps, hpieces⟩ := List.exists_cons_of_ne_nil (List.splitOn_ne_nil sep s)
      rw [splitOn_cons_of_ne hc hpieces, List.count_cons_of_ne hc, ← ih, hpieces]
      rfl

/-- Pieces without the separator stay as they are. -/
theorem flatMap_splitOn_of_not_mem {ps : List (List α)} (h : ∀ p ∈ ps, sep ∉ p) :
    ps.flatMap (List.splitOn sep) = ps := by
  induction ps with
  | nil => rfl
  | cons p ps ih =>
    obtain ⟨hp, hps⟩ := List.forall_mem_cons.1 h
    rw [List.flatMap_cons, List.splitOn_eq_singleton hp, ih hps, List.singleton_append]

/-- Lists are split into as many pieces as there are lists and separators. -/
theorem length_flatMap_splitOn (sep : α) (ps : List (List α)) :
    (ps.flatMap (List.splitOn sep)).length = ps.length + ps.flatten.count sep := by
  induction ps with
  | nil => rfl
  | cons p ps ih =>
    rw [List.flatMap_cons, List.length_append, length_splitOn, ih, List.length_cons, List.flatten_cons,
      List.count_append]
    omega

/-- Splitting leaves as many pieces as there were exactly if there was no separator in them. -/
theorem length_flatMap_splitOn_iff {ps : List (List α)} :
    (ps.flatMap (List.splitOn sep)).length = ps.length ↔ ∀ p ∈ ps, sep ∉ p := by
  rw [length_flatMap_splitOn, Nat.add_eq_left, List.count_eq_zero, List.mem_flatten]
  simp only [not_exists, not_and]

/-- Whatever is joined, it is split into the pieces of all that was joined. -/
theorem splitOn_intercalate_eq_flatMap (sep : α) {ps : List (List α)} (hne : ps ≠ []) :
    List.splitOn sep (List.intercalate [sep] ps) = ps.flatMap (List.splitOn sep) := by
  induction ps with
  | nil => exact absurd rfl hne
  | cons p ps ih =>
    cases ps with
    | nil => rw [List.intercalate_singleton, List.flatMap_singleton]
    | cons q qs =>
      rw [List.intercalate_cons_cons, List.append_assoc, List.singleton_append, List.flatMap_cons,
        List.splitOn_append_cons_self, ih (List.cons_ne_nil q qs)]

end Splitting

section Joining

variable {α : Type} {sep : α}

/-- The first piece, and each of the others behind a separator. -/
theorem intercalate_cons (sep : α) (p : List α) (ps : List (List α)) :
    List.intercalate [sep] (p :: ps) = p ++ ps.flatMap (sep :: ·) := by
  induction ps generalizing p with
  | nil => rw [List.intercalate_singleton, List.flatMap_nil, List.append_nil]
  | cons q qs ih =>
    rw [List.intercalate_cons_cons, ih, List.flatMap_cons, List.append_assoc, List.singleton_append,
      List.cons_append]

/-- What is joined has no items but the separator and those of the pieces. -/
theorem mem_intercalate {c : α} {ps : List (List α)} (h : c ∈ List.intercalate [sep] ps) :
    c = sep ∨ ∃ p ∈ ps, c ∈ p := by
  cases ps with
  | nil => cases h
  | cons p ps =>
    rw [intercalate_cons, List.mem_append, List.mem_flatMap] at h
    rcases h with hp | ⟨q, hq, hc⟩
    · exact .inr ⟨p, List.mem_cons_self, hp⟩
    · rcases List.mem_cons.1 hc with hsep | hc
      · exact .inl hsep
      · exact .inr ⟨q, List.mem_cons_of_mem p hq, hc⟩

end Joining

/-- A piece is empty at either end of a text that has a separator there, and between two separators. -/
theorem nil_mem_splitOn_iff {α : Type} [BEq α] [LawfulBEq α] {sep : α} {s : List α} :
    [] ∈ List.splitOn sep s ↔ s = [] ∨ s.head? = some sep ∨ s.getLast? = some sep ∨ [sep, sep] <:+: s := by
  constructor
  · intro h
    -- the text is what its pieces are joined to, so it shows what stands around the empty one
    obtain ⟨front, behind, hpieces⟩ := List.append_of_mem h
    have hs : s = List.intercalate [sep] (front ++ [] :: behind) := by
      rw [← hpieces, List.intercalate_splitOn]
    cases front with
    | nil =>
      rw [List.nil_append, intercalate_cons, List.nil_append] at hs
      cases behind with
      | nil => exact .inl hs
      | cons p ps =>
        rw [hs]
        exact .inr (.inl rfl)
    | cons q front =>
      rw [List.cons_append, intercalate_cons, List.flatMap_append, List.flatMap_cons,
        ← List.append_assoc] at hs
      cases behind with
      | nil =>
        rw [hs]
        exact .inr (.inr (.inl List.getLast?_concat))
      | cons p ps =>
        refine .inr (.inr (.inr ⟨q ++ front.flatMap (sep :: ·), p ++ ps.flatMap (sep :: ·), ?_⟩))
        rw [hs, List.flatMap_cons, List.append_assoc]
        rfl
  · rintro (rfl | hhead | hlast | ⟨a, b, rfl⟩)
    · exact List.mem_cons_self
    · obtain ⟨r, rfl⟩ := List.head?_eq_some_iff.1 hhead
      rw [splitOn_cons_self]
      exact List.mem_cons_self
    · obtain ⟨a, rfl⟩ := List.getLast?_eq_some_iff.1 hlast
      rw [List.splitOn_append_cons_self]
      exact List.mem_append_right _ List.mem_cons_self
    · rw [List.append_assoc, List.cons_append, List.splitOn_append_cons_self, List.cons_append,
        splitOn_cons_self]
      exact List.mem_append_right _ List.mem_cons_self

end BenchSweep.Text
