/-
  One path above another.

  A path is above another one if its normal form is the beginning of the other's (`IsAbove`).  What matters
  for files is something else: whether the way of a path leads through a place (`PassesThrough`), for there
  a directory has to be.  The way follows the path as it is spelled, so it may lead through more places than
  those above its end: `x/../y` leads through `x`.

  1. **Normal forms** (`components_normalise`).  The components of a normal form are the steps of the
     target: the root or not, so many times up, and the names.

  2. **The way leads through what is above** (`IsAbove.passesThrough`).  One component adds a step to those
     of the target or takes one away, so whatever a target begins with was the whole target before
     (`Target.exists_front`).

  3. **Without `..`** the way only ever adds steps.  Then it leads through nothing else
     (`isAbove_of_passesThrough`), save for the directory where it starts.
-/
import BenchSweep.Proofs.Ownership
import BenchSweep.Proofs.Path.Parent

namespace BenchSweep
namespace Path

/-! ## Fronts of ways

  A way has at most one component that is no step, and that one is its first.  So its fronts are ways, and
  behind the first component there are only steps. -/

/-- The front of a way is a way. -/
theorem IsWay.of_prefix {cs front : List Component} (h : IsWay cs) (hfront : front <+: cs) : IsWay front := by
  obtain ⟨opening, steps, rfl, hopening, hsteps⟩ := h
  obtain ⟨rest, hrest⟩ := hfront
  rcases List.append_eq_append_iff.1 hrest with ⟨more, hmore, -⟩ | ⟨more, rfl, hmore⟩
  · refine ⟨front, [], (List.append_nil _).symm, ?_, fun c hc => absurd hc List.not_mem_nil⟩
    -- an opening has one component at most
    cases front with
    | nil => exact .inl rfl
    | cons c front =>
      rcases hopening with rfl | rfl | rfl
      · cases hmore
      · obtain ⟨rfl, hnil⟩ := List.cons.inj hmore
        obtain ⟨rfl, -⟩ := List.append_eq_nil_iff.1 hnil.symm
        exact .inr (.inl rfl)
      · obtain ⟨rfl, hnil⟩ := List.cons.inj hmore
        obtain ⟨rfl, -⟩ := List.append_eq_nil_iff.1 hnil.symm
        exact .inr (.inr rfl)
  · exact ⟨opening, more, rfl, hopening, fun c hc => hsteps c (hmore ▸ List.mem_append_left _ hc)⟩

/-- Behind the first component of a way there are steps only. -/
theorem IsWay.isStep {front rest : List Component} (h : IsWay (front ++ rest)) (hne : front ≠ []) :
    ∀ c ∈ rest, c.IsStep := by
  obtain ⟨opening, steps, heq, hopening, hsteps⟩ := h
  obtain ⟨first, front, rfl⟩ := List.exists_cons_of_ne_nil hne
  intro c hc
  refine hsteps c ?_
  -- whatever the opening is, it does not go beyond the first component
  rcases hopening with rfl | rfl | rfl
  · rw [← List.nil_append steps, ← heq]
    exact List.mem_append_right _ hc
  · rw [← show front ++ rest = steps from (List.cons.inj heq).2]
    exact List.mem_append_right _ hc
  · rw [← show front ++ rest = steps from (List.cons.inj heq).2]
    exact List.mem_append_right _ hc

/-! ## The steps of a target

  A target is given by the way to it that turns back nowhere.  Paths can be compared by these steps, where
  the bytes of their normal forms would have to be cut at the separators first. -/

/-- An ordinary name is a component by itself. -/
theorem ofPiece?_of_isOrdinary {n : Name} (h : IsOrdinary n) : Component.ofPiece? n = some (.name n) := by
  rw [Component.ofPiece?, if_neg (not_or.2 ⟨h.1, h.2.1⟩), if_neg h.2.2.1]

namespace Target

/-- The components of the shortest path to a target. -/
def steps (t : Target) : List Component :=
  (if t.absolute then [.root] else []) ++ List.replicate t.ups .up ++ t.names.reverse.map .name

/-- Ordinary names are read as the names that they are. -/
theorem filterMap_names {names : List Name} (h : ∀ n ∈ names, IsOrdinary n) :
    names.filterMap Component.ofPiece? = names.map .name := by
  rw [← List.filterMap_eq_map]
  exact List.filterMap_congr fun n hn => ofPiece?_of_isOrdinary (h n hn)

/-- The pieces of a normal target are read as so many times up and then the names. -/
theorem IsNormal.filterMap_pieces {t : Target} (ht : t.IsNormal) :
    t.pieces.filterMap Component.ofPiece? = List.replicate t.ups .up ++ t.names.reverse.map .name := by
  have hup : (List.replicate t.ups [dot, dot]).filterMap Component.ofPiece? = List.replicate t.ups .up :=
    List.filterMap_replicate_of_some rfl
  rw [pieces, List.filterMap_append, hup, filterMap_names fun n hn => ht.ordinary n (List.mem_reverse.1 hn)]

/-- Each piece of a normal target is some component. -/
theorem IsNormal.ofPiece?_ne_none {t : Target} (ht : t.IsNormal) {piece : Name} (h : piece ∈ t.pieces) :
    Component.ofPiece? piece ≠ none := by
  rcases List.mem_append.1 h with h | h
  · rw [List.eq_of_mem_replicate h]
    decide
  · rw [ofPiece?_of_isOrdinary (ht.ordinary piece (List.mem_reverse.1 h))]
    exact Option.some_ne_none _

/-- The path of a normal target is read as the steps of the target. -/
theorem IsNormal.components_toPath {t : Target} (ht : t.IsNormal) : t.toPath.components = t.steps := by
  cases ha : t.absolute with
  | true =>
    have hfree : AreSlashFree t.names.reverse := fun n hn => (ht.isSolid_names n hn).2
    have hpath : t.toPath = ⟨[slash] ++ List.intercalate [slash] t.names.reverse⟩ := toPath_of_absolute ha
    rw [hpath, (Opens.root.reading hfree).2, steps, ha, ht.ups_eq_zero ha,
      filterMap_names fun n hn => ht.ordinary n (List.mem_reverse.1 hn)]
    rfl
  | false =>
    have hfree : AreSlashFree t.pieces := fun n hn => (ht.isSolid_pieces n hn).2
    -- no piece is empty or a dot, so nothing is dropped and nothing stays visible in front
    have hopens : Opens [] [] t.pieces := .relative fun piece hpiece =>
      ht.ofPiece?_ne_none (List.mem_of_head? hpiece)
    have hpath : t.toPath = ⟨[] ++ List.intercalate [slash] t.pieces⟩ := toPath_of_relative ha
    rw [hpath, (hopens.reading hfree).2, steps, ha, ht.filterMap_pieces]
    rfl

/-- Names lead further down, one by one. -/
theorem foldl_descend_names (names : List Name) (dir : List Name) :
    (names.map Component.name).foldl descend dir = names.reverse ++ dir := by
  induction names generalizing dir with
  | nil => rfl
  | cons n names ih =>
    rw [List.map_cons, List.foldl_cons, ih, List.reverse_cons, List.append_assoc]
    rfl

/-- Going up leaves one name after the other behind. -/
theorem foldl_descend_ups (k : Nat) (dir : List Name) :
    (List.replicate k Component.up).foldl descend dir = dir.drop k := by
  induction k generalizing dir with
  | zero => rfl
  | succ k ih =>
    rw [List.replicate_succ, List.foldl_cons, ih]
    exact List.drop_tail

/-- The steps of a target lead to its place. -/
theorem IsNormal.foldl_descend_steps {t : Target} (ht : t.IsNormal) (dir : List Name) :
    t.steps.foldl descend dir = t.seenFrom dir := by
  rw [steps, List.foldl_append, List.foldl_append, foldl_descend_names, List.reverse_reverse,
    foldl_descend_ups]
  cases ha : t.absolute with
  | true =>
    rw [seenFrom_of_absolute ha, ht.ups_eq_zero ha]
    exact List.append_nil _
  | false =>
    rw [seenFrom_of_relative ha]
    rfl

/-! ## One component further -/

/-- A name adds itself to the steps. -/
theorem steps_name (t : Target) (n : Name) : (t.step (.name n)).steps = t.steps ++ [.name n] := by
  obtain ⟨absolute, ups, names⟩ := t
  show _ ++ (n :: names).reverse.map Component.name = _ ++ names.reverse.map Component.name ++ _
  rw [List.reverse_cons, List.map_append, ← List.append_assoc]
  rfl

/-- A component adds a step, or it takes one away or does nothing. -/
theorem IsNormal.steps_step {t : Target} (ht : t.IsNormal) {c : Component} (hc : c.IsStep) :
    (t.step c).steps = t.steps ++ [c] ∨ (t.step c).steps <+: t.steps := by
  cases c with
  | root => exact hc.elim
  | here => exact hc.elim
  | name n => exact .inl (t.steps_name n)
  | up =>
    obtain ⟨absolute, ups, names⟩ := t
    cases names with
    -- up from a name: the step is taken away that the name had added
    | cons n names =>
      right
      show Target.steps ⟨absolute, ups, names⟩ <+:
        Target.steps (Target.step ⟨absolute, ups, names⟩ (.name n))
      rw [steps_name]
      exact List.prefix_append _ _
    | nil =>
      cases absolute with
      | true => exact .inr (List.prefix_refl _)
      | false =>
        left
        show [] ++ List.replicate (ups + 1) Component.up ++ [] =
          [] ++ List.replicate ups Component.up ++ [] ++ [Component.up]
        rw [List.replicate_succ']
        simp only [List.nil_append, List.append_nil]

/-- What a target begins with was there at the start, or it was the whole target at some point. -/
theorem exists_front_of_steps {cs : List Component} (hcs : ∀ c ∈ cs, c.IsStep) {t : Target} (ht : t.IsNormal)
    {s : List Component} (hs : s <+: (cs.foldl step t).steps) :
    s <+: t.steps ∨ ∃ front, front <+: cs ∧ (front.foldl step t).steps = s := by
  -- on the way, for every normal target that it may set out from
  induction cs generalizing t with
  | nil => exact .inl hs
  | cons c cs ih =>
    have hc : c.IsStep := hcs c List.mem_cons_self
    rcases ih (fun d hd => hcs d (List.mem_cons_of_mem c hd)) (ht.step hc) hs with hs | ⟨front, hfront, heq⟩
    · -- what was there behind the first component was there before it, or is what this component completed
      rcases ht.steps_step hc with hmore | hless
      · rw [hmore, List.prefix_concat_iff] at hs
        rcases hs with hs | hs
        · exact .inr ⟨[c], List.cons_prefix_cons.2 ⟨rfl, List.nil_prefix⟩, hmore.trans hs.symm⟩
        · exact .inl hs
      · exact .inl (hs.trans hless)
    · exact .inr ⟨c :: front, List.cons_prefix_cons.2 ⟨rfl, hfront⟩, heq⟩

/-- **The way leads through everything above.**  Whatever the target of a way begins with was the whole
    target at some point of the way. -/
theorem exists_front {cs : List Component} (h : IsWay cs) {s : List Component}
    (hs : s <+: (cs.foldl step start).steps) :
    ∃ front, front <+: cs ∧ (front.foldl step start).steps = s := by
  have hway : IsWay cs := h
  obtain ⟨opening, others, rfl, hopening, hothers⟩ := h
  have hopened : (opening.foldl step start).IsNormal := (hway.of_prefix (List.prefix_append _ _)).isNormal
  rw [List.foldl_append] at hs
  rcases exists_front_of_steps hothers hopened hs with hs | ⟨front, hfront, heq⟩
  · by_cases hnil : s = []
    · exact ⟨[], List.nil_prefix, hnil.symm⟩
    · refine ⟨opening, List.prefix_append _ _, ?_⟩
      rcases hopening with rfl | rfl | rfl
      · exact absurd (List.prefix_nil.1 hs) hnil
      · exact absurd (List.prefix_nil.1 hs) hnil
      · -- the root is one step
        obtain ⟨c, s, rfl⟩ := List.exists_cons_of_ne_nil hnil
        obtain ⟨rfl, hmore⟩ := List.cons_prefix_cons.1 hs
        obtain rfl : s = [] := List.prefix_nil.1 hmore
        rfl
  · refine ⟨opening ++ front, (List.prefix_append_right_inj opening).2 hfront, ?_⟩
    rw [List.foldl_append]
    exact heq

end Target

/-! ## Above, and on the way

  What the steps of a target begin with was all of them at some front of the way.  So the way leads through
  every place above its end. -/

/-- The components of a normal form are the steps of the target. -/
theorem components_normalise (p : Path) : p.normalise.components = p.target.steps :=
  p.target_isNormal.components_toPath

/-- The normal form of `p` is the beginning of the normal form of `q`, which goes on. -/
def IsAbove (p q : Path) : Prop :=
  p.normalise.components <+: q.normalise.components ∧ p.normalise.components ≠ q.normalise.components

instance (p q : Path) : Decidable (p.IsAbove q) := inferInstanceAs (Decidable (_ ∧ _))

/-- The way of a path from the directory `dir` leads through a place, and goes on. -/
def PassesThrough (p : Path) (dir place : List Name) : Prop :=
  ∃ front, front <+: p.components ∧ front ≠ p.components ∧ front.foldl descend dir = place

/-- **The way leads through what is above**, wherever it starts. -/
theorem IsAbove.passesThrough {p q : Path} (h : p.IsAbove q) (dir : List Name) :
    q.PassesThrough dir (resolve dir p) := by
  obtain ⟨hbegins, hne⟩ := h
  rw [components_normalise, components_normalise] at hbegins hne
  obtain ⟨front, hfront, hsteps⟩ := Target.exists_front q.components_isWay hbegins
  have hway : IsWay front := q.components_isWay.of_prefix hfront
  refine ⟨front, hfront, fun hwhole => hne ?_, ?_⟩
  · rw [← hsteps, hwhole]
    rfl
  · rw [hway.foldl_descend, ← hway.isNormal.foldl_descend_steps, hsteps,
      p.target_isNormal.foldl_descend_steps, resolve_eq_seenFrom]

/-! ## Without `..`

  A way that never goes up loses nothing on the way, so what it leads through and what is above its end are
  the same steps. -/

/-- The path never goes up. -/
def IsStraight (p : Path) : Prop := .up ∉ p.components

instance (p : Path) : Decidable p.IsStraight := inferInstanceAs (Decidable (_ ∉ _))

namespace Target

/-- A way that never goes up is not counted as going up. -/
theorem ups_foldl {cs : List Component} (h : .up ∉ cs) (t : Target) : (cs.foldl step t).ups = t.ups := by
  induction cs generalizing t with
  | nil => rfl
  | cons c cs ih =>
    rw [List.mem_cons, not_or] at h
    rw [List.foldl_cons, ih h.2]
    cases c with
    | up => exact absurd rfl h.1
    | root => rfl
    | here => rfl
    | name n => rfl

/-- No step makes a target one from the root, or takes that away. -/
theorem absolute_foldl {cs : List Component} (hcs : ∀ c ∈ cs, c.IsStep) (t : Target) :
    (cs.foldl step t).absolute = t.absolute := by
  induction cs generalizing t with
  | nil => rfl
  | cons c cs ih =>
    rw [List.foldl_cons, ih fun d hd => hcs d (List.mem_cons_of_mem c hd)]
    have hc : c.IsStep := hcs c List.mem_cons_self
    obtain ⟨absolute, ups, names⟩ := t
    cases c with
    | root => exact hc.elim
    | here => exact hc.elim
    | name n => rfl
    | up =>
      cases names with
      | cons n names => rfl
      | nil => cases absolute <;> rfl

/-- A way that never goes up adds each of its steps. -/
theorem steps_foldl {cs : List Component} (hcs : ∀ c ∈ cs, c.IsStep) (hup : .up ∉ cs) (t : Target) :
    (cs.foldl step t).steps = t.steps ++ cs := by
  induction cs generalizing t with
  | nil => exact (List.append_nil _).symm
  | cons c cs ih =>
    rw [List.mem_cons, not_or] at hup
    have hc : c.IsStep := hcs c List.mem_cons_self
    rw [List.foldl_cons, ih (fun d hd => hcs d (List.mem_cons_of_mem c hd)) hup.2]
    cases c with
    | root => exact hc.elim
    | here => exact hc.elim
    | up => exact absurd rfl hup.1
    | name n => rw [steps_name, List.append_assoc, List.singleton_append]

end Target

/-- **A straight way leads through nothing but what is above**, and the directory where it starts. -/
theorem isAbove_of_passesThrough {p q : Path} (hp : p.IsStraight) (hq : q.IsStraight)
    (habsolute : p.target.absolute = q.target.absolute) {dir : List Name}
    (h : q.PassesThrough dir (resolve dir p)) (hne : resolve dir p ≠ dir) : p.IsAbove q := by
  obtain ⟨front, hfront, hwhole, hplace⟩ := h
  have hway : IsWay front := q.components_isWay.of_prefix hfront
  obtain ⟨rest, hrest⟩ := hfront
  have hfrontNe : front ≠ [] := by
    rintro rfl
    exact hne hplace.symm
  have hrestNe : rest ≠ [] := by
    rintro rfl
    exact hwhole (by rw [← hrest, List.append_nil])
  rw [IsStraight, ← hrest, List.mem_append, not_or] at hq
  have hsteps : ∀ c ∈ rest, c.IsStep := IsWay.isStep (hrest ▸ q.components_isWay) hfrontNe
  have htarget : q.target = rest.foldl Target.step (front.foldl Target.step .start) := by
    rw [target, ← hrest, List.foldl_append]
  -- the front starts like `p` and leads to its place, so it has the target of `p`
  have hsame : front.foldl Target.step .start = p.target := by
    refine Target.eq_of_seenFrom_eq ?_ ?_ (by rw [← hway.foldl_descend, hplace, resolve_eq_seenFrom])
    · rw [habsolute, htarget, Target.absolute_foldl hsteps]
    · rw [Target.ups_foldl hq.1, target, Target.ups_foldl hp]
  rw [hsame] at htarget
  rw [IsAbove, components_normalise, components_normalise, htarget, Target.steps_foldl hsteps hq.2]
  refine ⟨List.prefix_append _ _, fun heq => hrestNe ?_⟩
  exact List.append_cancel_left (heq.symm.trans (List.append_nil _).symm)

end Path
end BenchSweep
