/-
  Spellings of one place.

  `normalise` decides from the text of two paths alone whether they are spellings of one place; the
  place itself is known only once there is a working directory, by `resolve`.  This file shows that the
  two agree: equal normal forms are exactly those paths that resolve alike from every working directory.

  1. **The walk factors through the target** (`resolve_eq_seenFrom`).  A target is a place that waits for
     its working directory: `seenFrom dir` puts its names behind what is left of `dir` when the target
     has gone up.  One component further commutes with that (`seenFrom_step`), so a whole path does.

  2. **Targets are normal** (`target_isNormal`): names are ordinary ones, and a target from the root
     never goes up.  This is what one step preserves, and it is why `toPath` loses nothing
     (`toPath_injective`): the `..` in front cannot be mistaken for names, nor the pieces for one another.

  3. **Different normal targets can be told apart** (`eq_of_seenAlike`).  Working directories of two
     depths separate a target from the root from one that is not; two that go up a different number of
     times are separated by two deep directories that have no name in common.
-/
import BenchSweep.Path.Normal

namespace BenchSweep
namespace Path

/-! ## Ordinary names -/

/-- What an entry of a directory can be called: not empty, neither `.` nor `..`, and without a
    separator. -/
def IsOrdinary (n : Name) : Prop := n ≠ [] ∧ n ≠ [dot] ∧ n ≠ [dot, dot] ∧ slash ∉ n

/-- A component other than the root and the directory where the way is already. -/
def Component.IsStep : Component → Prop
  | .root | .here => False
  | .up => True
  | .name n => IsOrdinary n

/-- A piece without a separator is a step or no component. -/
theorem isStep_of_ofPiece? {piece : Name} {c : Component} (hs : slash ∉ piece)
    (h : Component.ofPiece? piece = some c) : c.IsStep := by
  unfold Component.ofPiece? at h
  split at h
  · exact absurd h (by simp)
  · next hblank =>
    split at h
    · obtain rfl : Component.up = c := Option.some.inj h
      exact trivial
    · next hup =>
      obtain rfl : Component.name piece = c := Option.some.inj h
      exact ⟨fun e => hblank (Or.inl e), fun e => hblank (Or.inr e), hup, hs⟩

/-- The root, a `.` that stays visible, or neither, and then steps. -/
def IsWay (cs : List Component) : Prop := ∃ front steps, cs = front ++ steps ∧
  (front = [] ∨ front = [.here] ∨ front = [.root]) ∧ ∀ c ∈ steps, Component.IsStep c

/-- The components of every path are a way. -/
theorem components_isWay (p : Path) : IsWay p.components := by
  have hsteps : ∀ c ∈ p.pieces.filterMap Component.ofPiece?, Component.IsStep c := by
    intro c hc
    obtain ⟨piece, hp, hpc⟩ := List.mem_filterMap.1 hc
    exact isStep_of_ofPiece? (Text.not_mem_of_mem_splitOn hp) hpc
  -- by the front of the path: the root, a dot, or neither
  unfold components
  split
  · exact ⟨[.root], _, rfl, Or.inr (Or.inr rfl), hsteps⟩
  · split
    · exact ⟨[.here], _, rfl, Or.inr (Or.inl rfl), hsteps⟩
    · exact ⟨[], _, rfl, Or.inl rfl, hsteps⟩

namespace Target

/-! ## The place of a target, seen from a working directory -/

/-- The place of a target when `dir` is the working directory, as `resolve` gives it: the names on the
    way down from the root, the last in front. -/
def seenFrom (dir : List Name) (t : Target) : List Name :=
  if t.absolute then t.names else t.names ++ dir.drop t.ups

/-- One step further commutes with choosing the working directory. -/
theorem seenFrom_step (dir : List Name) (t : Target) {c : Component} (hc : c.IsStep) :
    (t.step c).seenFrom dir = descend (t.seenFrom dir) c := by
  obtain ⟨absolute, ups, names⟩ := t
  cases c with
  | root => exact hc.elim
  | here => exact hc.elim
  | name n => cases absolute <;> rfl
  | up =>
    cases names with
    | cons n names => cases absolute <;> rfl
    | nil =>
      cases absolute with
      | true => rfl
      | false =>
        show dir.drop (ups + 1) = (dir.drop ups).tail
        rw [List.tail_drop]

/-- Any number of steps further commutes with choosing the working directory. -/
theorem seenFrom_foldl (dir : List Name) {cs : List Component} (hcs : ∀ c ∈ cs, c.IsStep) (t : Target) :
    (cs.foldl step t).seenFrom dir = cs.foldl descend (t.seenFrom dir) := by
  -- on the steps, for every target that they may set out from
  induction cs generalizing t with
  | nil => rfl
  | cons c cs ih =>
    rw [List.foldl_cons, List.foldl_cons, ih (fun d hd => hcs d (List.mem_cons_of_mem c hd)),
      seenFrom_step dir t (hcs c List.mem_cons_self)]

/-! ## Normal targets -/

/-- A target that has one path: its names are ordinary, and from the root it does not go up. -/
structure IsNormal (t : Target) : Prop where
  ups_eq_zero : t.absolute = true → t.ups = 0
  ordinary : ∀ n ∈ t.names, IsOrdinary n

/-- A target that has not set out is normal. -/
theorem isNormal_start : start.IsNormal := ⟨fun h => absurd h (by decide), fun n hn => by cases hn⟩

/-- One step further a normal target is still normal: a name is an ordinary one, and going up takes a name
    away or is counted, unless it is the root where it has no effect. -/
theorem IsNormal.step {t : Target} (ht : t.IsNormal) {c : Component} (hc : c.IsStep) :
    (t.step c).IsNormal := by
  obtain ⟨absolute, ups, names⟩ := t
  cases c with
  | root => exact hc.elim
  | here => exact hc.elim
  | name n =>
    refine ⟨ht.ups_eq_zero, fun m hm => ?_⟩
    rcases List.mem_cons.1 hm with rfl | hm
    · exact hc
    · exact ht.ordinary m hm
  | up =>
    cases names with
    | cons n names => exact ⟨ht.ups_eq_zero, fun m hm => ht.ordinary m (List.mem_cons_of_mem n hm)⟩
    | nil =>
      cases absolute with
      | true => exact ht
      | false => exact ⟨fun h => absurd h Bool.false_ne_true, fun m hm => by cases hm⟩

/-- Any number of steps further a normal target is still normal. -/
theorem IsNormal.foldl {cs : List Component} (hcs : ∀ c ∈ cs, c.IsStep) {t : Target} (ht : t.IsNormal) :
    (cs.foldl Target.step t).IsNormal := by
  induction cs generalizing t with
  | nil => exact ht
  | cons c cs ih =>
    exact ih (fun d hd => hcs d (List.mem_cons_of_mem c hd)) (ht.step (hcs c List.mem_cons_self))

end Target

/-- What a way comes to is normal.  From the root the way sets out without having gone up. -/
theorem IsWay.isNormal {cs : List Component} (h : IsWay cs) : (cs.foldl Target.step .start).IsNormal := by
  obtain ⟨front, steps, rfl, hfront, hsteps⟩ := h
  rw [List.foldl_append]
  refine Target.IsNormal.foldl hsteps ?_
  rcases hfront with rfl | rfl | rfl
  · exact Target.isNormal_start
  · exact Target.isNormal_start
  · exact ⟨fun _ => rfl, fun n hn => by cases hn⟩

/-- Where a way leads from a working directory is where its target is seen from there. -/
theorem IsWay.foldl_descend {cs : List Component} (h : IsWay cs) (dir : List Name) :
    cs.foldl descend dir = (cs.foldl Target.step .start).seenFrom dir := by
  obtain ⟨front, steps, rfl, hfront, hsteps⟩ := h
  rw [List.foldl_append, List.foldl_append, Target.seenFrom_foldl dir hsteps]
  -- the fronts agree by themselves: the root forgets the working directory, `.` keeps it
  rcases hfront with rfl | rfl | rfl <;> rfl

/-- The target of every path is normal. -/
theorem target_isNormal (p : Path) : p.target.IsNormal := p.components_isWay.isNormal

/-- The place of a path is that of its target, seen from the working directory. -/
theorem resolve_eq_seenFrom (dir : List Name) (p : Path) : resolve dir p = p.target.seenFrom dir :=
  p.components_isWay.foldl_descend dir

/-! ## The path of a normal target says all of it

  The path of a target is its pieces, joined with separators.  It can be taken apart again because no piece
  is empty or has a separator, and the pieces can be told from each other because no name is two dots. -/

/-- A piece that can be told apart from its neighbours: not empty, and without a separator. -/
def IsSolid (piece : Name) : Prop := piece ≠ [] ∧ slash ∉ piece

/-- Solid pieces joined are empty only if there are none. -/
theorem join_eq_nil_iff {ps : List Name} (h : ∀ p ∈ ps, IsSolid p) :
    List.intercalate [slash] ps = [] ↔ ps = [] := by
  constructor
  · intro hj
    cases ps with
    | nil => rfl
    | cons p qs =>
      rw [Text.intercalate_cons, List.append_eq_nil_iff] at hj
      exact absurd hj.1 (h p List.mem_cons_self).1
  · rintro rfl
    rfl

/-- Solid pieces can be read back from the path that they are joined to. -/
theorem join_injective {ps qs : List Name} (hp : ∀ p ∈ ps, IsSolid p) (hq : ∀ q ∈ qs, IsSolid q)
    (h : List.intercalate [slash] ps = List.intercalate [slash] qs) : ps = qs := by
  by_cases hps : ps = []
  · have hqs : List.intercalate [slash] qs = [] := by rw [← h, hps]; rfl
    rw [hps, (join_eq_nil_iff hq).1 hqs]
  · -- splitting undoes joining when there is a piece, and no pieces were told apart above
    have hqs : qs ≠ [] := fun e => hps ((join_eq_nil_iff hp).1 (by rw [h, e]; rfl))
    rw [← List.splitOn_intercalate _ (fun p m => (hp p m).2) hps, h,
      List.splitOn_intercalate _ (fun q m => (hq q m).2) hqs]

/-- A relative path of solid pieces does not start with a separator. -/
theorem join_ne_slash_cons {ps : List Name} (h : ∀ p ∈ ps, IsSolid p) (r : List UInt8) :
    List.intercalate [slash] ps ≠ slash :: r := by
  intro hj
  have hp : (List.splitOn slash (List.intercalate [slash] ps)).head? = some [] := by
    rw [hj, Text.splitOn_cons_self]
    rfl
  cases ps with
  | nil => cases hj
  | cons p qs =>
    rw [List.splitOn_intercalate _ (fun q m => (h q m).2) (by simp)] at hp
    exact (h p List.mem_cons_self).1 (Option.some.inj hp)

/-- The `..` in front of ordinary names can be counted. -/
theorem replicate_up_append_injective {u v : Nat} {a b : List Name} (ha : ∀ n ∈ a, IsOrdinary n)
    (hb : ∀ n ∈ b, IsOrdinary n)
    (h : List.replicate u [dot, dot] ++ a = List.replicate v [dot, dot] ++ b) : u = v ∧ a = b := by
  -- on both counts at once: two dots are taken off on either side until one of them has none left
  induction u generalizing v with
  | zero =>
    cases v with
    | zero => exact ⟨rfl, h⟩
    | succ v =>
      -- a `..` on the right would have to be a name on the left
      have hmem : [dot, dot] ∈ a := by
        rw [show a = _ from h]
        exact List.mem_append_left _ (by simp [List.replicate_succ])
      exact absurd rfl (ha _ hmem).2.2.1
  | succ u ih =>
    cases v with
    | zero =>
      have hmem : [dot, dot] ∈ b := by
        rw [show b = _ from h.symm]
        exact List.mem_append_left _ (by simp [List.replicate_succ])
      exact absurd rfl (hb _ hmem).2.2.1
    | succ v =>
      rw [List.replicate_succ, List.replicate_succ, List.cons_append, List.cons_append] at h
      obtain ⟨rfl, rfl⟩ := ih (List.cons.inj h).2
      exact ⟨rfl, rfl⟩

namespace Target

/-- The pieces of the path of a target that is not from the root. -/
def pieces (t : Target) : List Name := List.replicate t.ups [dot, dot] ++ t.names.reverse

/-- The names of a normal target are solid. -/
theorem IsNormal.isSolid_names {t : Target} (ht : t.IsNormal) : ∀ n ∈ t.names.reverse, IsSolid n := by
  intro n hn
  have hn : IsOrdinary n := ht.ordinary n (List.mem_reverse.1 hn)
  exact ⟨hn.1, hn.2.2.2⟩

/-- The pieces of a normal target are solid, for two dots are. -/
theorem IsNormal.isSolid_pieces {t : Target} (ht : t.IsNormal) : ∀ n ∈ t.pieces, IsSolid n := by
  intro n hn
  rcases List.mem_append.1 hn with hn | hn
  · obtain rfl : n = [dot, dot] := List.eq_of_mem_replicate hn
    exact ⟨by decide, by decide⟩
  · exact ht.isSolid_names n hn

/-- The path of a target from the root is a separator and the names. -/
theorem toPath_of_absolute {t : Target} (h : t.absolute = true) :
    t.toPath = ⟨slash :: List.intercalate [slash] t.names.reverse⟩ := by
  rw [toPath, if_pos h]

/-- The path of any other target is its pieces. -/
theorem toPath_of_relative {t : Target} (h : t.absolute = false) :
    t.toPath = ⟨List.intercalate [slash] t.pieces⟩ := by
  rw [toPath, if_neg (by rw [h]; exact Bool.false_ne_true)]
  rfl

/-- A target is given by its three fields. -/
theorem eq_of_fields {t t' : Target} (ha : t.absolute = t'.absolute) (hu : t.ups = t'.ups)
    (hn : t.names = t'.names) : t = t' := by
  obtain ⟨absolute, ups, names⟩ := t
  obtain ⟨absolute', ups', names'⟩ := t'
  rw [mk.injEq]
  exact ⟨ha, hu, hn⟩

/-- A normal target can be read off its path. -/
theorem toPath_injective {t t' : Target} (ht : t.IsNormal) (ht' : t'.IsNormal)
    (h : t.toPath = t'.toPath) : t = t' := by
  cases ha : t.absolute with
  | true =>
    rw [toPath_of_absolute ha] at h
    cases ha' : t'.absolute with
    | true =>
      rw [toPath_of_absolute ha'] at h
      have hnames := join_injective ht.isSolid_names ht'.isSolid_names (List.cons.inj (Path.mk.inj h)).2
      exact eq_of_fields (ha.trans ha'.symm) ((ht.ups_eq_zero ha).trans (ht'.ups_eq_zero ha').symm)
        (List.reverse_inj.1 hnames)
    | false =>
      -- a path from the root starts with a separator, and no other one does
      rw [toPath_of_relative ha'] at h
      exact absurd (Path.mk.inj h).symm (join_ne_slash_cons ht'.isSolid_pieces _)
  | false =>
    rw [toPath_of_relative ha] at h
    cases ha' : t'.absolute with
    | true =>
      rw [toPath_of_absolute ha'] at h
      exact absurd (Path.mk.inj h) (join_ne_slash_cons ht.isSolid_pieces _)
    | false =>
      rw [toPath_of_relative ha'] at h
      have hpieces := join_injective ht.isSolid_pieces ht'.isSolid_pieces (Path.mk.inj h)
      obtain ⟨hups, hnames⟩ := replicate_up_append_injective
        (fun n hn => ht.ordinary n (List.mem_reverse.1 hn))
        (fun n hn => ht'.ordinary n (List.mem_reverse.1 hn)) hpieces
      exact eq_of_fields (ha.trans ha'.symm) hups (List.reverse_inj.1 hnames)

/-! ## Telling normal targets apart

  A target that is not from the root is seen where the working directory has it, so targets are told apart
  by looking from well chosen directories: one of any depth, made of a single letter, and one of another
  letter. -/

/-- A working directory so many levels deep, with one name at every level. -/
def uniform (b : UInt8) (depth : Nat) : List Name := List.replicate depth [b]

/-- Names of one letter are ordinary. -/
theorem isOrdinary_of_mem_uniform {b : UInt8} (hs : slash ≠ b) (hd : b ≠ dot) {depth : Nat} :
    ∀ n ∈ uniform b depth, IsOrdinary n := by
  intro n hn
  obtain rfl : n = [b] := List.eq_of_mem_replicate hn
  refine ⟨by simp, fun e => hd (List.cons.inj e).1, by simp, fun hm => hs (List.mem_singleton.1 hm)⟩

/-- From the root nothing depends on the working directory, elsewhere its depth shows. -/
theorem seenFrom_uniform_length {t : Target} (h : t.absolute = false) (b : UInt8) {depth : Nat} :
    (t.seenFrom (uniform b depth)).length = t.names.length + (depth - t.ups) := by
  rw [seenFrom, if_neg (by rw [h]; exact Bool.false_ne_true), List.length_append, List.length_drop,
    uniform, List.length_replicate]

/-- From a uniform directory that is as deep as `t'` goes up, only names are left of `t'`; a `t` that goes
    up less often still shows the end of the directory. -/
theorem names_eq_of_seenFrom_uniform {t t' : Target} (h : t.absolute = false) (h' : t'.absolute = false)
    {b : UInt8} (heq : t.seenFrom (uniform b t'.ups) = t'.seenFrom (uniform b t'.ups)) :
    t'.names = t.names ++ List.replicate (t'.ups - t.ups) [b] := by
  rw [seenFrom, seenFrom, if_neg (by rw [h]; exact Bool.false_ne_true),
    if_neg (by rw [h']; exact Bool.false_ne_true), uniform, List.drop_replicate, List.drop_replicate,
    Nat.sub_self, List.replicate_zero, List.append_nil] at heq
  exact heq.symm

/-- Targets that are seen at one place from every working directory. -/
def SeenAlike (t t' : Target) : Prop :=
  ∀ dir : List Name, (∀ n ∈ dir, IsOrdinary n) → t.seenFrom dir = t'.seenFrom dir

/-- Which of the two targets is looked at first does not matter. -/
theorem SeenAlike.symm {t t' : Target} (h : SeenAlike t t') : SeenAlike t' t :=
  fun dir hdir => (h dir hdir).symm

/-- Seen alike from the uniform directories of two letters, which are enough to separate targets. -/
theorem SeenAlike.uniform {t t' : Target} (h : SeenAlike t t') (depth : Nat) :
    t.seenFrom (Target.uniform 0x61 depth) = t'.seenFrom (Target.uniform 0x61 depth) ∧
      t.seenFrom (Target.uniform 0x62 depth) = t'.seenFrom (Target.uniform 0x62 depth) :=
  ⟨h _ (isOrdinary_of_mem_uniform (by decide) (by decide)),
    h _ (isOrdinary_of_mem_uniform (by decide) (by decide))⟩

/-- A target from the root is not seen alike with one that is not. -/
theorem SeenAlike.not_absolute_relative {t t' : Target} (h : SeenAlike t t') (ha : t.absolute = true)
    (hr : t'.absolute = false) : False := by
  have hlength : ∀ depth, t.names.length = t'.names.length + (depth - t'.ups) := by
    intro depth
    have hlen := congrArg List.length (h.uniform depth).1
    rwa [seenFrom_uniform_length hr, seenFrom, if_pos ha] at hlen
  -- one level deeper, the place that depends on the directory moves and the other one does not
  have h0 := hlength t'.ups
  have h1 := hlength (t'.ups + 1)
  omega

/-- Of two targets that are seen alike none goes up less often than the other. -/
theorem SeenAlike.not_ups_lt {t t' : Target} (h : SeenAlike t t') (hr : t.absolute = false)
    (hr' : t'.absolute = false) : ¬ t.ups < t'.ups := by
  intro hlt
  -- what `t` leaves of the directory would be made of both letters
  have ha := names_eq_of_seenFrom_uniform hr hr' (h.uniform t'.ups).1
  have hb := names_eq_of_seenFrom_uniform hr hr' (h.uniform t'.ups).2
  have hmem : ([0x61] : Name) ∈ List.replicate (t'.ups - t.ups) ([0x62] : Name) := by
    rw [← List.append_cancel_left (ha.symm.trans hb), List.mem_replicate]
    exact ⟨by omega, rfl⟩
  exact absurd (List.eq_of_mem_replicate hmem) (by decide)

/-- **Separation.**  Normal targets that are seen alike from every working directory are equal. -/
theorem eq_of_seenAlike {t t' : Target} (ht : t.IsNormal) (ht' : t'.IsNormal) (h : SeenAlike t t') :
    t = t' := by
  cases ha : t.absolute with
  | true =>
    cases ha' : t'.absolute with
    | true =>
      -- both are from the root, so the empty directory shows all of them
      have hnames := h [] (fun n hn => by cases hn)
      rw [seenFrom, seenFrom, if_pos ha, if_pos ha'] at hnames
      exact eq_of_fields (ha.trans ha'.symm) ((ht.ups_eq_zero ha).trans (ht'.ups_eq_zero ha').symm) hnames
    | false => exact (h.not_absolute_relative ha ha').elim
  | false =>
    cases ha' : t'.absolute with
    | true => exact (h.symm.not_absolute_relative ha' ha).elim
    | false =>
      have hups : t.ups = t'.ups := by
        have h1 := h.not_ups_lt ha ha'
        have h2 := h.symm.not_ups_lt ha' ha
        omega
      -- from a directory that is as deep as both go up, only the names are left
      have hnames := names_eq_of_seenFrom_uniform ha ha' (h.uniform t'.ups).1
      rw [hups, Nat.sub_self, List.replicate_zero, List.append_nil] at hnames
      exact eq_of_fields (ha.trans ha'.symm) hups hnames.symm

end Target

/-! ## Equal normal forms are equal places -/

/-- Paths have one normal form if they have one target. -/
theorem normalise_eq_iff_target_eq {p q : Path} : p.normalise = q.normalise ↔ p.target = q.target :=
  ⟨fun h => Target.toPath_injective (target_isNormal p) (target_isNormal q) h,
    fun h => congrArg Target.toPath h⟩

/-- **Normal forms identify exactly the spellings of one place**: two paths have one normal form if and
    only if they resolve to one location from every working directory.  To tell two paths apart, it is
    enough to look from those directories that can exist. -/
theorem normalise_eq_iff_resolve_eq (p q : Path) :
    (p.normalise = q.normalise ↔ ∀ dir : List Name, resolve dir p = resolve dir q) ∧
      (p.normalise = q.normalise ↔
        ∀ dir : List Name, (∀ n ∈ dir, IsOrdinary n) → resolve dir p = resolve dir q) := by
  have hsame : p.normalise = q.normalise → ∀ dir : List Name, resolve dir p = resolve dir q := by
    intro h dir
    rw [resolve_eq_seenFrom, resolve_eq_seenFrom, normalise_eq_iff_target_eq.1 h]
  have hseparated : (∀ dir : List Name, (∀ n ∈ dir, IsOrdinary n) → resolve dir p = resolve dir q) →
      p.normalise = q.normalise := by
    intro h
    rw [normalise_eq_iff_target_eq]
    refine Target.eq_of_seenAlike (target_isNormal p) (target_isNormal q) (fun dir hdir => ?_)
    rw [← resolve_eq_seenFrom, ← resolve_eq_seenFrom]
    exact h dir hdir
  constructor
  · exact ⟨hsame, fun h => hseparated fun dir _ => h dir⟩
  · exact ⟨fun h dir _ => hsame h dir, hseparated⟩

end Path
end BenchSweep
