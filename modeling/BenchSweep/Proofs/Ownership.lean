/-
  Whose file an output is.

  A file belongs to one experiment: no other appends to it.  The validation compares outputs by their
  normal forms and does not ask for the working directory, so it knows that different outputs are at
  different places from some directories; this file says from which plans they are so from all.

  1. **Spelling out** (`Target.SpellsOut`).  Of two different places seen as one, one is left to the
     working directory, in part at least, and the other says that part itself: it is from the root, or it
     goes up further and comes down again.  What it says is the directory where both meet.

  2. **Meeting** (`Target.spellsOut_of_seenFrom_eq`).  Two different normal targets are one place from some
     working directory only if one spells the other out.  Two targets from the root, or two that go up
     equally often, differ in their names, and these stay.

  3. **Plans** (`Plan.outputs_apart_iff`).  The outputs of a valid plan are apart from every working
     directory exactly when none spells another out; so it is if they all start alike, as those of the
     built-in plans do.  The validation does not ask for that (`Plan.not_apart_mixedPlan`).
-/
import BenchSweep.Matrix
import BenchSweep.Proofs.Spelling
import BenchSweep.Proofs.Validity
import Mathlib.Data.List.Infix

namespace BenchSweep
namespace Path
namespace Target

/-! ## Spelling out

  Seen from a directory, a relative target has its own names and what is left of the directory behind them.
  A directory of one repeated name, as deep as a target goes up, leaves nothing of that. -/

/-- `t` says itself a part of the way that `t'` leaves to the working directory: `t'` is not from the root,
    the names of `t` end with those of `t'`, and the names in front of them stand either for all of a
    working directory, or for no more levels than `t` goes up further. -/
def SpellsOut (t t' : Target) : Prop :=
  t'.absolute = false ∧ t'.names <+: t.names ∧
    (t.absolute = true ∨
      t'.ups < t.ups ∧ t.names.length ≤ t'.names.length + (t.ups - t'.ups))

instance (t t' : Target) : Decidable (t.SpellsOut t') :=
  inferInstanceAs (Decidable (_ ∧ _ ∧ _))

/-- A target from the root is the same from everywhere. -/
theorem seenFrom_of_absolute {t : Target} (h : t.absolute = true) (dir : List Name) :
    t.seenFrom dir = t.names :=
  if_pos h

/-- Any other one adds its names to what it leaves of the directory. -/
theorem seenFrom_of_relative {t : Target} (h : t.absolute = false) (dir : List Name) :
    t.seenFrom dir = t.names ++ dir.drop t.ups :=
  if_neg (by rw [h]; exact Bool.false_ne_true)

/-- The directory where both meet: so deep below the names that `t` adds that `t'` comes up to them. -/
theorem SpellsOut.exists_seenFrom_eq {t t' : Target} (h : t.SpellsOut t') (ht : t.IsNormal) :
    ∃ dir : List Name, (∀ n ∈ dir, IsOrdinary n) ∧ t.seenFrom dir = t'.seenFrom dir := by
  obtain ⟨hrelative, ⟨more, hmore⟩, hcase⟩ := h
  have hlength : (uniform 0x61 t'.ups).length = t'.ups := List.length_replicate
  refine ⟨uniform 0x61 t'.ups ++ more, fun n hn => ?_, ?_⟩
  · rcases List.mem_append.1 hn with hn | hn
    · exact isOrdinary_of_mem_uniform (by decide) (by decide) n hn
    · exact ht.ordinary n (by rw [← hmore]; exact List.mem_append_right _ hn)
  · -- from there `t'` goes up by as much as was put below, and comes to the names of `t`
    have hright : t'.seenFrom (uniform 0x61 t'.ups ++ more) = t.names := by
      rw [seenFrom_of_relative hrelative, List.drop_left' hlength, hmore]
    rw [hright]
    cases habsolute : t.absolute with
    | true => exact seenFrom_of_absolute habsolute _
    | false =>
      -- `t` goes up past the whole directory, so it is left with its own names
      obtain habsolute' | ⟨hups, hnames⟩ := hcase
      · rw [habsolute] at habsolute'
        cases habsolute'
      · rw [← hmore, List.length_append] at hnames
        have hdeep : (uniform 0x61 t'.ups ++ more).length ≤ t.ups := by
          rw [List.length_append, hlength]
          omega
        rw [seenFrom_of_relative habsolute, List.drop_eq_nil_of_le hdeep, List.append_nil]

/-! ## Meeting

  By how the two targets start there are three cases: both from the root, one of them, none.  In the first
  and in the last with as many steps up, the names must be equal; in the others one target has more to say.
-/

/-- A place from the root that is met from a directory ends with the names of the other one. -/
theorem spellsOut_of_absolute {t t' : Target} {dir : List Name} (ha : t.absolute = true)
    (hr : t'.absolute = false) (h : t.seenFrom dir = t'.seenFrom dir) : t.SpellsOut t' := by
  rw [seenFrom_of_absolute ha, seenFrom_of_relative hr] at h
  exact ⟨hr, h ▸ List.prefix_append _ _, Or.inl ha⟩

/-- Of two places that meet, the one that goes up further comes down again to the other one. -/
theorem spellsOut_of_ups_lt {t t' : Target} {dir : List Name} (hr : t.absolute = false)
    (hr' : t'.absolute = false) (hlt : t'.ups < t.ups) (h : t.seenFrom dir = t'.seenFrom dir) :
    t.SpellsOut t' := by
  rw [seenFrom_of_relative hr, seenFrom_of_relative hr'] at h
  have hlength := congrArg List.length h
  rw [List.length_append, List.length_append, List.length_drop, List.length_drop] at hlength
  -- both are fronts of one place, and the directory gives `t` no more than it gives `t'`
  have hfront : t'.names <+: t.names ++ dir.drop t.ups := by
    rw [h]
    exact List.prefix_append _ _
  have hprefix : t'.names <+: t.names :=
    List.prefix_of_prefix_length_le hfront (List.prefix_append _ _) (by omega)
  exact ⟨hr', hprefix, Or.inr ⟨hlt, by omega⟩⟩

/-- Places that start alike and meet are equal: what the directory adds to both is the same. -/
theorem eq_of_seenFrom_eq {t t' : Target} {dir : List Name} (ha : t.absolute = t'.absolute)
    (hu : t.ups = t'.ups) (h : t.seenFrom dir = t'.seenFrom dir) : t = t' := by
  refine eq_of_fields ha hu ?_
  cases hr : t.absolute with
  | true => rwa [seenFrom_of_absolute hr, seenFrom_of_absolute (ha ▸ hr)] at h
  | false =>
    rw [seenFrom_of_relative hr, seenFrom_of_relative (ha ▸ hr), hu] at h
    exact List.append_cancel_right h

/-- **Meeting.**  Of two different normal targets that are one place, one spells the other out. -/
theorem spellsOut_of_seenFrom_eq {t t' : Target} (ht : t.IsNormal) (ht' : t'.IsNormal) (hne : t ≠ t')
    {dir : List Name} (h : t.seenFrom dir = t'.seenFrom dir) : t.SpellsOut t' ∨ t'.SpellsOut t := by
  cases ha : t.absolute with
  | true =>
    cases ha' : t'.absolute with
    | true =>
      have hups : t.ups = t'.ups := (ht.ups_eq_zero ha).trans (ht'.ups_eq_zero ha').symm
      exact absurd (eq_of_seenFrom_eq (ha.trans ha'.symm) hups h) hne
    | false => exact Or.inl (spellsOut_of_absolute ha ha' h)
  | false =>
    cases ha' : t'.absolute with
    | true => exact Or.inr (spellsOut_of_absolute ha' ha h.symm)
    | false =>
      rcases Nat.lt_trichotomy t.ups t'.ups with hlt | heq | hgt
      · exact Or.inr (spellsOut_of_ups_lt ha' ha hlt h.symm)
      · exact absurd (eq_of_seenFrom_eq (ha.trans ha'.symm) heq h) hne
      · exact Or.inl (spellsOut_of_ups_lt ha ha' hgt h)

end Target
end Path

namespace Plan

/-! ## The outputs of a plan -/

open BenchSweep.Path (resolve IsOrdinary)

/-- From the working directory `dir`, the outputs of different experiments are different files. -/
def Apart (plan : Plan) (dir : List Name) : Prop :=
  ∀ i j (hi : i < plan.experiments.length) (hj : j < plan.experiments.length), i ≠ j →
    resolve dir plan.experiments[i].output ≠ resolve dir plan.experiments[j].output

/-- No output spells out the output of another experiment. -/
def NoneSpellsOut (plan : Plan) : Prop :=
  ∀ i j (hi : i < plan.experiments.length) (hj : j < plan.experiments.length), i ≠ j →
    ¬ plan.experiments[i].output.target.SpellsOut plan.experiments[j].output.target

/-- All outputs are from the root, or all go up from the working directory equally often. -/
def StartsAlike (plan : Plan) : Prop :=
  ∀ e ∈ plan.experiments, ∀ d ∈ plan.experiments,
    e.output.target.absolute = d.output.target.absolute ∧ e.output.target.ups = d.output.target.ups

instance (plan : Plan) : Decidable plan.StartsAlike :=
  inferInstanceAs (Decidable (∀ e ∈ plan.experiments, ∀ d ∈ plan.experiments, _))

/-- In a valid plan different experiments have different targets. -/
theorem Valid.target_ne {plan : Plan} (h : plan.Valid) {i j : Nat} (hi : i < plan.experiments.length)
    (hj : j < plan.experiments.length) (hij : i ≠ j) :
    plan.experiments[i].output.target ≠ plan.experiments[j].output.target := fun heq =>
  h.distinct i j hi hj hij (Path.normalise_eq_iff_target_eq.2 heq)

/-- Where none spells another out, the outputs of a valid plan are apart from every directory. -/
theorem Valid.apart_of_noneSpellsOut {plan : Plan} (h : plan.Valid) (hnone : plan.NoneSpellsOut)
    (dir : List Name) : plan.Apart dir := by
  intro i j hi hj hij hmeet
  rw [Path.resolve_eq_seenFrom, Path.resolve_eq_seenFrom] at hmeet
  rcases Path.Target.spellsOut_of_seenFrom_eq (Path.target_isNormal _) (Path.target_isNormal _)
    (h.target_ne hi hj hij) hmeet with hspells | hspells
  · exact hnone i j hi hj hij hspells
  · exact hnone j i hj hi hij.symm hspells

/-- Where one does, there is a directory from which two of them meet. -/
theorem noneSpellsOut_of_apart {plan : Plan}
    (h : ∀ dir : List Name, (∀ n ∈ dir, IsOrdinary n) → plan.Apart dir) : plan.NoneSpellsOut := by
  intro i j hi hj hij hspells
  obtain ⟨dir, hordinary, hmeet⟩ := hspells.exists_seenFrom_eq (Path.target_isNormal _)
  rw [← Path.resolve_eq_seenFrom, ← Path.resolve_eq_seenFrom] at hmeet
  exact h dir hordinary i j hi hj hij hmeet

/-- Outputs that start alike and meet are spellings of one place. -/
theorem Valid.apart_of_startsAlike {plan : Plan} (h : plan.Valid) (halike : plan.StartsAlike)
    (dir : List Name) : plan.Apart dir := by
  intro i j hi hj hij hmeet
  rw [Path.resolve_eq_seenFrom, Path.resolve_eq_seenFrom] at hmeet
  obtain ⟨habsolute, hups⟩ := halike _ (List.getElem_mem hi) _ (List.getElem_mem hj)
  exact h.target_ne hi hj hij (Path.Target.eq_of_seenFrom_eq habsolute hups hmeet)

/-- Different outputs are at different places from some directory that can exist. -/
theorem Valid.exists_resolve_ne {plan : Plan} (h : plan.Valid) {i j : Nat}
    (hi : i < plan.experiments.length) (hj : j < plan.experiments.length) (hij : i ≠ j) :
    ∃ dir : List Name, (∀ n ∈ dir, IsOrdinary n) ∧
      resolve dir plan.experiments[i].output ≠ resolve dir plan.experiments[j].output := by
  -- else the two would be seen alike from all directories, and then they are equal
  refine Classical.byContradiction fun hnone => h.target_ne hi hj hij ?_
  refine Path.Target.eq_of_seenAlike (Path.target_isNormal _) (Path.target_isNormal _) fun dir hdir => ?_
  rw [← Path.resolve_eq_seenFrom, ← Path.resolve_eq_seenFrom]
  exact Classical.byContradiction fun hne => hnone ⟨dir, hdir, hne⟩

/-- **Whose file an output is.**  The outputs of a valid plan are different files from every working
    directory, or from every one that can exist, exactly when none spells out another.  So it is whenever
    they start alike; and two of them are never one file from all directories. -/
theorem outputs_apart_iff {plan : Plan} (h : plan.validate = .ok ()) :
    ((∀ dir : List Name, plan.Apart dir) ↔ plan.NoneSpellsOut) ∧
      ((∀ dir : List Name, (∀ n ∈ dir, IsOrdinary n) → plan.Apart dir) ↔ plan.NoneSpellsOut) ∧
      (plan.StartsAlike → ∀ dir : List Name, plan.Apart dir) ∧
      ∀ i j (hi : i < plan.experiments.length) (hj : j < plan.experiments.length), i ≠ j →
        ∃ dir : List Name, (∀ n ∈ dir, IsOrdinary n) ∧
          resolve dir plan.experiments[i].output ≠ resolve dir plan.experiments[j].output := by
  have hvalid : plan.Valid := (validate_eq_ok_iff plan).1 h
  refine ⟨⟨?_, hvalid.apart_of_noneSpellsOut⟩, ⟨noneSpellsOut_of_apart, ?_⟩,
    hvalid.apart_of_startsAlike, ?_⟩
  · exact fun hall => noneSpellsOut_of_apart fun dir _ => hall dir
  · exact fun hnone dir _ => hvalid.apart_of_noneSpellsOut hnone dir
  · intro i j hi hj hij
    exact hvalid.exists_resolve_ne hi hj hij

/-- The built-in plan for the queue: its outputs are relative and do not go up, so they are apart from
    everywhere. -/
theorem outputs_apart_crturn :
    (Matrix.plan .crturn).validate = .ok () ∧ (Matrix.plan .crturn).StartsAlike ∧
      ∀ dir : List Name, (Matrix.plan .crturn).Apart dir := by
  have hvalid : (Matrix.plan .crturn).validate = .ok () := by decide +kernel
  have halike : (Matrix.plan .crturn).StartsAlike := by decide +kernel
  obtain ⟨-, -, hapart, -⟩ := outputs_apart_iff hvalid
  exact ⟨hvalid, halike, hapart halike⟩

/-- Two experiments of which one appends to a file of the directory `/srv/bench` and the other to that file
    as it is seen from there. -/
def mixedPlan : Plan :=
  { name := "p", repetitions := 1, subjects := ⟨["NIL"]⟩, axes := .ofList [("g", ⟨[1]⟩)]
    experiments :=
      [{ name := "a", family := "g", selector := 1, mode := 2, output := .ofString "rows.csv" },
        { name := "b", family := "g", selector := 1, mode := 2, output := .ofString "/srv/bench/rows.csv" }] }

/-- The plan is valid, but run in `/srv/bench` both experiments append to one file. -/
theorem not_apart_mixedPlan :
    mixedPlan.validate = .ok () ∧
      ∃ dir : List Name, dir = (Path.ofString "/srv/bench").target.names ∧ (∀ n ∈ dir, IsOrdinary n) ∧
        mixedPlan.experiments.map (fun e => resolve dir e.output) =
          [(Path.ofString "/srv/bench/rows.csv").target.names,
            (Path.ofString "/srv/bench/rows.csv").target.names] ∧
        ¬ mixedPlan.Apart dir := by
  refine ⟨by decide +kernel, _, rfl, (Path.target_isNormal _).ordinary, by decide +kernel, fun hapart => ?_⟩
  exact hapart 0 1 (by decide) (by decide) (by decide) (by decide +kernel)

end Plan
end BenchSweep
