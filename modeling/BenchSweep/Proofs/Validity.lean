/-
  Which plans are valid, and what is said of the others.

  `Plan.validate` stops at the first thing that is wrong.  Here the same is said without stopping:

  1. `Valid` lists what a plan must be, in no order, and with the outputs compared two by two.
  2. `checks` lists every single check of a plan in the order of precedence, each with what must hold and
     the fault that is reported when it does not.  A check may speak of the whole plan (the output of the
     `k`-th experiment differs from those of *all* before it), so nothing is accumulated.

  `Verdict` is what a list of checks comes to when they are made one after the other: success when all
  hold, else the fault of the first that does not.  Verdicts compose like the program (`Verdict.bind`,
  `Verdict.ite`, `Verdict.forM`), so every part of `validate` gets one lemma.  The only invariant is that
  of the walk over the experiments: the taken paths are the normal forms of the outputs passed so far
  (`verdict_validateExperiments`).
-/
import BenchSweep.Plan.Validation
import BenchSweep.Proofs.Tables

namespace BenchSweep
namespace Plan

/-! ## Checks and their verdict

  The checks stand in one row, and the first that is violated gives its fault.  So a plan is valid exactly
  if it violates none, whatever order they stand in; the order matters only for the fault. -/

/-- Something that must hold of a plan, and what is reported when it does not. -/
structure Check where
  holds : Prop
  fault : Fault

/-- The first of the checks that does not hold. -/
def IsFirstViolated (checks : List Check) (c : Check) : Prop :=
  ∃ before after, checks = before ++ c :: after ∧ (∀ b ∈ before, b.holds) ∧ ¬ c.holds

/-- What checks come to that are made one after the other. -/
def Verdict (checks : List Check) : Except Fault Unit → Prop
  | .ok () => ∀ c ∈ checks, c.holds
  | .error fault => ∃ c, IsFirstViolated checks c ∧ c.fault = fault

/-- Checks that come later do not change which one is violated first. -/
theorem IsFirstViolated.append {cs : List Check} {c : Check} (h : IsFirstViolated cs c)
    (ds : List Check) : IsFirstViolated (cs ++ ds) c := by
  obtain ⟨before, after, rfl, hbefore, hc⟩ := h
  exact ⟨before, after ++ ds, by simp, hbefore, hc⟩

/-- Nor do checks that come earlier, if they hold. -/
theorem IsFirstViolated.prepend {ds : List Check} {c : Check} (h : IsFirstViolated ds c)
    {cs : List Check} (hcs : ∀ b ∈ cs, b.holds) : IsFirstViolated (cs ++ ds) c := by
  obtain ⟨before, after, rfl, hbefore, hc⟩ := h
  refine ⟨cs ++ before, after, by simp, fun b hb => ?_, hc⟩
  rcases List.mem_append.1 hb with hb | hb
  · exact hcs b hb
  · exact hbefore b hb

/-- No checks come to success. -/
theorem verdict_nil : Verdict [] (.ok ()) := fun c hc => by cases hc

/-- Checks made one after the other come to the verdict of all of them. -/
theorem Verdict.bind {cs ds : List Check} {a b : Except Fault Unit} (ha : Verdict cs a)
    (hb : Verdict ds b) : Verdict (cs ++ ds) (a >>= fun _ => b) := by
  cases a with
  -- the second checks are not made, and the first one violated is among the first
  | error fault =>
    obtain ⟨c, hc, hfault⟩ := ha
    exact ⟨c, hc.append ds, hfault⟩
  | ok _ =>
    show Verdict (cs ++ ds) b
    cases b with
    | error fault =>
      obtain ⟨c, hc, hfault⟩ := hb
      exact ⟨c, hc.prepend ha, hfault⟩
    | ok _ =>
      intro c hc
      rcases List.mem_append.1 hc with hc | hc
      · exact ha c hc
      · exact hb c hc

/-- A check in front of others, written as a test for its violation. -/
theorem Verdict.ite {c : Check} {ds : List Check} {r : Except Fault Unit} {bad : Prop} [Decidable bad]
    (hc : c.holds ↔ ¬ bad) (hr : Verdict ds r) :
    Verdict (c :: ds) (if bad then .error c.fault else r) := by
  by_cases hbad : bad
  · rw [if_pos hbad]
    exact ⟨c, ⟨[], ds, rfl, fun b hb => absurd hb List.not_mem_nil, fun h => hc.1 h hbad⟩, rfl⟩
  · rw [if_neg hbad]
    have hone : Verdict [c] (.ok ()) := fun d hd => by
      rw [List.mem_singleton.1 hd]
      exact hc.2 hbad
    exact hone.bind hr

/-- A loop over a list comes to the verdict of the checks of each of its items. -/
theorem Verdict.forM {α : Type} {checksOf : α → List Check} {f : α → Except Fault Unit}
    (h : ∀ x, Verdict (checksOf x) (f x)) (xs : List α) :
    Verdict (xs.flatMap checksOf) (xs.forM f) := by
  induction xs with
  | nil => exact verdict_nil
  | cons x xs ih =>
    rw [List.flatMap_cons]
    exact (h x).bind ih

/-- Success means that all checks hold. -/
theorem Verdict.eq_ok_iff {cs : List Check} {r : Except Fault Unit} (h : Verdict cs r) :
    r = .ok () ↔ ∀ c ∈ cs, c.holds := by
  cases r with
  | ok _ => exact iff_of_true rfl h
  | error fault =>
    obtain ⟨c, ⟨before, after, hchecks, -, hc⟩, -⟩ := h
    have hmem : c ∈ cs := hchecks ▸ List.mem_append_right before List.mem_cons_self
    refine iff_of_false ?_ fun hall => hc (hall c hmem)
    intro hok
    cases hok

/-! ## The checks of a plan

  Each check is matched with the condition that it decides.  What a check does on the way, such as going
  through the outputs with those seen so far, is said here once. -/

/-- The checks of the numbers and texts that a plan has once. -/
def scalarChecks (plan : Plan) : List Check :=
  [⟨1 ≤ plan.repetitions.toNat, .noRepetitions⟩,
    ⟨plan.experiments ≠ [], .noExperiments⟩,
    ⟨∃ c ∈ plan.harness.command.toList, Text.isBlank c = false, .noCommand⟩,
    ⟨plan.harness.runIdKey ≠ "" ∧ '=' ∉ plan.harness.runIdKey.toList,
      .unusableRunIdKey plan.harness.runIdKey⟩,
    ⟨plan.subjects.names ≠ [], .subjects .noSubjects⟩]

/-- The checks of a name of a subject. -/
def nameChecks (name : String) : List Check :=
  [⟨name ≠ "", .subjects .emptyName⟩,
    ⟨∀ c ∈ name.toList, c ≠ ':' ∧ Text.isBlank c = false, .subjects (.unusableName name)⟩]

/-- The checks of an axis under its name. -/
def axisChecks (entry : String × Axis) : List Check :=
  [⟨entry.2.levels ≠ [], .axis entry.1 .noLevels⟩,
    ⟨0 ∉ entry.2.levels, .axis entry.1 (.zeroLevel entry.2.levels)⟩]

/-- The checks of the experiment at a place of the plan; its output is compared with all before it. -/
def experimentChecks (plan : Plan) (entry : Experiment × Nat) : List Check :=
  [⟨∃ axis, (entry.1.family, axis) ∈ plan.axes.entries, .unknownFamily entry.1.name entry.1.family⟩,
    ⟨entry.1.output.bytes ≠ [], .noOutput entry.1.name⟩,
    ⟨∀ e ∈ plan.experiments.take entry.2, e.output.normalise ≠ entry.1.output.normalise,
      .sharedOutput entry.1.output⟩]

/-- All checks in the order of precedence. -/
def checks (plan : Plan) : List Check :=
  plan.scalarChecks ++ plan.subjects.names.flatMap nameChecks ++ plan.axes.entries.flatMap axisChecks
    ++ plan.experiments.zipIdx.flatMap plan.experimentChecks

/-! ## Every part of the validation comes to the verdict of its checks

  Each part is written as tests for what is wrong, so a check and its test have to be opposites of each
  other. That is all there is to show for the parts without a loop. -/

/-- The check of a name comes to the verdict of its two checks. -/
theorem verdict_validateName (name : String) :
    Verdict (nameChecks name) ((Subjects.validateName name).mapError .subjects) := by
  have heq : (Subjects.validateName name).mapError Fault.subjects =
      if name.isEmpty then .error (.subjects .emptyName)
      else if name.toList.any (fun c => c == ':' || Text.isBlank c) then
        .error (.subjects (.unusableName name))
      else .ok () := by
    unfold Subjects.validateName
    split
    · rfl
    · split <;> rfl
  rw [heq]
  refine Verdict.ite ?_ (Verdict.ite ?_ verdict_nil)
  · show name ≠ "" ↔ _
    rw [String.isEmpty_iff]
  · show (∀ c ∈ name.toList, c ≠ ':' ∧ Text.isBlank c = false) ↔ _
    simp [List.any_eq_true]

/-- To wrap the fault of a loop is to wrap the faults in it. -/
theorem mapError_forM {α ε ε' : Type} (wrap : ε → ε') (f : α → Except ε Unit) (xs : List α) :
    (xs.forM f).mapError wrap = xs.forM fun x => (f x).mapError wrap := by
  induction xs with
  | nil => rfl
  | cons x xs ih =>
    show ((f x >>= fun _ => xs.forM f).mapError wrap) =
      ((f x).mapError wrap >>= fun _ => xs.forM fun x => (f x).mapError wrap)
    cases f x with
    | error e => rfl
    | ok _ => exact ih

/-- The check of an axis comes to the verdict of its two checks. -/
theorem verdict_validateAxis (entry : String × Axis) :
    Verdict (axisChecks entry) (validateAxis entry) := by
  have heq : validateAxis entry =
      if entry.2.levels.isEmpty then .error (.axis entry.1 .noLevels)
      else if entry.2.levels.contains 0 then .error (.axis entry.1 (.zeroLevel entry.2.levels))
      else .ok () := by
    unfold validateAxis Axis.validate
    split
    · rfl
    · split <;> rfl
  rw [heq]
  refine Verdict.ite ?_ (Verdict.ite ?_ verdict_nil)
  · show entry.2.levels ≠ [] ↔ _
    rw [List.isEmpty_iff]
  · show 0 ∉ entry.2.levels ↔ _
    rw [List.contains_iff_mem]

/-- The check of an experiment comes to the verdict of its three checks, when the taken paths are the normal
    forms of the outputs before it. -/
theorem verdict_validateExperiment {plan : Plan} {taken : List Path} {k : Nat} {e : Experiment}
    (htaken : ∀ p, p ∈ taken ↔ ∃ d ∈ plan.experiments.take k, d.output.normalise = p) :
    Verdict (plan.experimentChecks (e, k)) (validateExperiment plan.axes taken e) := by
  unfold validateExperiment
  refine Verdict.ite ?_ (Verdict.ite ?_ (Verdict.ite ?_ verdict_nil))
  · show (∃ axis, (e.family, axis) ∈ plan.axes.entries) ↔ _
    rw [← Keyed.contains_iff]
    simp
  · show e.output.bytes ≠ [] ↔ _
    rw [Path.isEmpty, List.isEmpty_iff]
  · show (∀ d ∈ plan.experiments.take k, d.output.normalise ≠ e.output.normalise) ↔ _
    rw [htaken]
    simp

/-- **The walk over the experiments.**  When `taken` holds the normal forms of the first `k` outputs, what
    is left comes to the verdict of its checks. -/
theorem verdict_validateExperiments {plan : Plan} : ∀ (es : List Experiment) (k : Nat) (taken : List Path),
    plan.experiments.drop k = es →
    (∀ p, p ∈ taken ↔ ∃ d ∈ plan.experiments.take k, d.output.normalise = p) →
    Verdict ((es.zipIdx k).flatMap plan.experimentChecks) (validateExperiments plan.axes taken es) := by
  intro es
  -- on the experiments that are left, for every place of the plan that they may begin at
  induction es with
  | nil => intro k taken _ _; exact verdict_nil
  | cons e es ih =>
    intro k taken hdrop htaken
    have hk : plan.experiments[k]? = some e := by rw [← List.head?_drop, hdrop]; rfl
    have htake : plan.experiments.take (k + 1) = plan.experiments.take k ++ [e] := by
      rw [List.take_add_one, hk]; rfl
    rw [List.zipIdx_cons, List.flatMap_cons]
    -- the invariant for the rest: `taken` has gained the normal form of `e`, the prefix has gained `e`
    refine (verdict_validateExperiment htaken).bind (ih (k + 1) _ ?_ ?_)
    · rw [← List.tail_drop, hdrop, List.tail_cons]
    · intro p
      rw [List.mem_cons, htaken, htake]
      constructor
      · rintro (rfl | ⟨d, hd, hp⟩)
        · exact ⟨e, List.mem_append_right _ List.mem_cons_self, rfl⟩
        · exact ⟨d, List.mem_append_left _ hd, hp⟩
      · rintro ⟨d, hd, hp⟩
        rcases List.mem_append.1 hd with hd | hd
        · exact Or.inr ⟨d, hd, hp⟩
        · exact Or.inl (by rw [← hp, List.mem_singleton.1 hd])

/-- The check of the settings comes to the verdict of its two checks. -/
theorem verdict_validateHarness (plan : Plan) :
    Verdict [⟨∃ c ∈ plan.harness.command.toList, Text.isBlank c = false, .noCommand⟩,
      ⟨plan.harness.runIdKey ≠ "" ∧ '=' ∉ plan.harness.runIdKey.toList,
        .unusableRunIdKey plan.harness.runIdKey⟩] (validateHarness plan.harness) := by
  unfold validateHarness
  refine Verdict.ite ?_ (Verdict.ite ?_ verdict_nil)
  · show (∃ c ∈ plan.harness.command.toList, Text.isBlank c = false) ↔ _
    simp
  · show (plan.harness.runIdKey ≠ "" ∧ '=' ∉ plan.harness.runIdKey.toList) ↔ _
    simp

/-- The check of the subjects comes to the verdict of its checks, name by name. -/
theorem verdict_validateSubjects (subjects : Subjects) :
    Verdict (⟨subjects.names ≠ [], .subjects .noSubjects⟩ :: subjects.names.flatMap nameChecks)
      (subjects.validate.mapError .subjects) := by
  have heq : subjects.validate.mapError Fault.subjects =
      if subjects.names.isEmpty then .error (.subjects .noSubjects)
      else subjects.names.forM fun name => (Subjects.validateName name).mapError .subjects := by
    unfold Subjects.validate
    split
    · rfl
    · exact mapError_forM _ _ _
  rw [heq]
  refine Verdict.ite ?_ (Verdict.forM verdict_validateName _)
  show subjects.names ≠ [] ↔ _
  rw [List.isEmpty_iff]

/-- Validation as one chain, without the early returns. -/
theorem validate_eq (plan : Plan) : plan.validate =
    if plan.repetitions = 0 then .error .noRepetitions
    else if plan.experiments.isEmpty then .error .noExperiments
    else validateHarness plan.harness >>= fun _ =>
      plan.subjects.validate.mapError .subjects >>= fun _ =>
        plan.axes.entries.forM validateAxis >>= fun _ =>
          validateExperiments plan.axes [] plan.experiments := by
  unfold validate
  split
  · rfl
  · split <;> rfl

/-- The validation of a plan comes to the verdict of its checks. -/
theorem verdict_validate (plan : Plan) : Verdict plan.checks plan.validate := by
  have hexperiments : Verdict (plan.experiments.zipIdx.flatMap plan.experimentChecks)
      (validateExperiments plan.axes [] plan.experiments) :=
    verdict_validateExperiments plan.experiments 0 [] rfl (fun p => by simp)
  rw [validate_eq, checks, scalarChecks]
  simp only [List.cons_append, List.nil_append, List.append_assoc]
  refine Verdict.ite ?_ (Verdict.ite ?_ ((verdict_validateHarness plan).bind
    ((verdict_validateSubjects plan.subjects).bind
      ((Verdict.forM verdict_validateAxis _).bind hexperiments))))
  · show 1 ≤ plan.repetitions.toNat ↔ _
    rw [← UInt32.toNat_inj]
    show 1 ≤ plan.repetitions.toNat ↔ ¬ plan.repetitions.toNat = 0
    omega
  · show plan.experiments ≠ [] ↔ _
    rw [List.isEmpty_iff]

/-! ## Valid plans

  The conditions together are `Valid`, which says nothing of checks or of their order. -/

/-- What a plan must be to be run. -/
structure Valid (plan : Plan) : Prop where
  repetitions : 1 ≤ plan.repetitions.toNat
  experiments : plan.experiments ≠ []
  /-- The command has a character that is not blank. -/
  command : ∃ c ∈ plan.harness.command.toList, Text.isBlank c = false
  runIdKey : plan.harness.runIdKey ≠ "" ∧ '=' ∉ plan.harness.runIdKey.toList
  subjects : plan.subjects.names ≠ []
  names : ∀ name ∈ plan.subjects.names,
    name ≠ "" ∧ ∀ c ∈ name.toList, c ≠ ':' ∧ Text.isBlank c = false
  /-- Every axis of the table is usable, also one that no experiment scans. -/
  axes : ∀ entry ∈ plan.axes.entries, entry.2.levels ≠ [] ∧ 0 ∉ entry.2.levels
  families : ∀ e ∈ plan.experiments, ∃ axis, (e.family, axis) ∈ plan.axes.entries
  outputs : ∀ e ∈ plan.experiments, e.output.bytes ≠ []
  /-- No two experiments have outputs that are spellings of one place. -/
  distinct : ∀ i j (hi : i < plan.experiments.length) (hj : j < plan.experiments.length), i ≠ j →
    plan.experiments[i].output.normalise ≠ plan.experiments[j].output.normalise

/-- Outputs differ from those before them exactly if they differ two by two. -/
theorem forall_take_normalise_ne_iff (es : List Experiment) :
    (∀ k (hk : k < es.length), ∀ d ∈ es.take k, d.output.normalise ≠ es[k].output.normalise) ↔
      ∀ i j (hi : i < es.length) (hj : j < es.length), i ≠ j →
        es[i].output.normalise ≠ es[j].output.normalise := by
  constructor
  · intro h i j hi hj hij
    -- of two places one is before the other, and inequality goes both ways
    have hlt : ∀ {a b : Nat} (ha : a < es.length) (hb : b < es.length), a < b →
        es[a].output.normalise ≠ es[b].output.normalise := by
      intro a b ha hb hab
      refine h b hb es[a] (List.mem_take_iff_getElem.2 ⟨a, by omega, rfl⟩)
    rcases Nat.lt_or_gt_of_ne hij with hij | hij
    · exact hlt hi hj hij
    · exact (hlt hj hi hij).symm
  · intro h k hk d hd
    obtain ⟨i, hi, rfl⟩ := List.mem_take_iff_getElem.1 hd
    exact h i k (by omega) hk (by omega)

/-- The checks of a name hold if the name is usable. -/
theorem forall_nameChecks_iff (name : String) : (∀ c ∈ nameChecks name, c.holds) ↔
    name ≠ "" ∧ ∀ c ∈ name.toList, c ≠ ':' ∧ Text.isBlank c = false := by
  simp only [nameChecks, List.forall_mem_cons, List.not_mem_nil, false_implies, implies_true, and_true]

/-- The checks of an axis hold if the axis is usable. -/
theorem forall_axisChecks_iff (entry : String × Axis) : (∀ c ∈ axisChecks entry, c.holds) ↔
    entry.2.levels ≠ [] ∧ 0 ∉ entry.2.levels := by
  simp only [axisChecks, List.forall_mem_cons, List.not_mem_nil, false_implies, implies_true, and_true]

/-- The checks of an experiment hold if its family is there and its output is its own. -/
theorem forall_experimentChecks_iff (plan : Plan) (entry : Experiment × Nat) :
    (∀ c ∈ plan.experimentChecks entry, c.holds) ↔
      (∃ axis, (entry.1.family, axis) ∈ plan.axes.entries) ∧ entry.1.output.bytes ≠ [] ∧
        ∀ e ∈ plan.experiments.take entry.2, e.output.normalise ≠ entry.1.output.normalise := by
  simp only [experimentChecks, List.forall_mem_cons, List.not_mem_nil, false_implies, implies_true, and_true]

/-- A plan is valid exactly when all of its checks hold. -/
theorem valid_iff_forall_checks (plan : Plan) : plan.Valid ↔ ∀ c ∈ plan.checks, c.holds := by
  -- the experiments with their places, as places of the list
  have hplace : ∀ {P : Experiment × Nat → Prop}, (∀ entry ∈ plan.experiments.zipIdx, P entry) ↔
      ∀ k (hk : k < plan.experiments.length), P (plan.experiments[k], k) := by
    intro P
    constructor
    · intro h k hk
      exact h _ (List.mk_mem_zipIdx_iff_getElem?.2 (List.getElem?_eq_getElem hk))
    · rintro h ⟨e, k⟩ hmem
      obtain ⟨hk, rfl⟩ := List.getElem?_eq_some_iff.1 (List.mk_mem_zipIdx_iff_getElem?.1 hmem)
      exact h k hk
  rw [checks, scalarChecks]
  simp only [List.forall_mem_append, List.forall_mem_flatMap, List.forall_mem_cons,
    List.not_mem_nil, false_implies, implies_true, and_true, forall_nameChecks_iff, forall_axisChecks_iff,
    forall_experimentChecks_iff, hplace]
  constructor
  · intro h
    refine ⟨⟨⟨⟨h.repetitions, h.experiments, h.command, h.runIdKey, h.subjects⟩, h.names⟩, h.axes⟩, ?_⟩
    intro k hk
    have hmem := List.getElem_mem hk
    exact ⟨h.families _ hmem, h.outputs _ hmem,
      (forall_take_normalise_ne_iff plan.experiments).2 h.distinct k hk⟩
  · rintro ⟨⟨⟨⟨hr, he, hc, hk, hs⟩, hn⟩, ha⟩, hx⟩
    refine ⟨hr, he, hc, hk, hs, hn, ha, ?_, ?_, ?_⟩
    · intro e hmem
      obtain ⟨k, hk, rfl⟩ := List.getElem_of_mem hmem
      exact (hx k hk).1
    · intro e hmem
      obtain ⟨k, hk, rfl⟩ := List.getElem_of_mem hmem
      exact (hx k hk).2.1
    · exact (forall_take_normalise_ne_iff plan.experiments).1 fun k hk => (hx k hk).2.2

/-- The validation passes the valid plans and no others. -/
theorem validate_eq_ok_iff (plan : Plan) : plan.validate = .ok () ↔ plan.Valid :=
  (verdict_validate plan).eq_ok_iff.trans (valid_iff_forall_checks plan).symm

/-- There is at most one first violated check. -/
theorem IsFirstViolated.unique {cs : List Check} {c d : Check} (hc : IsFirstViolated cs c)
    (hd : IsFirstViolated cs d) : c = d := by
  obtain ⟨before, after, hcs, hbefore, hc⟩ := hc
  obtain ⟨before', after', hcs', hbefore', hd⟩ := hd
  -- if one of them came first, it would stand before the other and hold
  rcases List.append_eq_append_iff.1 (hcs.symm.trans hcs') with ⟨m, rfl, hm⟩ | ⟨m, rfl, hm⟩
  · cases m with
    | nil => exact (List.cons.inj hm).1
    | cons x m =>
      have hx : x = c := ((List.cons.inj hm).1).symm
      exact absurd (hbefore' c (by rw [← hx]; simp)) hc
  · cases m with
    | nil => exact ((List.cons.inj hm).1).symm
    | cons x m =>
      have hx : x = d := ((List.cons.inj hm).1).symm
      exact absurd (hbefore d (by rw [← hx]; simp)) hd

/-- The validation reports the fault of the first check that does not hold. -/
theorem validate_eq_error_iff (plan : Plan) (fault : Fault) : plan.validate = .error fault ↔
    ∃ c, IsFirstViolated plan.checks c ∧ c.fault = fault := by
  have hverdict := verdict_validate plan
  constructor
  · intro h
    rwa [h] at hverdict
  · rintro ⟨c, hc, rfl⟩
    cases hv : plan.validate with
    | ok _ =>
      rw [hv] at hverdict
      obtain ⟨before, after, hchecks, -, hviolated⟩ := hc
      exact absurd (hverdict c (by rw [hchecks]; simp)) hviolated
    -- there is only one check that is violated first, so the fault is its own
    | error fault =>
      rw [hv] at hverdict
      obtain ⟨d, hd, rfl⟩ := hverdict
      rw [hc.unique hd]

/-- **Validation is exact.**  It passes the valid plans and no others, and of a plan that is not valid it
    reports the first check that does not hold, in the order of `checks`, with the text of that fault. -/
theorem validate_exact (plan : Plan) :
    (plan.validate = .ok () ↔ plan.Valid) ∧
      (∀ fault, plan.validate = .error fault ↔
        ∃ c, IsFirstViolated plan.checks c ∧ c.fault = fault) ∧
      ∀ text, plan.validate.mapError (Fault.message plan.name) = .error text ↔
        ∃ c, IsFirstViolated plan.checks c ∧ c.fault.message plan.name = text := by
  refine ⟨validate_eq_ok_iff plan, validate_eq_error_iff plan, fun text => ?_⟩
  constructor
  · intro h
    cases hv : plan.validate with
    | ok _ =>
      rw [hv] at h
      cases h
    | error fault =>
      rw [hv] at h
      obtain ⟨c, hc, rfl⟩ := (validate_eq_error_iff plan fault).1 hv
      exact ⟨c, hc, Except.error.inj h⟩
  · rintro ⟨c, hc, rfl⟩
    rw [(validate_eq_error_iff plan c.fault).2 ⟨c, hc, rfl⟩]
    rfl

end Plan
end BenchSweep
