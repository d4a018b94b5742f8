/-
  Which documents are plans, and which plan a document is.

  A document is accepted exactly if it has the shape of a plan (`IsPlan`): every field that it gives is of its
  own kind, and those that have no usual value are there.  The kinds of the fields stand in three lists, in
  the order of the types (`harnessKinds`, `experimentKinds`, `planKinds`); a structure may be a table, or an
  array whose items are of the kinds of the list one after the other.  What stands under a key that no
  structure has is passed over, but its numbers must fit (`Fits`).

  An accepted document says of every field of the plan what it is (`Describes`): a number is the number that
  is written, a list has the items that are written, and a field that is left out has its usual value,
  whatever the other fields are.  Nothing is left open by that (`Describes.unique`).

  The harness, the experiments and the plan itself are treated alike: what one entry does to the fields that
  are known so far (`exists_harnessField_iff`, `settingsOf_harnessField`), what all entries do, and what the
  structure is when all of them are taken.  The entries of a document have each key once, because they are in
  order (`Toml.Document.ordered_of_read?`).
-/
import BenchSweep.Plan.Text
import BenchSweep.Proofs.Plan.Kinds

namespace BenchSweep.Plan
namespace Shape

open Toml (Value)

/-! ## The shape of a plan

  A structure is given by the kinds of its fields.  What may be left out is said beside them, for a table by
  the keys that must be there and for an array by its length. -/

/-- The settings of the harness: its program and action, three numbers, one flag and a key. -/
def harnessKinds : Kinds :=
  [("command", IsText), ("action", IsText), ("iterations", IsWord), ("epoch_freq", IsWord),
    ("empty_freq", IsWord), ("verbose", IsFlag), ("run_id_key", IsText)]

/-- The settings are a table or an array, none of whose fields need be there; a date counts as a table
    without them. -/
def IsHarness (v : Value) : Prop :=
  (∃ es, v = .table es ∧ ∀ e ∈ es, harnessKinds.Admits e) ∨ (∃ s, v = .date s) ∨
    ∃ items, v = .array items ∧ harnessKinds.AdmitsItems items

/-- The fields of an experiment.  A path is written as a text, so its kind is that of texts. -/
def experimentKinds : Kinds :=
  [("name", IsText), ("family", IsText), ("selector", IsWord), ("mode", IsWord), ("count_retired", IsFlag),
    ("output", IsText)]

/-- An experiment is a table, in which only `count_retired` may be left out, or an array that begins with
    all its fields. -/
def IsExperiment (v : Value) : Prop :=
  (∃ es, v = .table es ∧ (∀ e ∈ es, experimentKinds.Admits e) ∧
    ∀ key ∈ ["name", "family", "selector", "mode", "output"], (es.lookup key).isSome = true) ∨
  ∃ items, v = .array items ∧ experimentKinds.length ≤ items.length ∧ experimentKinds.AdmitsItems items

/-- The fields of a plan.  The structures inside it have kinds of their own, which are given by their own
    lists. -/
def planKinds : Kinds :=
  [("name", IsText), ("repetitions", IsWord), ("subjects", IsList IsText), ("harness", IsHarness),
    ("axes", IsTable (IsList IsWord)), ("experiments", IsList IsExperiment)]

/-- The shape of a plan, of which the name and the settings may be left out. -/
def IsPlan (document : List (String × Value)) : Prop :=
  (∀ e ∈ document, planKinds.Admits e) ∧
    ∀ key ∈ ["repetitions", "subjects", "axes", "experiments"], (document.lookup key).isSome = true

/-! ## What a document says

  One relation for each structure, with a line for each field: under which key it is looked up, and what it
  is if the key is there or is not. -/

/-- The fields that a structure gives, by name. -/
def fieldsOf (keys : List String) : Value → List (String × Value)
  | .table es => es
  | .array items => keys.zip items
  | _ => []

/-- What some fields say of the settings, given what is usual for those that are left out. -/
structure SettingsOf (usual : HarnessSettings) (es : List (String × Value)) (h : HarnessSettings) : Prop where
  command : Given TextOf usual.command (es.lookup "command") h.command
  action : Given TextOf usual.action (es.lookup "action") h.action
  iterations : Given WordOf usual.iterations (es.lookup "iterations") h.iterations
  epochFreq : Given WordOf usual.epochFreq (es.lookup "epoch_freq") h.epochFreq
  emptyFreq : Given WordOf usual.emptyFreq (es.lookup "empty_freq") h.emptyFreq
  verbose : Given FlagOf usual.verbose (es.lookup "verbose") h.verbose
  runIdKey : Given TextOf usual.runIdKey (es.lookup "run_id_key") h.runIdKey

/-- What a value says of an experiment.  All but one of the fields have to be found. -/
structure ExperimentOf (v : Value) (e : Experiment) : Prop where
  name : Found TextOf ((fieldsOf experimentKeys v).lookup "name") e.name
  family : Found TextOf ((fieldsOf experimentKeys v).lookup "family") e.family
  selector : Found WordOf ((fieldsOf experimentKeys v).lookup "selector") e.selector
  mode : Found WordOf ((fieldsOf experimentKeys v).lookup "mode") e.mode
  countRetired : Given FlagOf false ((fieldsOf experimentKeys v).lookup "count_retired") e.countRetired
  output : Found PathOf ((fieldsOf experimentKeys v).lookup "output") e.output

/-- The axes of a table are those of its entries, in their order. -/
def AxesOf (v : Value) (axes : Keyed Axis) : Prop :=
  ∃ es, v = .table es ∧
    List.Forall₂ (fun e f => e.1 = f.1 ∧ ListOf WordOf e.2 f.2.levels) es axes.entries

/-- What a document says of the plan that it is. -/
structure Describes (document : List (String × Value)) (plan : Plan) : Prop where
  name : Given TextOf "custom" (document.lookup "name") plan.name
  repetitions : Found WordOf (document.lookup "repetitions") plan.repetitions
  subjects : Found (ListOf TextOf) (document.lookup "subjects") plan.subjects.names
  harness : SettingsOf {} ((document.lookup "harness").elim [] (fieldsOf harnessKeys)) plan.harness
  axes : Found AxesOf (document.lookup "axes") plan.axes
  experiments : Found (ListOf ExperimentOf) (document.lookup "experiments") plan.experiments

/-- Settings are given by the fields that say what they are, one after the other. -/
theorem SettingsOf.unique {usual s t : HarnessSettings} {es : List (String × Value)}
    (hs : SettingsOf usual es s) (ht : SettingsOf usual es t) : s = t := by
  obtain ⟨_, _, _, _, _, _, _⟩ := s
  obtain ⟨_, _, _, _, _, _, _⟩ := t
  rw [HarnessSettings.mk.injEq]
  exact ⟨hs.command.unique rightUnique_textOf ht.command, hs.action.unique rightUnique_textOf ht.action,
    hs.iterations.unique rightUnique_wordOf ht.iterations, hs.epochFreq.unique rightUnique_wordOf ht.epochFreq,
    hs.emptyFreq.unique rightUnique_wordOf ht.emptyFreq, hs.verbose.unique rightUnique_flagOf ht.verbose,
    hs.runIdKey.unique rightUnique_textOf ht.runIdKey⟩

/-- A value stands for one experiment at most. -/
theorem rightUnique_experimentOf : Relator.RightUnique ExperimentOf := by
  rintro v ⟨_, _, _, _, _, _⟩ ⟨_, _, _, _, _, _⟩ h h'
  rw [Experiment.mk.injEq]
  exact ⟨h.name.unique rightUnique_textOf h'.name, h.family.unique rightUnique_textOf h'.family,
    h.selector.unique rightUnique_wordOf h'.selector, h.mode.unique rightUnique_wordOf h'.mode,
    h.countRetired.unique rightUnique_flagOf h'.countRetired, h.output.unique rightUnique_pathOf h'.output⟩

/-- A value stands for one table of axes at most: the keys are those of its entries, and so are the levels.
    -/
theorem rightUnique_axesOf : Relator.RightUnique AxesOf := by
  rintro v s t ⟨es, rfl, hs⟩ ⟨others, hothers, ht⟩
  cases hothers
  refine Keyed.eq_of_entries_eq (Relator.RightUnique.forall₂ ?_ hs ht)
  rintro e ⟨key, levels⟩ ⟨other, levels'⟩ ⟨rfl, h⟩ ⟨rfl, h'⟩
  rw [Prod.mk.injEq, Axis.mk.injEq]
  exact ⟨rfl, rightUnique_listOf rightUnique_wordOf h h'⟩

/-- What a document says leaves nothing of the plan open. -/
theorem Describes.unique {document : List (String × Value)} {plan plan' : Plan}
    (h : Describes document plan) (h' : Describes document plan') : plan = plan' := by
  obtain ⟨_, _, _, _, _, _⟩ := plan
  obtain ⟨_, _, _, _, _, _⟩ := plan'
  rw [Plan.mk.injEq]
  refine ⟨h.name.unique rightUnique_textOf h'.name, h.repetitions.unique rightUnique_wordOf h'.repetitions,
    ?_, h.harness.unique h'.harness, h.axes.unique rightUnique_axesOf h'.axes,
    h.experiments.unique (rightUnique_listOf rightUnique_experimentOf) h'.experiments⟩
  exact congrArg Subjects.mk (h.subjects.unique (rightUnique_listOf rightUnique_textOf) h'.subjects)

/-! ## The harness

  The settings begin with what is usual, and each entry sets the field that it names. -/

/-- An entry is taken if it is of the kind of the field that it names, whatever the settings are so far. -/
theorem exists_harnessField_iff (s : HarnessSettings) (e : String × Value) :
    (∃ s', harnessField s e.1 e.2 = .ok s') ↔ harnessKinds.Admits e := by
  obtain ⟨key, v⟩ := e
  dsimp only
  unfold harnessField
  -- the cases are the fields in the order of the type, and last all other keys
  split
  case h_1 | h_2 | h_7 => exact exists_set_iff.trans exists_text_iff
  case h_3 | h_4 | h_5 => exact exists_set_iff.trans exists_word_iff
  case h_6 => exact exists_set_iff.trans exists_flag_iff
  case h_8 =>
    have hother : key ∉ harnessKinds.map Prod.fst := by simp_all [harnessKinds]
    exact (exists_set_iff.trans exists_passOver_iff).trans (Kinds.admits_iff_fits hother).symm

/-- An entry sets the field that it names and leaves the others as they are. -/
theorem settingsOf_harnessField {s s' : HarnessSettings} {e : String × Value}
    (h : harnessField s e.1 e.2 = .ok s') : SettingsOf s [e] s' := by
  obtain ⟨key, v⟩ := e
  dsimp only at h
  unfold harnessField at h
  -- each field is set by its own case and left as it is by the others
  split at h
  all_goals
    obtain ⟨a, ha, hs⟩ := bind_eq_ok_iff.1 h
    cases hs
    constructor
  all_goals
    simp_all only [given_singleton_iff, text_eq_ok_iff, word_eq_ok_iff, flag_eq_ok_iff, String.reduceEq,
      if_true, if_false, imp_false]

/-- No entries leave the settings as they are. -/
theorem settingsOf_nil (s : HarnessSettings) : SettingsOf s [] s := ⟨rfl, rfl, rfl, rfl, rfl, rfl, rfl⟩

/-- All entries together set each field to what its key is found to say, if no key is there twice. -/
theorem settingsOf_foldlM {es : List (String × Value)} (hes : (es.map Prod.fst).Nodup)
    {s s' : HarnessSettings} (h : es.foldlM (fun s e => harnessField s e.1 e.2) s = .ok s') :
    SettingsOf s es s' where
  command := given_foldlM (fun _ _ _ h => (settingsOf_harnessField h).command) hes h
  action := given_foldlM (fun _ _ _ h => (settingsOf_harnessField h).action) hes h
  iterations := given_foldlM (fun _ _ _ h => (settingsOf_harnessField h).iterations) hes h
  epochFreq := given_foldlM (fun _ _ _ h => (settingsOf_harnessField h).epochFreq) hes h
  emptyFreq := given_foldlM (fun _ _ _ h => (settingsOf_harnessField h).emptyFreq) hes h
  verbose := given_foldlM (fun _ _ _ h => (settingsOf_harnessField h).verbose) hes h
  runIdKey := given_foldlM (fun _ _ _ h => (settingsOf_harnessField h).runIdKey) hes h

/-- The settings are taken from a table or an array whose fields are of their kinds, and from a date. -/
theorem exists_harness_iff {v : Value} : (∃ s, harness v = .ok s) ↔ IsHarness v := by
  -- a table and an array are read by the same walk, and differ in where the names come from
  have hfold : ∀ es : List (String × Value),
      (∃ s, es.foldlM (fun s e => harnessField s e.1 e.2) {} = .ok s) ↔ ∀ e ∈ es, harnessKinds.Admits e :=
    fun es => exists_foldlM_eq_ok_iff (fun e _ s => exists_harnessField_iff s e) {}
  unfold IsHarness
  cases v with
  | table es =>
    refine (hfold es).trans ⟨fun h => Or.inl ⟨es, rfl, h⟩, ?_⟩
    rintro (⟨others, hothers, h⟩ | ⟨s, hs⟩ | ⟨items, hitems, -⟩)
    · cases hothers
      exact h
    · cases hs
    · cases hitems
  | array items =>
    have hnodup : (harnessKinds.map Prod.fst).Nodup := by decide
    refine ((hfold _).trans (Kinds.admits_zip_iff hnodup)).trans ⟨fun h => Or.inr (Or.inr ⟨items, rfl, h⟩), ?_⟩
    rintro (⟨others, hothers, h⟩ | ⟨s, hs⟩ | ⟨others, hothers, h⟩)
    · cases hothers
    · cases hs
    · cases hothers
      exact h
  -- a date is handed over as a table with one entry that is no field, so the settings are the usual ones
  | date s => exact ⟨fun _ => Or.inr (Or.inl ⟨s, rfl⟩), fun _ => ⟨{}, rfl⟩⟩
  | _ =>
    constructor
    · rintro ⟨s, hs⟩
      cases hs
    · rintro (⟨es, h, -⟩ | ⟨s, h⟩ | ⟨items, h, -⟩) <;> cases h

/-- The settings that are taken are those that the value says, which for an array is by the places of its
    items. -/
theorem settingsOf_harness {v : Value} (hv : v.Ordered) {s : HarnessSettings} (h : harness v = .ok s) :
    SettingsOf {} (fieldsOf harnessKeys v) s := by
  cases v with
  | table es =>
    have hascending := (Value.ordered_table_iff.1 hv).1
    exact settingsOf_foldlM (Keyed.nodup_keys_of_ascending hascending) h
  | array items => exact settingsOf_foldlM (nodup_keys_zip (by decide) items) h
  | date t =>
    obtain rfl : {} = s := Except.ok.inj h
    exact settingsOf_nil {}
  | _ => cases h

/-! ## Experiments

  All but one of the fields have no usual value, so the walk carries for each of them whether it was set,
  and at its end those that were not are missed. -/

/-- What entries make of an experiment of which some fields are known. -/
structure ExperimentDraftOf (d : ExperimentDraft) (es : List (String × Value)) (d' : ExperimentDraft) :
    Prop where
  name : Given (Once TextOf) d.name (es.lookup "name") d'.name
  family : Given (Once TextOf) d.family (es.lookup "family") d'.family
  selector : Given (Once WordOf) d.selector (es.lookup "selector") d'.selector
  mode : Given (Once WordOf) d.mode (es.lookup "mode") d'.mode
  countRetired : Given FlagOf d.countRetired (es.lookup "count_retired") d'.countRetired
  output : Given (Once PathOf) d.output (es.lookup "output") d'.output

/-- An entry is taken if it is of the kind of the field that it names, whatever is known so far. -/
theorem exists_experimentField_iff (d : ExperimentDraft) (e : String × Value) :
    (∃ d', experimentField d e.1 e.2 = .ok d') ↔ experimentKinds.Admits e := by
  obtain ⟨key, v⟩ := e
  dsimp only
  unfold experimentField
  split
  case h_1 | h_2 => exact exists_set_iff.trans exists_text_iff
  case h_3 | h_4 => exact exists_set_iff.trans exists_word_iff
  case h_5 => exact exists_set_iff.trans exists_flag_iff
  case h_6 => exact exists_set_iff.trans exists_path_iff
  case h_7 =>
    have hother : key ∉ experimentKinds.map Prod.fst := by simp_all [experimentKinds]
    exact (exists_set_iff.trans exists_passOver_iff).trans (Kinds.admits_iff_fits hother).symm

/-- An entry sets the field that it names and leaves the others as they are. -/
theorem experimentDraftOf_experimentField {d d' : ExperimentDraft} {e : String × Value}
    (h : experimentField d e.1 e.2 = .ok d') : ExperimentDraftOf d [e] d' := by
  obtain ⟨key, v⟩ := e
  dsimp only at h
  unfold experimentField at h
  -- field by field, as for the settings; what is set is now known
  split at h
  all_goals
    obtain ⟨a, ha, hd⟩ := bind_eq_ok_iff.1 h
    cases hd
    constructor
  all_goals
    simp_all only [given_singleton_iff, text_eq_ok_iff, word_eq_ok_iff, flag_eq_ok_iff, path_eq_ok_iff, Once,
      Option.some.injEq, exists_eq_left', String.reduceEq, if_true, if_false, imp_false]

/-- All entries together set each field to what its key is found to say, if no key is there twice. -/
theorem experimentDraftOf_foldlM {es : List (String × Value)} (hes : (es.map Prod.fst).Nodup)
    {d d' : ExperimentDraft} (h : es.foldlM (fun d e => experimentField d e.1 e.2) d = .ok d') :
    ExperimentDraftOf d es d' where
  name := given_foldlM (fun _ _ _ h => (experimentDraftOf_experimentField h).name) hes h
  family := given_foldlM (fun _ _ _ h => (experimentDraftOf_experimentField h).family) hes h
  selector := given_foldlM (fun _ _ _ h => (experimentDraftOf_experimentField h).selector) hes h
  mode := given_foldlM (fun _ _ _ h => (experimentDraftOf_experimentField h).mode) hes h
  countRetired := given_foldlM (fun _ _ _ h => (experimentDraftOf_experimentField h).countRetired) hes h
  output := given_foldlM (fun _ _ _ h => (experimentDraftOf_experimentField h).output) hes h

/-- A draft is finished if all that has no usual value is known, and the experiment has just the known
    fields. -/
theorem ExperimentDraft.finish_eq_ok_iff {d : ExperimentDraft} {e : Experiment} :
    d.finish = .ok e ↔ d.name = some e.name ∧ d.family = some e.family ∧ d.selector = some e.selector ∧
      d.mode = some e.mode ∧ d.countRetired = e.countRetired ∧ d.output = some e.output := by
  simp only [finish, bind_eq_ok_iff, required_eq_ok_iff]
  constructor
  · rintro ⟨name, hname, family, hfamily, selector, hselector, mode, hmode, output, houtput, he⟩
    cases he
    exact ⟨hname, hfamily, hselector, hmode, rfl, houtput⟩
  · rintro ⟨hname, hfamily, hselector, hmode, hretired, houtput⟩
    refine ⟨_, hname, _, hfamily, _, hselector, _, hmode, _, houtput, ?_⟩
    rw [hretired]
    rfl

/-- An experiment is complete when all that has to be there was found. -/
theorem ExperimentDraftOf.exists_finish_iff {es : List (String × Value)} {d : ExperimentDraft}
    (h : ExperimentDraftOf {} es d) : (∃ e, d.finish = .ok e) ↔
      ∀ key ∈ ["name", "family", "selector", "mode", "output"], (es.lookup key).isSome = true := by
  simp only [ExperimentDraft.finish_eq_ok_iff, List.forall_mem_cons, ← h.name.isSome_iff,
    ← h.family.isSome_iff, ← h.selector.isSome_iff, ← h.mode.isSome_iff, ← h.output.isSome_iff]
  constructor
  · rintro ⟨e, hname, hfamily, hselector, hmode, -, houtput⟩
    exact ⟨⟨_, hname⟩, ⟨_, hfamily⟩, ⟨_, hselector⟩, ⟨_, hmode⟩, ⟨_, houtput⟩,
      fun _ hkey => absurd hkey List.not_mem_nil⟩
  · rintro ⟨⟨name, hname⟩, ⟨family, hfamily⟩, ⟨selector, hselector⟩, ⟨mode, hmode⟩, ⟨output, houtput⟩, -⟩
    exact ⟨⟨name, family, selector, mode, d.countRetired, output⟩, hname, hfamily, hselector, hmode, rfl,
      houtput⟩

/-- The experiment of some fields: each is of its kind, and those that have to be there are. -/
theorem exists_experimentFields_iff {es : List (String × Value)} (hes : (es.map Prod.fst).Nodup) :
    (∃ e, (es.foldlM (fun d e => experimentField d e.1 e.2) {} >>= ExperimentDraft.finish) = .ok e) ↔
      (∀ e ∈ es, experimentKinds.Admits e) ∧
        ∀ key ∈ ["name", "family", "selector", "mode", "output"], (es.lookup key).isSome = true :=
  exists_bind_eq_ok_iff (exists_foldlM_eq_ok_iff (fun e _ d => exists_experimentField_iff d e) {})
    fun _ hwalk => (experimentDraftOf_foldlM hes hwalk).exists_finish_iff

/-- An array that is too short is refused, but only after its items were read, so a bad item is the fault
    that is told. -/
theorem experiment_array (items : List Value) : experiment (.array items) =
    if items.length < experimentKeys.length then
      (experimentKeys.zip items).foldlM (fun d e => experimentField d e.1 e.2) {} >>= fun _ =>
        .error (.tooShort (fieldsGiven items.length))
    else
      (experimentKeys.zip items).foldlM (fun d e => experimentField d e.1 e.2) {} >>=
        ExperimentDraft.finish := by
  split
  · next hshort =>
    unfold experiment
    simp only [if_pos hshort]
  · next hlong =>
    unfold experiment
    simp only [if_neg hlong]

/-- An experiment is taken from a table that has all fields that it needs, and from an array that has all
    there are. -/
theorem exists_experiment_iff {v : Value} (hv : v.Ordered) :
    (∃ e, experiment v = .ok e) ↔ IsExperiment v := by
  unfold IsExperiment
  cases v with
  | table es =>
    have hascending := (Value.ordered_table_iff.1 hv).1
    refine (exists_experimentFields_iff (Keyed.nodup_keys_of_ascending hascending)).trans
      ⟨fun h => Or.inl ⟨es, rfl, h⟩, ?_⟩
    rintro (⟨others, hothers, h⟩ | ⟨items, hitems, -⟩)
    · cases hothers
      exact h
    · cases hitems
  | array items =>
    have hnodup : (experimentKinds.map Prod.fst).Nodup := by decide
    rw [experiment_array]
    constructor
    · intro h
      split at h
      · obtain ⟨e, he⟩ := h
        obtain ⟨d, -, hd⟩ := bind_eq_ok_iff.1 he
        cases hd
      · next hlong =>
        have hfields := (exists_experimentFields_iff (nodup_keys_zip hnodup items)).1 h
        exact Or.inr ⟨items, rfl, Nat.le_of_not_lt hlong, (Kinds.admits_zip_iff hnodup).1 hfields.1⟩
    · rintro (⟨others, hothers, -⟩ | ⟨others, hothers, hlong, h⟩)
      · cases hothers
      · cases hothers
        have hnot : ¬ items.length < experimentKeys.length := Nat.not_lt.2 hlong
        rw [if_neg hnot]
        refine (exists_experimentFields_iff (nodup_keys_zip hnodup items)).2
          ⟨(Kinds.admits_zip_iff hnodup).2 h, fun key hkey => ?_⟩
        -- there are as many items as fields, so each key has its item
        have hkeys : ((experimentKeys.zip items).map Prod.fst) = experimentKeys := List.map_fst_zip hlong
        have hmem : key ∈ (experimentKeys.zip items).map Prod.fst := by
          rw [hkeys]
          revert key
          decide
        obtain ⟨e, he, rfl⟩ := List.mem_map.1 hmem
        exact Keyed.lookup_isSome_iff.2 ⟨e.2, he⟩
  | _ =>
    -- also a date: it counts as a table, but none of the fields is in it
    constructor
    · rintro ⟨e, he⟩
      cases he
    · rintro (⟨es, h, -⟩ | ⟨items, h, -⟩) <;> cases h

/-- A draft made of the fields of a value is finished as the experiment that the value says. -/
theorem experimentOf_fields {v : Value} {d : ExperimentDraft} {e : Experiment}
    (h : ExperimentDraftOf {} (fieldsOf experimentKeys v) d) (he : d.finish = .ok e) : ExperimentOf v e := by
  obtain ⟨hname, hfamily, hselector, hmode, hretired, houtput⟩ := ExperimentDraft.finish_eq_ok_iff.1 he
  exact ⟨h.name.found hname, h.family.found hfamily, h.selector.found hselector, h.mode.found hmode,
    hretired ▸ h.countRetired, h.output.found houtput⟩

/-- The experiment that is taken is the one that the value says. -/
theorem experimentOf_experiment {v : Value} (hv : v.Ordered) {e : Experiment} (h : experiment v = .ok e) :
    ExperimentOf v e := by
  cases v with
  | table es =>
    obtain ⟨d, hwalk, hfinish⟩ := bind_eq_ok_iff.1 h
    have hnodup := Keyed.nodup_keys_of_ascending (Value.ordered_table_iff.1 hv).1
    exact experimentOf_fields (experimentDraftOf_foldlM hnodup hwalk) hfinish
  | array items =>
    rw [experiment_array] at h
    split at h
    · obtain ⟨d, -, hd⟩ := bind_eq_ok_iff.1 h
      cases hd
    · obtain ⟨d, hwalk, hfinish⟩ := bind_eq_ok_iff.1 h
      exact experimentOf_fields (experimentDraftOf_foldlM (nodup_keys_zip (by decide) items) hwalk) hfinish
  | _ => cases h

/-! ## Axes

  The axes are a table by the names of their families.  They are inserted one by one, and since the entries
  of the document are in order each insertion is at the end. -/

/-- An axis is read from an array of numbers, which are its levels in their order. -/
theorem axis_eq_ok_iff {v : Value} {a : Axis} : axis v = .ok a ↔ ListOf WordOf v a.levels := by
  refine items_eq_ok_iff.trans ?_
  simp only [word_eq_ok_iff]
  constructor
  · rintro ⟨levels, h, rfl⟩
    exact h
  · intro h
    exact ⟨a.levels, h, rfl⟩

/-- An axis is taken from an array of numbers that fit, empty or not. -/
theorem exists_axis_iff {v : Value} : (∃ a, axis v = .ok a) ↔ IsList IsWord v :=
  exists_items_iff fun _ _ _ _ => exists_word_iff

/-- The axes are taken from a table of such arrays. -/
theorem exists_axes_iff {v : Value} : (∃ t, axes v = .ok t) ↔ IsTable (IsList IsWord) v := by
  have hstep : ∀ (e : String × Value) (t : Keyed Axis),
      (∃ t', (return t.insert e.1 (← axis e.2) : Except Fault (Keyed Axis)) = .ok t') ↔ IsList IsWord e.2 :=
    fun _ _ => exists_set_iff.trans exists_axis_iff
  have hfold : ∀ es : List (String × Value),
      (∃ t, es.foldlM (fun (t : Keyed Axis) e => return t.insert e.1 (← axis e.2)) Keyed.empty = .ok t) ↔
        ∀ e ∈ es, IsList IsWord e.2 :=
    fun es => exists_foldlM_eq_ok_iff (fun e _ t => hstep e t) Keyed.empty
  unfold IsTable
  cases v with
  | table es =>
    refine (hfold es).trans ⟨fun h => ⟨es, rfl, h⟩, ?_⟩
    rintro ⟨others, hothers, h⟩
    cases hothers
    exact h
  | _ =>
    constructor
    · rintro ⟨t, ht⟩
      cases ht
    · rintro ⟨es, hes, -⟩
      cases hes

/-- Axes whose keys are in order, and above those that are there already, are added at the end. -/
theorem entries_of_foldlM {es : List (String × Value)} (hes : es.Pairwise fun a b => a.1 < b.1)
    {t t' : Keyed Axis} (ht : ∀ d ∈ t.entries, ∀ e ∈ es, d.1 < e.1)
    (h : es.foldlM (fun (t : Keyed Axis) e => return t.insert e.1 (← axis e.2)) t = .ok t') :
    ∃ fs, t'.entries = t.entries ++ fs ∧
      List.Forall₂ (fun e f => e.1 = f.1 ∧ ListOf WordOf e.2 f.2.levels) es fs := by
  -- on the entries, for every table that is below all those to come
  induction es generalizing t with
  | nil =>
    obtain rfl := Except.ok.inj h
    exact ⟨[], (List.append_nil _).symm, .nil⟩
  | cons e es ih =>
    obtain ⟨hfirst, hrest⟩ := List.pairwise_cons.1 hes
    obtain ⟨next, hnext, hwalk⟩ := bind_eq_ok_iff.1 h
    obtain ⟨a, ha, heq⟩ := bind_eq_ok_iff.1 hnext
    obtain rfl := Except.ok.inj heq
    have hentries : (t.insert e.1 a).entries = t.entries ++ [(e.1, a)] :=
      Keyed.place_of_all_lt (fun d hd => ht d hd e List.mem_cons_self) a
    -- the table is still below the rest: so it was before, and the new key is by the order of the entries
    have hbelow : ∀ d ∈ (t.insert e.1 a).entries, ∀ f ∈ es, d.1 < f.1 := by
      intro d hd f hf
      rw [hentries] at hd
      rcases List.mem_append.1 hd with hd | hd
      · exact ht d hd f (List.mem_cons_of_mem _ hf)
      · obtain rfl := List.mem_singleton.1 hd
        exact hfirst f hf
    obtain ⟨fs, hfs, hall⟩ := ih hrest hbelow hwalk
    refine ⟨(e.1, a) :: fs, ?_, .cons ⟨rfl, axis_eq_ok_iff.1 ha⟩ hall⟩
    rw [hfs, hentries, List.append_assoc]
    rfl

/-- The axes that are taken are those that the value says, entry for entry. -/
theorem axesOf_axes {v : Value} (hv : v.Ordered) {t : Keyed Axis} (h : axes v = .ok t) : AxesOf v t := by
  cases v with
  | table es =>
    have hascending := (Value.ordered_table_iff.1 hv).1
    obtain ⟨fs, hfs, hall⟩ :=
      entries_of_foldlM hascending (t := .empty) (fun _ hd => absurd hd List.not_mem_nil) h
    obtain rfl : t.entries = fs := hfs
    exact ⟨es, rfl, hall⟩
  | _ => cases h

/-! ## Whole documents

  The plan itself is read like the structures in it, with their readers for its fields.  Only here the order
  of the document is needed below the first level, for the experiments and the axes. -/

/-- What entries make of a plan of which some fields are known. -/
structure DraftOf (d : Draft) (es : List (String × Value)) (d' : Draft) : Prop where
  name : Given TextOf d.name (es.lookup "name") d'.name
  repetitions : Given (Once WordOf) d.repetitions (es.lookup "repetitions") d'.repetitions
  subjects : Given (Once fun v (s : Subjects) => ListOf TextOf v s.names) d.subjects (es.lookup "subjects")
    d'.subjects
  harness : Given (fun v h => Shape.harness v = .ok h) d.harness (es.lookup "harness") d'.harness
  axes : Given (Once fun v t => Shape.axes v = .ok t) d.axes (es.lookup "axes") d'.axes
  experiments : Given (Once (ListOf fun v e => experiment v = .ok e)) d.experiments
    (es.lookup "experiments") d'.experiments

/-- An entry is taken if it is of the kind of the field that it names, whatever is known so far. -/
theorem exists_field_iff {e : String × Value} (he : e.2.Ordered) (d : Draft) :
    (∃ d', field d e.1 e.2 = .ok d') ↔ planKinds.Admits e := by
  obtain ⟨key, v⟩ := e
  dsimp only at he ⊢
  have hexperiments : ∀ items, v = .array items → ∀ w ∈ items,
      (∃ x, experiment w = .ok x) ↔ IsExperiment w := by
    rintro items rfl w hw
    exact exists_experiment_iff (he.item hw)
  unfold field
  split
  case h_1 => exact exists_set_iff.trans exists_text_iff
  case h_2 => exact exists_set_iff.trans exists_word_iff
  case h_3 => exact exists_items_iff fun _ _ _ _ => exists_text_iff
  case h_4 => exact exists_set_iff.trans exists_harness_iff
  case h_5 => exact exists_set_iff.trans exists_axes_iff
  case h_6 => exact exists_items_iff hexperiments
  case h_7 =>
    have hother : key ∉ planKinds.map Prod.fst := by simp_all [planKinds]
    exact (exists_set_iff.trans exists_passOver_iff).trans (Kinds.admits_iff_fits hother).symm

/-- An entry sets the field that it names and leaves the others as they are. -/
theorem draftOf_field {d d' : Draft} {e : String × Value} (h : field d e.1 e.2 = .ok d') :
    DraftOf d [e] d' := by
  obtain ⟨key, v⟩ := e
  dsimp only at h
  unfold field at h
  split at h
  -- the fields that are lists: the subjects and the experiments
  case h_3 | h_6 =>
    obtain ⟨xs, hxs, rfl⟩ := items_eq_ok_iff.1 h
    clear h
    constructor <;>
      simp_all only [given_singleton_iff, text_eq_ok_iff, Once, Option.some.injEq, exists_eq_left',
        String.reduceEq, if_true, if_false]
  all_goals
    obtain ⟨a, ha, hd⟩ := bind_eq_ok_iff.1 h
    cases hd
    constructor
  all_goals
    simp_all only [given_singleton_iff, text_eq_ok_iff, word_eq_ok_iff, Once, Option.some.injEq,
      exists_eq_left', String.reduceEq, if_true, if_false, imp_false]

/-- All entries together set each field to what its key is found to say, if no key is there twice. -/
theorem draftOf_foldlM {es : List (String × Value)} (hes : (es.map Prod.fst).Nodup) {d d' : Draft}
    (h : es.foldlM (fun d e => field d e.1 e.2) d = .ok d') : DraftOf d es d' where
  name := given_foldlM (fun _ _ _ h => (draftOf_field h).name) hes h
  repetitions := given_foldlM (fun _ _ _ h => (draftOf_field h).repetitions) hes h
  subjects := given_foldlM (fun _ _ _ h => (draftOf_field h).subjects) hes h
  harness := given_foldlM (fun _ _ _ h => (draftOf_field h).harness) hes h
  axes := given_foldlM (fun _ _ _ h => (draftOf_field h).axes) hes h
  experiments := given_foldlM (fun _ _ _ h => (draftOf_field h).experiments) hes h

/-- A draft is finished if all that has no usual value is known, and the plan has just the known fields. -/
theorem Draft.finish_eq_ok_iff {d : Draft} {plan : Plan} : d.finish = .ok plan ↔
    d.name = plan.name ∧ d.repetitions = some plan.repetitions ∧ d.subjects = some plan.subjects ∧
      d.harness = plan.harness ∧ d.axes = some plan.axes ∧ d.experiments = some plan.experiments := by
  simp only [finish, bind_eq_ok_iff, required_eq_ok_iff]
  constructor
  · rintro ⟨repetitions, hrepetitions, subjects, hsubjects, axes, haxes, experiments, hexperiments, hplan⟩
    cases hplan
    exact ⟨rfl, hrepetitions, hsubjects, rfl, haxes, hexperiments⟩
  · rintro ⟨hname, hrepetitions, hsubjects, hharness, haxes, hexperiments⟩
    refine ⟨_, hrepetitions, _, hsubjects, _, haxes, _, hexperiments, ?_⟩
    rw [hname, hharness]
    rfl

/-- A plan is complete when all that has to be there was found. -/
theorem DraftOf.exists_finish_iff {es : List (String × Value)} {d : Draft} (h : DraftOf {} es d) :
    (∃ plan, d.finish = .ok plan) ↔
      ∀ key ∈ ["repetitions", "subjects", "axes", "experiments"], (es.lookup key).isSome = true := by
  simp only [Draft.finish_eq_ok_iff, List.forall_mem_cons, ← h.repetitions.isSome_iff,
    ← h.subjects.isSome_iff, ← h.axes.isSome_iff, ← h.experiments.isSome_iff]
  constructor
  · rintro ⟨plan, -, hrepetitions, hsubjects, -, haxes, hexperiments⟩
    exact ⟨⟨_, hrepetitions⟩, ⟨_, hsubjects⟩, ⟨_, haxes⟩, ⟨_, hexperiments⟩,
      fun _ hkey => absurd hkey List.not_mem_nil⟩
  · rintro ⟨⟨repetitions, hrepetitions⟩, ⟨subjects, hsubjects⟩, ⟨axes, haxes⟩, ⟨experiments, hexperiments⟩, -⟩
    exact ⟨⟨d.name, repetitions, subjects, d.harness, axes, experiments⟩, rfl, hrepetitions, hsubjects, rfl,
      haxes, hexperiments⟩

/-- An ordered document is accepted exactly if it has the shape of a plan. -/
theorem exists_ofDocument_iff {document : List (String × Value)} (h : (Value.table document).Ordered) :
    (∃ plan, ofDocument document = .ok plan) ↔ IsPlan document := by
  obtain ⟨hascending, hentries⟩ := Value.ordered_table_iff.1 h
  have hnodup := Keyed.nodup_keys_of_ascending hascending
  exact exists_bind_eq_ok_iff (exists_foldlM_eq_ok_iff (fun e he d => exists_field_iff (hentries e he) d) {})
    fun _ hwalk => (draftOf_foldlM hnodup hwalk).exists_finish_iff

/-- An ordered document that is accepted says what each field of the plan is. -/
theorem describes_ofDocument {document : List (String × Value)} (h : (Value.table document).Ordered)
    {plan : Plan} (hplan : ofDocument document = .ok plan) : Describes document plan := by
  obtain ⟨hascending, hentries⟩ := Value.ordered_table_iff.1 h
  obtain ⟨d, hwalk, hfinish⟩ := bind_eq_ok_iff.1 hplan
  have hdraft := draftOf_foldlM (Keyed.nodup_keys_of_ascending hascending) hwalk
  obtain ⟨hname, hrepetitions, hsubjects, hharness, haxes, hexperiments⟩ := Draft.finish_eq_ok_iff.1 hfinish
  refine ⟨hname ▸ hdraft.name, hdraft.repetitions.found hrepetitions, hdraft.subjects.found hsubjects, ?_,
    (hdraft.axes.found haxes).imp fun v hv => axesOf_axes (h.lookup hv),
    (hdraft.experiments.found hexperiments).imp fun v hv hlist => ?_⟩
  · -- the settings may be left out, and are the usual ones then
    have hgiven := hharness ▸ hdraft.harness
    cases hfound : document.lookup "harness" with
    | none =>
      rw [hfound] at hgiven
      have husual : plan.harness = {} := hgiven
      rw [husual]
      exact settingsOf_nil {}
    | some v =>
      rw [hfound] at hgiven
      exact settingsOf_harness (h.lookup hfound) hgiven
  · refine hlist.imp Value.Ordered ?_ fun w e hw he => experimentOf_experiment hw he
    rintro items rfl w hw
    exact (h.lookup hv).item hw

/-- An ordered document gives a plan exactly if it has the shape of one and describes it. -/
theorem ofDocument_eq_ok_iff {document : List (String × Value)} (h : (Value.table document).Ordered)
    (plan : Plan) : ofDocument document = .ok plan ↔ IsPlan document ∧ Describes document plan := by
  constructor
  · intro hplan
    exact ⟨(exists_ofDocument_iff h).1 ⟨plan, hplan⟩, describes_ofDocument h hplan⟩
  · rintro ⟨hshape, hdescribes⟩
    -- a document of the shape gives some plan, which it describes too, so it is the same one
    obtain ⟨other, hother⟩ := (exists_ofDocument_iff h).2 hshape
    rw [(describes_ofDocument h hother).unique hdescribes] at hother
    exact hother

end Shape

open Shape (IsPlan Describes)
open Toml (Value)

/-- A text that is a document gives the plan of the document; only the fault is told in other words. -/
theorem ofText_eq_ok_iff {text : String} {document : List (String × Value)}
    (h : Toml.Document.read? text.toList = some document) (plan : Plan) :
    ofText text = .ok plan ↔ ofDocument document = .ok plan := by
  have hof : ofText text = (ofDocument document).mapError .shape := by
    rw [ofText, h]
  rw [hof]
  cases ofDocument document with
  | error fault => constructor <;> intro hok <;> cases hok
  | ok found => exact ⟨fun hok => congrArg _ (Except.ok.inj hok), fun hok => congrArg _ (Except.ok.inj hok)⟩

/-- **Documents of the shape of a plan are plans.**  A document in which the keys of each table are in order
    is accepted exactly if it has the shape of a plan, and gives the plan that it describes.  What is read of
    a text is such a document, so the same holds of texts; a text that is no document is refused. -/
theorem ofText_reads_shape :
    (∀ document : List (String × Value), (Value.table document).Ordered →
      ((∃ plan, ofDocument document = .ok plan) ↔ IsPlan document) ∧
      ∀ plan, ofDocument document = .ok plan ↔ IsPlan document ∧ Describes document plan) ∧
    ∀ text : String,
      (∀ document, Toml.Document.read? text.toList = some document →
        (Value.table document).Ordered ∧
        ((∃ plan, ofText text = .ok plan) ↔ IsPlan document) ∧
        ∀ plan, ofText text = .ok plan ↔ IsPlan document ∧ Describes document plan) ∧
      (Toml.Document.read? text.toList = none → ofText text = .error .notToml) := by
  refine ⟨fun document h => ⟨Shape.exists_ofDocument_iff h, Shape.ofDocument_eq_ok_iff h⟩, fun text => ⟨?_, ?_⟩⟩
  · intro document hread
    have hordered := Toml.Document.ordered_of_read? hread
    simp only [ofText_eq_ok_iff hread]
    exact ⟨hordered, Shape.exists_ofDocument_iff hordered, Shape.ofDocument_eq_ok_iff hordered⟩
  · intro hnone
    rw [ofText, hnone]

/-- The text of the built-in plan for the queue says what its document says, and is that plan; a text that
    begins with an equals sign is no document. -/
theorem ofText_reads_shape_crturn :
    (∃ text, (∃ plan, ofText text = .ok plan) ∧ IsPlan (document (Matrix.plan .crturn)) ∧
      Describes (document (Matrix.plan .crturn)) (Matrix.plan .crturn)) ∧
    ofText "= 1" = .error .notToml := by
  constructor
  · have htexts : ∀ e ∈ (Matrix.plan .crturn).experiments, e.output.text?.isSome = true := by decide +kernel
    obtain ⟨text, -, hread⟩ := exists_toText?_read? htexts
    obtain ⟨hordered, haccepts, -⟩ := (ofText_reads_shape.2 text).1 _ hread
    obtain ⟨hshape, hdescribes⟩ :=
      ((ofText_reads_shape.1 _ hordered).2 (Matrix.plan .crturn)).1 (ofDocument_document htexts)
    exact ⟨text, haccepts.2 hshape, hshape, hdescribes⟩
  · exact (ofText_reads_shape.2 "= 1").2 rfl

/-! ## What the fields alone do not decide

  Two things lie outside of the kinds of the fields: a date passes for a table without entries, and a number
  may be too large under a key that nothing asks for. -/

/-- A document with all that a plan needs, with these settings, and with one entry that no plan has. -/
def sampleDocument (settings other : Value) : List (String × Value) :=
  [("axes", .table [("g", .array [.integer 1])]),
    ("experiments", .array [.array [.string "k", .string "g", .integer 1, .integer 2, .boolean false,
      .string "o.csv"]]),
    ("harness", settings), ("repetitions", .integer 1), ("subjects", .array [.string "NIL"]), ("zzz", other)]

/-- A date is accepted for the settings, although it is neither a table nor an array; and of two documents that
    give every field the same value one is accepted and the other is not, because of a number that no field
    asks for. -/
theorem accepts_date_refuses_overflow :
    ((∃ plan, ofDocument (sampleDocument (.date "1979-05-27") (.integer 1)) = .ok plan) ∧
      (sampleDocument (.date "1979-05-27") (.integer 1)).lookup "harness" = some (.date "1979-05-27")) ∧
    (∃ plan, ofDocument (sampleDocument (.table []) (.integer 1)) = .ok plan) ∧
    ofDocument (sampleDocument (.table []) (.integer (Shape.capacity 128))) = .error (.overflow .integer) ∧
    ∀ key ∈ Shape.planKinds.map Prod.fst, (sampleDocument (.table []) (.integer 1)).lookup key =
      (sampleDocument (.table []) (.integer (Shape.capacity 128))).lookup key := by
  refine ⟨⟨⟨_, rfl⟩, rfl⟩, ⟨_, rfl⟩, rfl, fun key hkey => ?_⟩
  -- the two documents differ in one entry, whose key is no field's
  have hne : key ≠ "zzz" := by
    rintro rfl
    exact absurd hkey (by decide)
  simp only [sampleDocument, Keyed.lookup_cons_eq_ite, if_neg hne]

end BenchSweep.Plan
