/-
  The document that the text of a plan is.

  `document plan` lists what a plan's text says, key by key in ascending order.  The writer puts the
  fields in the order of the type, and the sections behind the scalars; reading sorts them
  (`exists_toText?_read?`).

  The text has four parts: the scalars, the harness, the axes and the experiments.  Each is read by the
  facts on fields and headers; the experiments one after the other, each a further element of one array
  (`reads_experiments`).  A plan without experiments says so among its scalars, for no header would.
-/
import BenchSweep.Proofs.Plan.Lines
import BenchSweep.Proofs.Walks

namespace BenchSweep.Plan

open Toml (Section Item Value)
open Written

/-! ## What is written -/

/-- A word as a value. -/
def wordValue (n : UInt32) : Value := .integer n.toNat

/-- The entry of an axis: its levels under the name of its family. -/
def axisEntry (entry : String × Axis) : String × Value := (entry.1, .array (entry.2.levels.map wordValue))

/-- The entries of the settings, in the order of their keys. -/
def harnessEntries (h : HarnessSettings) : List (String × Value) :=
  [("action", .string h.action), ("command", .string h.command), ("empty_freq", wordValue h.emptyFreq),
    ("epoch_freq", wordValue h.epochFreq), ("iterations", wordValue h.iterations),
    ("run_id_key", .string h.runIdKey), ("verbose", .boolean h.verbose)]

/-- The path of an experiment's output as text. -/
def outputText (e : Experiment) : String := e.output.text?.getD ""

/-- The entries of an experiment, in the order of their keys. -/
def experimentEntries (e : Experiment) : List (String × Value) :=
  [("count_retired", .boolean e.countRetired), ("family", .string e.family), ("mode", wordValue e.mode),
    ("name", .string e.name), ("output", .string (outputText e)), ("selector", wordValue e.selector)]

/-- All that a plan's text says. -/
def document (plan : Plan) : List (String × Value) :=
  [("axes", .table (plan.axes.entries.map axisEntry)),
    ("experiments", .array (plan.experiments.map fun e => .table (experimentEntries e))),
    ("harness", .table (harnessEntries plan.harness)), ("name", .string plan.name),
    ("repetitions", wordValue plan.repetitions), ("subjects", .array (plan.subjects.names.map .string))]

/-! ## Entries that are closed

  A table of the document is built line by line, and once it is complete it holds values only.  Such a table
  is told from its entries and back again. -/

/-- Entries as they stand in a table under construction. -/
def closed (es : List (String × Value)) : Section := es.map fun (key, v) => (key, .value v)

/-- Closed entries come to the entries that they were made of. -/
theorem toEntries_closed (es : List (String × Value)) : Section.toEntries (closed es) = es := by
  induction es with
  | nil => rfl
  | cons e es ih =>
    show (e.1, e.2) :: Section.toEntries (closed es) = e :: es
    rw [ih]

/-- The elements of an array of tables come in the order in which they were opened. -/
theorem toElements_closed (elements : List (List (String × Value))) (after : List Value) :
    Section.toElements (elements.map closed) after = (elements.map .table).reverse ++ after := by
  induction elements generalizing after with
  | nil => rfl
  | cons e es ih =>
    rw [List.map_cons, Section.toElements, toEntries_closed, ih, List.map_cons, List.reverse_cons,
      List.append_assoc]
    rfl

/-! ## The sections

  For each section: its lines are those of its fields, and what the fields come to, put in their places, is
  the list of its entries. -/

/-- The settings in the order in which they are written. -/
def harnessFields (h : HarnessSettings) : List Field :=
  [.ofText "command" h.command, .ofText "action" h.action, .ofWord "iterations" h.iterations,
    .ofWord "epoch_freq" h.epochFreq, .ofWord "empty_freq" h.emptyFreq, .ofFlag "verbose" h.verbose,
    .ofText "run_id_key" h.runIdKey]

/-- The text of the settings is a header and the lines of their fields. -/
theorem harness_eq (h : HarnessSettings) :
    Written.harness h = header "[harness]" ++ (harnessFields h).flatMap Field.line := by
  simp [Written.harness, harnessFields, Field.line, Field.ofText, Field.ofWord, Field.ofFlag]

/-- The fields of the settings, each in its place, are its entries. -/
theorem placed_harnessFields (h : HarnessSettings) :
    placed (harnessFields h) [] = closed (harnessEntries h) := by
  simp only [placed, harnessFields, List.foldl_cons, List.foldl_nil, Field.ofText, Field.ofWord,
    Field.ofFlag, Keyed.place, String.reduceLT, String.reduceEq, if_true, if_false]
  rfl

/-- The lines of the settings fill an empty section with their entries. -/
theorem fills_harness (h : HarnessSettings) :
    Fills ((harnessFields h).flatMap Field.line) [] (closed (harnessEntries h)) := by
  have hkeys : (harnessFields h).map Field.key =
    ["command", "action", "iterations", "epoch_freq", "empty_freq", "verbose", "run_id_key"] := rfl
  rw [← placed_harnessFields]
  exact fills_fields (by rw [hkeys]; decide) fun _ _ => rfl

/-- The fields in the order in which they are written. -/
def experimentFields (e : Experiment) : List Field :=
  [.ofText "name" e.name, .ofText "family" e.family, .ofWord "selector" e.selector, .ofWord "mode" e.mode,
    .ofFlag "count_retired" e.countRetired, .ofText "output" (outputText e)]

/-- The text of an experiment whose output is a text is a header and the lines of its fields. -/
theorem experiment_eq {e : Experiment} (h : e.output.text?.isSome = true) :
    Written.experiment e = some (header "[[experiments]]" ++ (experimentFields e).flatMap Field.line) := by
  obtain ⟨output, ho⟩ := Option.isSome_iff_exists.1 h
  simp [Written.experiment, experimentFields, outputText, ho, Field.line, Field.ofText, Field.ofWord,
    Field.ofFlag]

/-- The fields of an experiment, each in its place, are its entries. -/
theorem placed_experimentFields (e : Experiment) :
    placed (experimentFields e) [] = closed (experimentEntries e) := by
  simp only [placed, experimentFields, List.foldl_cons, List.foldl_nil, Field.ofText, Field.ofWord,
    Field.ofFlag, Keyed.place, String.reduceLT, String.reduceEq, if_true, if_false]
  rfl

/-- The lines of an experiment fill an empty section with its entries. -/
theorem fills_experiment (e : Experiment) :
    Fills ((experimentFields e).flatMap Field.line) [] (closed (experimentEntries e)) := by
  have hkeys : (experimentFields e).map Field.key =
    ["name", "family", "selector", "mode", "count_retired", "output"] := rfl
  rw [← placed_experimentFields]
  exact fills_fields (by rw [hkeys]; decide) fun _ _ => rfl

/-- The field of an axis, whose key is the name of the family, which may be any text. -/
def axisField (entry : String × Axis) : Field := .ofWords entry.1 entry.2.levels

/-- The text of the axes is a header and the lines of their fields. -/
theorem axes_eq (t : Keyed Axis) :
    Written.axes t = header "[axes]" ++ (t.entries.map axisField).flatMap Field.line := by
  rw [Written.axes, List.flatMap_map]
  rfl

/-- The axes of a plan stand in the order of their families already. -/
theorem fills_axes (t : Keyed Axis) :
    Fills ((t.entries.map axisField).flatMap Field.line) [] (closed (t.entries.map axisEntry)) := by
  have hascending : ((t.entries.map axisField).map Field.key).Pairwise (· < ·) := by
    rw [List.map_map]
    exact List.pairwise_map.2 t.ascending
  have hplaced : placed (t.entries.map axisField) [] = closed (t.entries.map axisEntry) := by
    rw [@placed_of_ascending _ [] hascending, List.nil_append, closed, List.map_map, List.map_map]
    rfl
  rw [← hplaced]
  refine fills_fields ?_ fun _ _ => rfl
  -- keys that ascend are all different
  refine hascending.imp fun hlt heq => ?_
  rw [heq] at hlt
  exact String.lt_irrefl _ hlt

/-- The fields in front of all sections, in the order in which they are written. -/
def scalarFields (plan : Plan) : List Field :=
  [.ofText "name" plan.name, .ofWord "repetitions" plan.repetitions, .ofTexts "subjects" plan.subjects.names]
    ++ if plan.experiments = [] then [.ofTexts "experiments" []] else []

/-- The text in front of all sections is the lines of the scalars. -/
theorem scalars_eq (plan : Plan) : scalars plan = (scalarFields plan).flatMap Field.line := by
  unfold scalars scalarFields
  split <;> simp [Field.line, Field.ofText, Field.ofWord, Field.ofTexts]

/-- The lines of the scalars fill the empty document with them. -/
theorem fills_scalars (plan : Plan) :
    Fills ((scalarFields plan).flatMap Field.line) [] (placed (scalarFields plan) []) := by
  refine fills_fields ?_ fun _ _ => rfl
  have hkeys : (scalarFields plan).map Field.key =
      ["name", "repetitions", "subjects"] ++ if plan.experiments = [] then ["experiments"] else [] := by
    unfold scalarFields
    split <;> rfl
  rw [hkeys]
  split <;> decide

/-! ## The experiments -/

/-- The text of an experiment. -/
def experimentText (e : Experiment) : List Char :=
  header "[[experiments]]" ++ (experimentFields e).flatMap Field.line

/-- A document with some elements under `experiments`, the last one in front, if there are any. -/
def withElements (elements : List Section) (root : Section) : Section :=
  match elements with
  | [] => root
  | elements => Keyed.place "experiments" (.tables elements) root

/-- The header of an experiment puts an empty element behind those that are there, which is in front in the
    list. -/
theorem openElement_withElements {root : Section} (h : root.lookup "experiments" = none)
    (elements : List Section) :
    Section.openElement "experiments" (withElements elements root) =
      some (withElements ([] :: elements) root) := by
  cases elements with
  | nil =>
    rw [withElements, Section.openElement, h]
    rfl
  | cons last before =>
    show Section.openElement "experiments" (Keyed.place "experiments" (.tables (last :: before)) root) = _
    rw [Section.openElement, Keyed.lookup_place_self]
    simp only [Keyed.place_place, withElements]

/-- Each section of an experiment adds an element, whatever section was open before. -/
theorem reads_experiments {root : Section} (h : root.lookup "experiments" = none) (es : List Experiment)
    (elements : List Section) (opened : List String) :
    ∃ header, Reads (es.flatMap experimentText) ⟨opened, withElements elements root⟩
      ⟨header, withElements ((es.map fun e => closed (experimentEntries e)).reverse ++ elements) root⟩ := by
  -- on the experiments, for every list of elements that stand before them
  induction es generalizing elements opened with
  | nil => exact ⟨opened, Reads.nil _⟩
  | cons e es ih =>
    -- the header puts an empty element in front, and the lines below it fill that element
    have hopen : Reads (header "[[experiments]]") ⟨opened, withElements elements root⟩
        ⟨["experiments"], withElements ([] :: elements) root⟩ :=
      reads_elementHeader rfl (by decide) (by decide) (openElement_withElements h elements)
    have hfill := fills_experiment e ["experiments"] (fun s => withElements (s :: elements) root)
      (holds_element "experiments" elements root)
    obtain ⟨header, hrest⟩ := ih (closed (experimentEntries e) :: elements) ["experiments"]
    refine ⟨header, ?_⟩
    rw [List.map_cons, List.reverse_cons, List.append_assoc]
    exact (hopen.append hfill).append hrest

/-! ## The whole text -/

/-- A table with a header and lines of its own. -/
theorem reads_table {name key : String} (hname : name.toList = '[' :: (key.toList ++ [']']))
    (hne : key.toList ≠ []) (hbare : key.toList.all Toml.Strings.isBare = true) {text : List Char}
    {s root : Section} (htext : Fills text [] s) (hroot : root.lookup key = none) (opened : List String) :
    Reads (header name ++ text) ⟨opened, root⟩ ⟨[key], Keyed.place key (.table .header s) root⟩ := by
  have hopen : Section.openTable key root = some (Keyed.place key (.table .header []) root) := by
    rw [Section.openTable, hroot]
  exact (reads_tableHeader hname hne hbare hopen).append
    (htext [key] (fun s => Keyed.place key (.table .header s) root) (holds_table key .header root))

/-- The scalars that a document has whether or not there are experiments. -/
def usualEntries (plan : Plan) : List (String × Value) :=
  [("name", .string plan.name), ("repetitions", wordValue plan.repetitions),
    ("subjects", .array (plan.subjects.names.map .string))]

/-- The entries of the document in front of all sections. -/
def scalarEntries (plan : Plan) : List (String × Value) :=
  (if plan.experiments = [] then [("experiments", .array [])] else []) ++ usualEntries plan

/-- The scalars, each in its place, are the entries in front of all sections. -/
theorem placed_scalarFields (plan : Plan) : placed (scalarFields plan) [] = closed (scalarEntries plan) := by
  unfold scalarFields scalarEntries
  split <;>
  · simp only [placed, List.cons_append, List.nil_append, List.foldl_cons, List.foldl_nil, Field.ofText,
      Field.ofWord, Field.ofTexts, Keyed.place, String.reduceLT, String.reduceEq, if_true, if_false]
    rfl

/-- The document behind all tables, before the experiments. -/
def tables (plan : Plan) : Section :=
  Keyed.place "axes" (.table .header (closed (plan.axes.entries.map axisEntry)))
    (Keyed.place "harness" (.table .header (closed (harnessEntries plan.harness)))
      (closed (scalarEntries plan)))

/-- The text in front of the experiments is read as the scalars and the two tables. -/
theorem reads_tables (plan : Plan) :
    Reads (scalars plan ++ Written.harness plan.harness ++ Written.axes plan.axes) ⟨[], []⟩
      ⟨["axes"], tables plan⟩ := by
  have hscalars := fills_scalars plan [] id holds_root
  rw [placed_scalarFields] at hscalars
  -- neither key is there yet, as a header that opened a table anew would be refused
  have hharness : (closed (scalarEntries plan)).lookup "harness" = none := by
    unfold scalarEntries
    split <;> simp [closed, usualEntries, List.lookup_cons, List.lookup_nil]
  have haxes : (Keyed.place "harness" (Item.table .header (closed (harnessEntries plan.harness)))
      (closed (scalarEntries plan))).lookup "axes" = none := by
    rw [Keyed.lookup_place_of_ne (by decide)]
    unfold scalarEntries
    split <;> simp [closed, usualEntries, List.lookup_cons, List.lookup_nil]
  rw [scalars_eq, harness_eq, axes_eq]
  exact (hscalars.append (reads_table rfl (by decide) (by decide) (fills_harness _) hharness [])).append
    (reads_table rfl (by decide) (by decide) (fills_axes _) haxes ["harness"])

/-- Without experiments the document is complete. -/
theorem toEntries_tables {plan : Plan} (h : plan.experiments = []) :
    Section.toEntries (tables plan) = document plan := by
  have hsorted : tables plan = ("axes", .table .header (closed (plan.axes.entries.map axisEntry))) ::
      ("experiments", .value (.array [])) ::
      ("harness", .table .header (closed (harnessEntries plan.harness))) :: closed (usualEntries plan) := by
    rw [tables, scalarEntries, if_pos h]
    simp only [closed, usualEntries, List.cons_append, List.nil_append, List.map_cons, List.map_nil,
      Keyed.place, String.reduceLT, String.reduceEq, if_true, if_false]
  rw [hsorted]
  simp only [Section.toEntries, Item.toValue, toEntries_closed, document, usualEntries, h, List.map_nil]

/-- With experiments, their elements complete it. -/
theorem toEntries_withElements {plan : Plan} (h : plan.experiments ≠ []) :
    Section.toEntries (withElements ((plan.experiments.map fun e => closed (experimentEntries e)).reverse)
      (tables plan)) = document plan := by
  have hne : (plan.experiments.map fun e => closed (experimentEntries e)).reverse ≠ [] :=
    fun e => h (List.map_eq_nil_iff.1 (List.reverse_eq_nil_iff.1 e))
  obtain ⟨last, before, hcons⟩ := List.exists_cons_of_ne_nil hne
  have hsorted : withElements (last :: before) (tables plan) =
      ("axes", .table .header (closed (plan.axes.entries.map axisEntry))) ::
      ("experiments", .tables (last :: before)) ::
      ("harness", .table .header (closed (harnessEntries plan.harness))) :: closed (usualEntries plan) := by
    rw [tables, scalarEntries, if_neg h]
    simp only [withElements, closed, usualEntries, List.nil_append, List.map_cons, List.map_nil,
      Keyed.place, String.reduceLT, String.reduceEq, if_true, if_false]
  have helements : Section.toElements (last :: before) [] =
      plan.experiments.map fun e => .table (experimentEntries e) := by
    have hmap : (plan.experiments.map fun e => closed (experimentEntries e)).reverse =
        ((plan.experiments.map experimentEntries).reverse).map closed := by
      rw [← List.map_reverse, ← List.map_reverse, List.map_map]
      rfl
    rw [← hcons, hmap, toElements_closed, List.map_reverse, List.reverse_reverse, List.append_nil,
      List.map_map]
    rfl
  rw [hcons, hsorted]
  simp only [Section.toEntries, Item.toValue, toEntries_closed, helements, document, usualEntries]

/-- A plan whose paths are texts can be written, and what is written is the document. -/
theorem exists_toText?_read? {plan : Plan} (h : ∀ e ∈ plan.experiments, e.output.text?.isSome = true) :
    ∃ text, plan.toText? = some text ∧ Toml.Document.read? text.toList = some (document plan) := by
  have hmap : plan.experiments.mapM Written.experiment = some (plan.experiments.map experimentText) :=
    mapM_eq_pure_map fun e he => experiment_eq (h e he)
  refine ⟨_, by rw [toText?, hmap]; rfl, ?_⟩
  rw [String.toList_ofList]
  have htables := reads_tables plan
  by_cases hnil : plan.experiments = []
  -- without experiments the array stands among the scalars, and nothing is below the axes
  · rw [hnil, List.map_nil, List.flatten_nil, List.append_nil, htables.read? rfl, toEntries_tables hnil]
  · have hlookup : (tables plan).lookup "experiments" = none := by
      rw [tables, Keyed.lookup_place_of_ne (by decide), Keyed.lookup_place_of_ne (by decide)]
      simp [scalarEntries, usualEntries, hnil, closed, List.lookup_cons, List.lookup_nil]
    obtain ⟨header, hexperiments⟩ := reads_experiments hlookup plan.experiments [] ["axes"]
    rw [List.append_nil] at hexperiments
    rw [← List.flatMap_def, (htables.append hexperiments).read? rfl, toEntries_withElements hnil]

end BenchSweep.Plan
