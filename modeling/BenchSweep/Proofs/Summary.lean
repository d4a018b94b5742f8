/-
  The summary, read back.

  A summary is one JSON array, and a reader of JSON that looks fields up by their keys gets from it all that
  the reports say (`summary?_read`): a time and a number of seconds come back as the texts that stand for
  them, and everything else as it was.

  1. **Values by their keys.**  What a reader asks of a value; the order of the fields does not matter.

  2. **Records.**  What is written for a status, an outcome or a report is well made at every depth (its
     decimals spell numbers and its keys are distinct), and what is looked up in it gives a record of it.

  3. **The text.**  There is none exactly if there is no object for one of the outcomes, and so exactly if a
     path in a report is no text; and from the text that there is the array is read back.
-/
import BenchSweep.Proofs.Json.Decimal
import BenchSweep.Proofs.Selection
import BenchSweep.Proofs.Tables
import BenchSweep.Report.Summary

namespace BenchSweep

/-! ## Values by their keys

  Partial functions that give what is asked for or nothing.  A reader of another shape, say one that goes by
  the order of the fields, would get the same from the values that are written here. -/

namespace Json.Value

/-- The value that an object has for a key. -/
def field? (key : String) : Value → Option Value
  | object fields => fields.lookup key
  | _ => none

/-- A field is found by its key if no key is there twice. -/
theorem field?_of_mem {fields : List (String × Value)} (hkeys : (fields.map Prod.fst).Nodup) {key : String}
    {v : Value} (hv : (key, v) ∈ fields) : (object fields).field? key = some v :=
  Keyed.lookup_eq_some_of_mem hkeys hv

/-- The text of a string. -/
def text? : Value → Option String
  | string s => some s
  | _ => none

/-- The items of an array. -/
def items? : Value → Option (List Value)
  | array items => some items
  | _ => none

/-- The number of an integer. -/
def integer? : Value → Option Int
  | integer n => some n
  | _ => none

/-- The text of a number that is no integer. -/
def decimal? : Value → Option String
  | decimal text => some text
  | _ => none

/-- A number of 32 bits without a sign. -/
def word? : Value → Option UInt32
  | integer (.ofNat n) => if n < UInt32.size then some (UInt32.ofNat n) else none
  | _ => none

/-- Nothing where there is a null, and else what `read` makes of the value. -/
def orNull? {α : Type} (read : Value → Option α) : Value → Option (Option α)
  | null => some none
  | v => (read v).map some

/-- A word is read back from its number. -/
theorem word?_toNat (n : UInt32) : (integer n.toNat).word? = some n := by
  show (if n.toNat < UInt32.size then some (UInt32.ofNat n.toNat) else none) = some n
  rw [if_pos n.toNat_lt_size, UInt32.ofNat_toNat]

/-! ## Values that are well made

  What makes a value one that can be written and read back.  It is asked of all parts at once, so that a
  value is well made if its parts are and it is so itself. -/

/-- All decimals in the value spell numbers, and no object in it gives a key twice. -/
def WellMade (v : Value) : Prop := v.Everywhere fun part => part.Spelt ∧ part.KeysOnce

/-- A value without parts is well made if it spells a number where it is a decimal. -/
theorem wellMade_leaf {v : Value} (hleaf : v.IsLeaf) (h : v.Spelt) : v.WellMade := by
  refine everywhere_leaf hleaf ⟨h, ?_⟩
  cases v with
  | object fields => exact hleaf.elim
  | _ => trivial

/-- The null is well made. -/
theorem wellMade_null : null.WellMade := wellMade_leaf trivial trivial

/-- Integers are well made. -/
theorem wellMade_integer (n : Int) : (integer n).WellMade := wellMade_leaf trivial trivial

/-- Strings are well made, whatever is in them. -/
theorem wellMade_string (s : String) : (string s).WellMade := wellMade_leaf trivial trivial

/-- An array of values that are well made is itself. -/
theorem wellMade_array {items : List Value} (h : ∀ v ∈ items, v.WellMade) : (array items).WellMade :=
  everywhere_array ⟨trivial, trivial⟩ h

/-- An object of values that are well made is itself, if it gives no key twice. -/
theorem wellMade_object {fields : List (String × Value)} (hkeys : (fields.map Prod.fst).Nodup)
    (h : ∀ field ∈ fields, field.2.WellMade) : (object fields).WellMade :=
  everywhere_object ⟨trivial, hkeys⟩ h

end Json.Value

open Json (Value)
open Json.Value (wellMade_string wellMade_integer wellMade_null wellMade_array wellMade_object)

/-! ## Numbers of seconds -/

namespace Binary64

/-- A number of seconds is written as a decimal that spells a number, or as a null. -/
theorem toJson_wellMade (x : Binary64) : x.toJson.WellMade := by
  rw [toJson]
  split
  · next text htext => exact Json.Value.wellMade_leaf trivial (numberAt?_scientific htext)
  · exact wellMade_null

/-- The text of the number is read back, and a null as no text. -/
theorem decimal?_toJson (x : Binary64) : x.toJson.orNull? Value.decimal? = some x.scientific := by
  rw [toJson]
  split
  · next text htext => rw [htext]; rfl
  · next htext => rw [htext]; rfl

end Binary64

/-! ## Statuses -/

namespace Status

/-- The status that the fields of an object tell; only a failure has a code. -/
def ofJson? (v : Value) : Option Status := do
  let status ← (← v.field? "status").text?
  if status = "succeeded" then
    if (v.field? "code").isNone then some .succeeded else none
  else if status = "failed" then
    let code ← (← v.field? "code").orNull? Value.integer?
    return .failed code
  else none

/-- The values in the fields of a status are well made. -/
theorem wellMade_of_mem_fields {status : Status} {field : String × Value} (h : field ∈ status.fields) :
    field.2.WellMade := by
  cases status with
  | succeeded =>
    obtain rfl := List.mem_singleton.1 h
    exact wellMade_string _
  | failed code =>
    rcases List.mem_cons.1 h with rfl | h
    · exact wellMade_string _
    · obtain rfl := List.mem_singleton.1 h
      cases code with
      | none => exact wellMade_null
      | some code => exact wellMade_integer code

/-- A status is told by an object that has its fields among others, and no code that is not its own. -/
theorem ofJson?_of_mem {status : Status} {fields : List (String × Value)}
    (hkeys : (fields.map Prod.fst).Nodup) (hmem : ∀ field ∈ status.fields, field ∈ fields)
    (hcode : status = .succeeded → "code" ∉ fields.map Prod.fst) :
    ofJson? (.object fields) = some status := by
  cases status with
  -- a success has one field; that there is no other key is what tells it from a failure
  | succeeded =>
    have hstatus := Value.field?_of_mem hkeys (hmem ("status", .string "succeeded") List.mem_cons_self)
    have hnone : (Value.object fields).field? "code" = none := Keyed.lookup_eq_none_of_not_mem (hcode rfl)
    rw [ofJson?, hstatus, hnone]
    rfl
  | failed code =>
    have hstatus := Value.field?_of_mem hkeys (hmem ("status", .string "failed") List.mem_cons_self)
    have hcode := Value.field?_of_mem hkeys (hmem _ (List.mem_cons_of_mem _ List.mem_cons_self))
    rw [ofJson?, hstatus, hcode]
    -- a failure without a code has a null there, which is told from a code that is missing
    cases code <;> rfl

end Status

/-! ## Outcomes -/

/-- What a summary tells of an outcome. -/
structure Outcome.Record where
  repetition : UInt32
  experiment : String
  output : Path
  status : Status
  /-- The text of the number of seconds; none when it is not finite. -/
  elapsed : Option String
deriving DecidableEq, Repr

namespace Outcome

/-- What there is to tell of an outcome.  Seconds are told as their text. -/
def record (outcome : Outcome) : Record :=
  { repetition := outcome.repetition, experiment := outcome.experiment, output := outcome.output
    status := outcome.status, elapsed := outcome.elapsed.scientific }

/-- The record that the fields of an object tell. -/
def Record.ofJson? (v : Value) : Option Record := do
  let repetition ← (← v.field? "repetition").word?
  let experiment ← (← v.field? "experiment").text?
  let output ← (← v.field? "output").text?
  let status ← Status.ofJson? v
  let elapsed ← (← v.field? "elapsed_secs").orNull? Value.decimal?
  return { repetition, experiment, output := .ofString output, status, elapsed }

/-- There is no object for an outcome exactly if the path of its output is no text. -/
theorem toJson?_eq_none_iff {outcome : Outcome} :
    outcome.toJson? = none ↔ ¬ ∃ s : String, outcome.output.bytes = s.toByteArray.data.toList := by
  rw [← Path.text?_isSome_iff, toJson?, Option.map_eq_none_iff, Option.not_isSome_iff_eq_none]

/-- The fields of an outcome whose path has that text. -/
def fields (outcome : Outcome) (output : String) : List (String × Value) :=
  [("repetition", .integer outcome.repetition.toNat), ("experiment", .string outcome.experiment),
      ("output", .string output)]
    ++ outcome.status.fields ++ [("elapsed_secs", outcome.elapsed.toJson)]

/-- The object of an outcome has its fields, with the text of the path for the output. -/
theorem toJson?_eq_some_iff {outcome : Outcome} {v : Value} : outcome.toJson? = some v ↔
    ∃ output, outcome.output.text? = some output ∧ .object (outcome.fields output) = v :=
  Option.map_eq_some_iff

/-- No key of the status is a key of the outcome itself, although both stand in one object. -/
theorem keys_fields (outcome : Outcome) (output : String) :
    ((outcome.fields output).map Prod.fst).Nodup ∧
      (outcome.status = .succeeded → "code" ∉ (outcome.fields output).map Prod.fst) := by
  rw [fields]
  -- with the status the list of the keys is a closed one
  cases outcome.status with
  | succeeded =>
    show ["repetition", "experiment", "output", "status", "elapsed_secs"].Nodup ∧ (_ → "code" ∉
      ["repetition", "experiment", "output", "status", "elapsed_secs"])
    exact ⟨by decide, fun _ => by decide⟩
  | failed code =>
    show ["repetition", "experiment", "output", "status", "code", "elapsed_secs"].Nodup ∧ _
    exact ⟨by decide, fun h => nomatch h⟩

/-- The object of an outcome is well made. -/
theorem toJson_wellMade {outcome : Outcome} {v : Value}
    (hv : outcome.toJson? = some v) : v.WellMade := by
  obtain ⟨output, -, rfl⟩ := toJson?_eq_some_iff.1 hv
  refine wellMade_object (keys_fields outcome output).1 fun field hfield => ?_
  -- the fields are those in front, those of the status, and the seconds
  rcases List.mem_append.1 hfield with hfield | hfield
  · rcases List.mem_append.1 hfield with hfield | hfield
    · simp only [List.mem_cons, List.not_mem_nil, or_false] at hfield
      obtain rfl | rfl | rfl := hfield
      · exact wellMade_integer _
      · exact wellMade_string _
      · exact wellMade_string _
    · exact Status.wellMade_of_mem_fields hfield
  · obtain rfl := List.mem_singleton.1 hfield
    exact outcome.elapsed.toJson_wellMade

/-- The record of an outcome is read back from its object. -/
theorem ofJson?_toJson {outcome : Outcome} {v : Value} (hv : outcome.toJson? = some v) :
    Record.ofJson? v = some outcome.record := by
  obtain ⟨output, houtput, rfl⟩ := toJson?_eq_some_iff.1 hv
  obtain ⟨hkeys, hcode⟩ := keys_fields outcome output
  have hfield : ∀ key v, (key, v) ∈ outcome.fields output →
      (Value.object (outcome.fields output)).field? key = some v := fun _ _ => Value.field?_of_mem hkeys
  -- each key is looked up on its own, wherever its field stands
  have hrepetition := hfield "repetition" (.integer outcome.repetition.toNat) (by simp [fields])
  have hexperiment := hfield "experiment" (.string outcome.experiment) (by simp [fields])
  have hpath := hfield "output" (.string output) (by simp [fields])
  have hstatus : Status.ofJson? (.object (outcome.fields output)) = some outcome.status :=
    -- the fields of the status stand between those of the outcome
    Status.ofJson?_of_mem hkeys (fun field h => List.mem_append_left _ (List.mem_append_right _ h)) hcode
  have helapsed := hfield "elapsed_secs" outcome.elapsed.toJson (by simp [fields])
  rw [Record.ofJson?, hrepetition, hexperiment, hpath, hstatus, helapsed]
  simp only [Option.bind_eq_bind, Option.bind_some, Value.word?_toNat, Value.text?,
    Binary64.decimal?_toJson, Path.ofString_of_text? houtput, Option.pure_def, record]

end Outcome

/-! ## Reports -/

/-- What a summary tells of a report. -/
structure Report.Record where
  plan : String
  startedAt : String
  /-- None while the sweep is under way. -/
  finishedAt : Option String
  outcomes : List Outcome.Record
deriving DecidableEq, Repr

namespace Report

/-- What there is to tell of a report.  The two times are told as their texts. -/
def record (report : Report) : Record :=
  { plan := report.plan, startedAt := report.startedAt.text
    finishedAt := report.finishedAt.map Moment.text, outcomes := report.outcomes.map Outcome.record }

/-- The record that the fields of an object tell. -/
def Record.ofJson? (v : Value) : Option Record := do
  let plan ← (← v.field? "plan").text?
  let startedAt ← (← v.field? "started_at").text?
  let finishedAt ← (← v.field? "finished_at").orNull? Value.text?
  let outcomes ← (← v.field? "outcomes").items?
  return { plan, startedAt, finishedAt, outcomes := ← outcomes.mapM Outcome.Record.ofJson? }

/-- There is no object for a report exactly if there is none for one of its outcomes. -/
theorem toJson?_eq_none_iff {report : Report} :
    report.toJson? = none ↔ ∃ outcome ∈ report.outcomes, outcome.toJson? = none := by
  rw [← mapM_eq_none_iff, toJson?]
  cases report.outcomes.mapM Outcome.toJson? <;> simp

/-- The time at which a sweep ended, if it did. -/
def finished (report : Report) : Value :=
  match report.finishedAt with
  | some moment => .string moment.text
  | none => .null

/-- The end of a sweep is written as a text, or as a null. -/
theorem finished_wellMade (report : Report) : report.finished.WellMade := by
  rw [finished]
  split
  · exact wellMade_string _
  · exact wellMade_null

/-- The end of a sweep is read back, and a null as none. -/
theorem text?_finished (report : Report) :
    report.finished.orNull? Value.text? = some (report.finishedAt.map Moment.text) := by
  rw [finished]
  cases report.finishedAt <;> rfl

/-- The fields of a report with those outcomes. -/
def fields (report : Report) (outcomes : List Value) : List (String × Value) :=
  [("plan", .string report.plan), ("started_at", .string report.startedAt.text),
    ("finished_at", report.finished), ("outcomes", .array outcomes)]

/-- The object of a report has its fields, with the objects of all its outcomes. -/
theorem toJson?_eq_some_iff {report : Report} {v : Value} : report.toJson? = some v ↔
    ∃ outcomes, report.outcomes.mapM Outcome.toJson? = some outcomes ∧
      .object (report.fields outcomes) = v := by
  constructor
  · intro h
    obtain ⟨outcomes, houtcomes, hv⟩ := Option.bind_eq_some_iff.1 h
    exact ⟨outcomes, houtcomes, Option.some.inj hv⟩
  · rintro ⟨outcomes, houtcomes, rfl⟩
    exact Option.bind_eq_some_iff.2 ⟨outcomes, houtcomes, rfl⟩

/-- The keys of a report are four, whatever is in it. -/
theorem keys_fields (report : Report) (outcomes : List Value) :
    ((report.fields outcomes).map Prod.fst).Nodup := by
  show ["plan", "started_at", "finished_at", "outcomes"].Nodup
  decide

/-- The object of a report is well made. -/
theorem toJson_wellMade {report : Report} {v : Value} (hv : report.toJson? = some v) : v.WellMade := by
  obtain ⟨outcomes, houtcomes, rfl⟩ := toJson?_eq_some_iff.1 hv
  have hmade : ∀ v ∈ outcomes, v.WellMade := by
    intro v hmem
    obtain ⟨outcome, ho, hv⟩ := exists_of_mem_forall₂ (mapM_eq_some_iff.1 houtcomes) hmem
    exact Outcome.toJson_wellMade hv
  refine wellMade_object (keys_fields report outcomes) fun field hfield => ?_
  simp only [fields, List.mem_cons, List.not_mem_nil, or_false] at hfield
  obtain rfl | rfl | rfl | rfl := hfield
  · exact wellMade_string _
  · exact wellMade_string _
  · exact report.finished_wellMade
  · exact wellMade_array hmade

/-- The record of a report is read back from its object. -/
theorem ofJson?_toJson {report : Report} {v : Value} (hv : report.toJson? = some v) :
    Record.ofJson? v = some report.record := by
  obtain ⟨outcomes, houtcomes, rfl⟩ := toJson?_eq_some_iff.1 hv
  have hfield : ∀ key v, (key, v) ∈ report.fields outcomes →
      (Value.object (report.fields outcomes)).field? key = some v :=
    fun _ _ => Value.field?_of_mem (keys_fields report outcomes)
  have hplan := hfield "plan" (.string report.plan) (by simp [fields])
  have hstarted := hfield "started_at" (.string report.startedAt.text) (by simp [fields])
  have hfinished := hfield "finished_at" report.finished (by simp [fields])
  have hlisted := hfield "outcomes" (.array outcomes) (by simp [fields])
  have htold : outcomes.mapM Outcome.Record.ofJson? = some (report.outcomes.map Outcome.record) :=
    mapM_of_mapM houtcomes fun outcome _ v hv => Outcome.ofJson?_toJson hv
  rw [Record.ofJson?, hplan, hstarted, hfinished, hlisted]
  simp only [Option.bind_eq_bind, Option.bind_some, Value.text?, Value.items?, text?_finished, htold,
    Option.pure_def, record]

/-! ## Summaries

  The reports are written as one array, so the objects of all of them are needed for it. -/

/-- There is no summary exactly if a path somewhere in the reports is no text. -/
theorem summary?_eq_none_iff {reports : List Report} : summary? reports = none ↔
    ∃ report ∈ reports, ∃ outcome ∈ report.outcomes,
      ¬ ∃ s : String, outcome.output.bytes = s.toByteArray.data.toList := by
  have hreports : summary? reports = none ↔ reports.mapM toJson? = none := by
    rw [summary?]
    cases reports.mapM toJson? <;> simp
  rw [hreports, mapM_eq_none_iff]
  simp only [toJson?_eq_none_iff, Outcome.toJson?_eq_none_iff]

/-- A summary is the text of the array of the objects of all reports. -/
theorem summary?_eq_some_iff {reports : List Report} {text : String} : summary? reports = some text ↔
    ∃ items, reports.mapM toJson? = some items ∧ String.ofList (Json.pretty 0 (.array items)) = text := by
  rw [summary?]
  cases reports.mapM toJson? <;> simp

/-- **The summary tells everything.**  There is no summary exactly if the path of an output is no text.
    Otherwise the summary is an array in JSON in which no object gives a key twice, and a reader gets from
    its items what there is to tell of the reports, in order. -/
theorem summary?_read (reports : List Report) :
    (summary? reports = none ↔ ∃ report ∈ reports, ∃ outcome ∈ report.outcomes,
        ¬ ∃ s : String, outcome.output.bytes = s.toByteArray.data.toList) ∧
      ∀ text, summary? reports = some text → ∃ items,
        Json.read? text.toList = some (.array items) ∧ (Value.array items).Everywhere Value.KeysOnce ∧
          items.mapM Record.ofJson? = some (reports.map record) := by
  refine ⟨summary?_eq_none_iff, fun text htext => ?_⟩
  obtain ⟨items, hitems, rfl⟩ := summary?_eq_some_iff.1 htext
  have hmade : (Value.array items).WellMade := by
    refine wellMade_array fun v hmem => ?_
    obtain ⟨report, hr, hv⟩ := exists_of_mem_forall₂ (mapM_eq_some_iff.1 hitems) hmem
    exact toJson_wellMade hv
  -- the text is read back as the array, because all decimals in it spell numbers
  have hread : Json.read? (Json.pretty 0 (.array items)) = some (.array items) :=
    Json.read?_pretty (hmade.imp fun part h => h.1)
  -- and each item is read back as the record of its report
  have htold : items.mapM Record.ofJson? = some (reports.map record) :=
    mapM_of_mapM hitems fun report _ v hv => ofJson?_toJson hv
  rw [String.toList_ofList]
  exact ⟨items, hread, hmade.imp fun part h => h.2, htold⟩

/-- Names with marks and control characters in them, every kind of status, a sweep that is under way, and
    one without outcomes. -/
def oddReports : List Report :=
  [{ plan := "\"q\\\n\x01é😀", startedAt := ⟨1700000000, 500000000⟩, finishedAt := none
     outcomes :=
      [{ repetition := 0, experiment := "", output := .ofString "a b/ü.csv", status := .succeeded
         elapsed := .ofNanoseconds 1500000000 },
        { repetition := 4294967295, experiment := "\t\"", output := ⟨[]⟩, status := .failed (some (-1))
          elapsed := .nan },
        { repetition := 1, experiment := "null", output := .ofString "\"", status := .failed none
          elapsed := .ofNanoseconds 1 }] },
    { plan := "", startedAt := ⟨0, 0⟩, finishedAt := some ⟨1, 0⟩, outcomes := [] }]

/-- The reports with odd names and numbers have a summary, and everything in it is read back. -/
theorem summary?_read_oddReports :
    ∃ text items, summary? oddReports = some text ∧ Json.read? text.toList = some (.array items) ∧
      (Value.array items).Everywhere Value.KeysOnce ∧
        items.mapM Record.ofJson? = some (oddReports.map record) := by
  obtain ⟨hnone, hread⟩ := summary?_read oddReports
  have htexts : ∀ report ∈ oddReports, ∀ outcome ∈ report.outcomes, outcome.output.text?.isSome = true := by
    decide +kernel
  have hne : summary? oddReports ≠ none := by
    intro h
    obtain ⟨report, hr, outcome, ho, hnot⟩ := hnone.1 h
    exact hnot (Path.text?_isSome_iff.1 (htexts report hr outcome ho))
  obtain ⟨text, htext⟩ := Option.ne_none_iff_exists'.1 hne
  obtain ⟨items, hitems⟩ := hread text htext
  exact ⟨text, items, htext, hitems⟩

end Report

end BenchSweep
