/-
  The plan in a TOML document.

  A document has the shape of a plan when every field that it gives has the type of the field; fields
  that no plan has are passed over, though their numbers must fit.  Fields are looked at in the order in
  which the document lists them, so the first fault in that order is reported; what is missing is
  reported after that, in the order of the type.

  A structure may also be given as an array of its fields in the order of the type.
-/
import BenchSweep.Number.Shortest
import BenchSweep.Plan.Basic
import BenchSweep.Text.Quoted
import BenchSweep.Toml.Value

namespace BenchSweep
namespace Plan
namespace Shape

open Toml (Value NumberKind)

/-! ## Faults -/

/-- Why a document is no plan. -/
inductive Fault where
  /-- A value is not of the kind that is wanted. -/
  | wrongKind (found wanted : String)
  /-- A number is not in the range of 32-bit words. -/
  | outOfRange (n : Int)
  | missing (field : String)
  /-- An array ends before the fields do. -/
  | tooShort (length : Nat)
  /-- A number is past what the format can hold. -/
  | overflow (kind : NumberKind)
deriving DecidableEq, Repr

/-- A fault as it is shown, with the fields and kinds that it is about. -/
def Fault.message : Fault → String
  | .wrongKind found wanted => s!"invalid type: {found}, expected {wanted}"
  | .outOfRange n => s!"invalid value: integer `{n}`, expected u32"
  | .missing field => s!"missing field `{field}`"
  | .tooShort length => s!"invalid length {length}, expected struct ExperimentKind with 6 elements"
  | .overflow .integer => "integer number overflowed"
  | .overflow .float => "floating-point number overflowed"

/-- How many numbers so many bits can hold. -/
def capacity (bits : Nat) : Int := Nat.pow 2 bits

/-- Whether an integer fits into 64 bits, with or without a sign. -/
def fits64 (n : Int) : Bool := -capacity 63 ≤ n && n < capacity 64

/-- Whether an integer fits into 128 bits with a sign. -/
def fitsSigned128 (n : Int) : Bool := -capacity 127 ≤ n && n < capacity 127

/-- Whether an integer fits into 128 bits, with or without a sign. -/
def fits128 (n : Int) : Bool := -capacity 127 ≤ n && n < capacity 128

/-- The fault of finding a value where something of another kind is wanted.  A number that does not fit is
    the graver fault. -/
def mismatch (v : Value) (wanted : String) : Fault :=
  let found (text : String) : Fault := .wrongKind text wanted
  match v with
  | .string text => found s!"string {Text.quoted text}"
  | .integer n =>
    if fits64 n then found s!"integer `{n}`"
    else if fitsSigned128 n then found s!"integer `{n}` as i128"
    else if fits128 n then found s!"integer `{n}` as u128"
    else .overflow .integer
  | .float x => found s!"floating point `{x.positional}`"
  | .overflowing kind => .overflow kind
  | .boolean true => found "boolean `true`"
  | .boolean false => found "boolean `false`"
  | .array _ => found "sequence"
  | .date _ | .table _ => found "map"

/-! ## Values -/

/-- A value that is to be a word of 32 bits. -/
def word (v : Value) : Except Fault UInt32 :=
  match v with
  | .integer n =>
    if 0 ≤ n ∧ n < UInt32.size then .ok (UInt32.ofNat n.toNat)
    else if fits64 n then .error (.outOfRange n)
    else .error (mismatch v "u32")
  | _ => .error (mismatch v "u32")

/-- A value that is to be a text. -/
def text (v : Value) : Except Fault String :=
  match v with
  | .string s => .ok s
  | _ => .error (mismatch v "a string")

/-- A value that is to be a flag. -/
def flag (v : Value) : Except Fault Bool :=
  match v with
  | .boolean b => .ok b
  | _ => .error (mismatch v "a boolean")

/-- A value that is to be a path, which is written as a text. -/
def path (v : Value) : Except Fault Path :=
  match v with
  | .string s => .ok (.ofString s)
  | _ => .error (mismatch v "path string")

/-- A value that is to be a list. -/
def list (v : Value) : Except Fault (List Value) :=
  match v with
  | .array items => .ok items
  | _ => .error (mismatch v "a sequence")

/-- The entries of a table.  A date counts as a table with its text under a key that no plan has. -/
def entries? (v : Value) : Option (List (String × Value)) :=
  match v with
  | .table es => some es
  | .date s => some [("", .string s)]
  | _ => none

mutual

/-- The numbers of a value that is passed over must fit all the same. -/
def passOver : Value → Except Fault Unit
  | .integer n => if fits128 n then .ok () else .error (.overflow .integer)
  | .overflowing kind => .error (.overflow kind)
  | .array items => passOverItems items
  | .table es => passOverEntries es
  | _ => .ok ()

/-- Items that nothing asks for. -/
def passOverItems : List Value → Except Fault Unit
  | [] => .ok ()
  | v :: r => do
    passOver v
    passOverItems r

/-- Entries that nothing asks for. -/
def passOverEntries : List (String × Value) → Except Fault Unit
  | [] => .ok ()
  | (_, v) :: r => do
    passOver v
    passOverEntries r

end

/-- A field that has to be there. -/
def required {α : Type} (name : String) : Option α → Except Fault α
  | some a => .ok a
  | none => .error (.missing name)

/-! ## Harness settings -/

/-- One entry of the settings, put into those that are there. -/
def harnessField (h : HarnessSettings) (key : String) (v : Value) : Except Fault HarnessSettings :=
  match key with
  | "command" => return { h with command := ← text v }
  | "action" => return { h with action := ← text v }
  | "iterations" => return { h with iterations := ← word v }
  | "epoch_freq" => return { h with epochFreq := ← word v }
  | "empty_freq" => return { h with emptyFreq := ← word v }
  | "verbose" => return { h with verbose := ← flag v }
  | "run_id_key" => return { h with runIdKey := ← text v }
  | _ => do
    passOver v
    return h

/-- The names of the settings in the order of the type. -/
def harnessKeys : List String :=
  ["command", "action", "iterations", "epoch_freq", "empty_freq", "verbose", "run_id_key"]

/-- The settings that a value gives; those it does not give are the usual ones. -/
def harness (v : Value) : Except Fault HarnessSettings :=
  match v, entries? v with
  | .array items, _ => (harnessKeys.zip items).foldlM (fun h (key, v) => harnessField h key v) {}
  | _, some es => es.foldlM (fun h (key, v) => harnessField h key v) {}
  | _, none => .error (mismatch v "struct HarnessParams")

/-! ## Experiments -/

/-- An experiment of which some fields are known. -/
structure ExperimentDraft where
  name : Option String := none
  family : Option String := none
  selector : Option UInt32 := none
  mode : Option UInt32 := none
  countRetired : Bool := false
  output : Option Path := none

/-- One entry of an experiment, put into the draft. -/
def experimentField (d : ExperimentDraft) (key : String) (v : Value) :
    Except Fault ExperimentDraft :=
  match key with
  | "name" => return { d with name := ← text v }
  | "family" => return { d with family := ← text v }
  | "selector" => return { d with selector := ← word v }
  | "mode" => return { d with mode := ← word v }
  | "count_retired" => return { d with countRetired := ← flag v }
  | "output" => return { d with output := ← path v }
  | _ => do
    passOver v
    return d

/-- An experiment of its draft; only some fields have defaults. -/
def ExperimentDraft.finish (d : ExperimentDraft) : Except Fault Experiment := do
  return {
    name := ← required "name" d.name
    family := ← required "family" d.family
    selector := ← required "selector" d.selector
    mode := ← required "mode" d.mode
    countRetired := d.countRetired
    output := ← required "output" d.output }

/-- The names of the fields in the order of the type. -/
def experimentKeys : List String :=
  ["name", "family", "selector", "mode", "count_retired", "output"]

/-- How many fields an array of so many items comes to: the fifth one may be missing. -/
def fieldsGiven (items : Nat) : Nat := if items = 4 then 5 else items

/-- A value that is to be an experiment. -/
def experiment (v : Value) : Except Fault Experiment :=
  match v, entries? v with
  | .array items, _ => do
    let d ← (experimentKeys.zip items).foldlM (fun d (key, v) => experimentField d key v) {}
    if items.length < experimentKeys.length then .error (.tooShort (fieldsGiven items.length))
    else d.finish
  | _, some es => do
    let d ← es.foldlM (fun d (key, v) => experimentField d key v) {}
    d.finish
  | _, none => .error (mismatch v "struct ExperimentKind")

/-! ## Plans -/

/-- A value that is to be an axis, the levels unchecked. -/
def axis (v : Value) : Except Fault Axis := do
  return ⟨← (← list v).mapM word⟩

/-- The axes of a table. -/
def axes (v : Value) : Except Fault (Keyed Axis) :=
  match entries? v with
  | some es => es.foldlM (fun t (key, v) => return t.insert key (← axis v)) .empty
  | none => .error (mismatch v "a map")

/-- A plan of which some fields are known. -/
structure Draft where
  name : String := "custom"
  repetitions : Option UInt32 := none
  subjects : Option Subjects := none
  harness : HarnessSettings := {}
  axes : Option (Keyed Axis) := none
  experiments : Option (List Experiment) := none

/-- One entry of a plan, put into the draft. -/
def field (d : Draft) (key : String) (v : Value) : Except Fault Draft :=
  match key with
  | "name" => return { d with name := ← text v }
  | "repetitions" => return { d with repetitions := ← word v }
  | "subjects" => return { d with subjects := some ⟨← (← list v).mapM text⟩ }
  | "harness" => return { d with harness := ← harness v }
  | "axes" => return { d with axes := ← axes v }
  | "experiments" => return { d with experiments := ← (← list v).mapM experiment }
  | _ => do
    passOver v
    return d

/-- A plan of its draft; only some fields have defaults. -/
def Draft.finish (d : Draft) : Except Fault Plan := do
  return {
    name := d.name
    repetitions := ← required "repetitions" d.repetitions
    subjects := ← required "subjects" d.subjects
    harness := d.harness
    axes := ← required "axes" d.axes
    experiments := ← required "experiments" d.experiments }

end Shape

/-- The plan that a document describes. -/
def ofDocument (document : List (String × Toml.Value)) : Except Shape.Fault Plan := do
  let d ← document.foldlM (fun d (key, v) => Shape.field d key v) {}
  d.finish

end Plan
end BenchSweep
