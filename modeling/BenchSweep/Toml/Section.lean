/-
  Tables under construction.

  While a document is read, a table remembers how it came to be, for that decides what may still be added
  to it:

    1. a table with a header of its own is complete after its section;
    2. a table that only the headers below it imply may still get a header of its own;
    3. a table that dotted keys made may get more keys in the same way, and no header.

  An array of tables gets another element with each of its headers.  Values, among them inline tables and
  arrays written out, are closed.
-/
import BenchSweep.Keyed
import BenchSweep.Toml.Value

namespace BenchSweep.Toml

/-- How a table came to be. -/
inductive Origin where
  | header
  | implied
  | dotted
deriving DecidableEq, Repr

/-- What stands under a key while the document is read. -/
inductive Item where
  | value (v : Value)
  | table (origin : Origin) (entries : List (String × Item))
  /-- The elements of an array of tables, the last one in front. -/
  | tables (elements : List (List (String × Item)))
deriving Inhabited

/-- Keys in ascending order and what stands under them. -/
abbrev Section := List (String × Item)

namespace Section

/-- Puts a value under a dotted key.  The tables on the way must be implied or dotted ones, and the one
    that gets the value must be dotted; those that are missing are made. -/
def assign : List String → Value → Section → Option Section
  | [], _, _ => none
  | [key], v, s =>
    match s.lookup key with
    | none => some (Keyed.place key (.value v) s)
    | some _ => none
  | key :: path, v, s =>
    match s.lookup key with
    | none => (assign path v []).map fun sub => Keyed.place key (.table .dotted sub) s
    | some (.table origin sub) =>
      if origin = .header ∨ (path.length = 1 ∧ origin ≠ .dotted) then none
      else (assign path v sub).map fun sub => Keyed.place key (.table origin sub) s
    | some (.tables (last :: before)) =>
      if path.length = 1 then none
      else (assign path v last).map fun last => Keyed.place key (.tables (last :: before)) s
    | some _ => none

/-- Changes the table to which the keys of a header lead.  Tables on the way that are missing are implied;
    an array of tables stands for its last element. -/
def descend (change : Section → Option Section) : List String → Section → Option Section
  | [], s => change s
  | key :: path, s =>
    match s.lookup key with
    | none => (descend change path []).map fun sub => Keyed.place key (.table .implied sub) s
    | some (.table origin sub) =>
      (descend change path sub).map fun sub => Keyed.place key (.table origin sub) s
    | some (.tables (last :: before)) =>
      (descend change path last).map fun last => Keyed.place key (.tables (last :: before)) s
    | some _ => none

/-- A header for the table `key`, which must be new or implied so far. -/
def openTable (key : String) (s : Section) : Option Section :=
  match s.lookup key with
  | none => some (Keyed.place key (.table .header []) s)
  | some (.table .implied sub) => some (Keyed.place key (.table .header sub) s)
  | some _ => none

/-- A header for another element of the array of tables `key`. -/
def openElement (key : String) (s : Section) : Option Section :=
  match s.lookup key with
  | none => some (Keyed.place key (.tables [[]]) s)
  | some (.tables elements) => some (Keyed.place key (.tables ([] :: elements)) s)
  | some _ => none

end Section

mutual

/-- The value that an item comes to. -/
def Item.toValue : Item → Value
  | .value v => v
  | .table _ entries => .table (Section.toEntries entries)
  | .tables elements => .array (Section.toElements elements [])

/-- The entries that a table comes to. -/
def Section.toEntries : List (String × Item) → List (String × Value)
  | [] => []
  | (key, item) :: rest => (key, item.toValue) :: Section.toEntries rest

/-- The elements that an array of tables comes to, in front of those that follow them. -/
def Section.toElements : List (List (String × Item)) → List Value → List Value
  | [], after => after
  | element :: before, after =>
    Section.toElements before (.table (Section.toEntries element) :: after)

end

end BenchSweep.Toml
