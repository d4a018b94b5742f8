/-
  What stands where in a tree.

  Operations on files store one node at one location.  What that means for all other locations is said here
  once, in terms of what a location holds apart from what is below it (`Files.kind?`).

  1. **One change** (`Files.kind?_put`).  A node without entries, stored in a directory in place of nothing or
     of another node without entries, changes its own location and no other one.

  2. **Growth** (`Files.Grows`).  Making directories only ever adds directories.  Everything that is there
     stays what it is, and of each new directory it is known why it is there; both carry over from one change
     to many (`Grows.trans`).
-/
import BenchSweep.Files.Tree
import BenchSweep.Proofs.Tables

namespace BenchSweep

namespace Node

/-! ## Below a node -/

/-- What a node is, without what is below it. -/
inductive Kind where
  | file (content : List UInt8) (executable : Bool)
  | directory
deriving DecidableEq

/-- A file is what its content is; of a directory only that it is one. -/
def kind : Node → Kind
  | .file content executable => .file content executable
  | .directory _ => .directory

/-- Nothing is below the node. -/
def IsLeaf (node : Node) : Prop := ∀ n, node.child? n = none

/-- Nothing is below a directory without entries. -/
theorem isLeaf_directory_nil : (directory []).IsLeaf := fun _ => rfl

/-- Of the kind of directories are the directories. -/
theorem kind_eq_directory_iff {node : Node} : node.kind = .directory ↔ ∃ entries, node = .directory entries := by
  cases node with
  | file content executable => simp [kind]
  | directory entries => simp [kind]

/-- An entry that is put in is found under its name, and all others as before. -/
theorem lookup_putEntry (n : Name) (node : Node) (entries : List (Name × Node)) (m : Name) :
    (putEntry n node entries).lookup m = if m = n then some node else entries.lookup m := by
  -- on the entries, of which the first with this name is replaced
  induction entries with
  | nil => rw [putEntry, Keyed.lookup_cons_eq_ite]
  | cons e entries ih =>
    rw [putEntry, Keyed.lookup_cons_eq_ite m e]
    by_cases he : e.1 = n
    · rw [if_pos he, Keyed.lookup_cons_eq_ite, he]
      by_cases hm : m = n
      · rw [if_pos hm, if_pos hm]
      · rw [if_neg hm, if_neg hm, if_neg hm]
    · rw [if_neg he, Keyed.lookup_cons_eq_ite, ih]
      by_cases hm : m = e.1
      · have hne : m ≠ n := fun h => he (hm.symm.trans h)
        rw [if_pos hm, if_pos hm, if_neg hne]
      · rw [if_neg hm, if_neg hm]

/-- A way is gone in two parts. -/
theorem below?_append (a b : List Name) (node : Node) :
    below? (a ++ b) node = (below? a node).bind (below? b) := by
  induction a generalizing node with
  | nil => rfl
  | cons n a ih =>
    rw [List.cons_append, below?, below?, Option.bind_assoc]
    exact congrArg _ (funext ih)

/-- No way leads further from a leaf. -/
theorem below?_of_isLeaf {node : Node} (h : node.IsLeaf) (n : Name) (way : List Name) :
    below? (n :: way) node = none := by
  rw [below?, h n]
  rfl

/-- The nodes below an entry that is stored, and those below the others. -/
theorem below?_putEntry (n : Name) (node : Node) (entries : List (Name × Node)) (m : Name) (way : List Name) :
    below? (m :: way) (.directory (putEntry n node entries)) =
      if m = n then below? way node else below? (m :: way) (.directory entries) := by
  rw [below?, child?, lookup_putEntry]
  split
  · rfl
  · rfl

/-- Storing below an entry changes the node of this entry. -/
theorem putBelow_cons (new : Node) {n : Name} {way : List Name} (hway : way ≠ [])
    {entries : List (Name × Node)} {child : Node} (hchild : entries.lookup n = some child) :
    putBelow new (n :: way) (.directory entries) =
      .directory (putEntry n (putBelow new way child) entries) := by
  obtain ⟨m, way, rfl⟩ := List.exists_cons_of_ne_nil hway
  rw [putBelow, hchild]
  exact fun h => absurd h (List.cons_ne_nil _ _)

/-- Storing a leaf in place of a leaf, or of nothing, changes one location. -/
theorem kind_below?_putBelow {new : Node} (hnew : new.IsLeaf) {way : List Name} {n : Name} {node : Node}
    {entries : List (Name × Node)} (hway : below? way node = some (.directory entries))
    (hold : ∀ old, entries.lookup n = some old → old.IsLeaf) (path : List Name) :
    (below? path (putBelow new (way ++ [n]) node)).map kind =
      if path = way ++ [n] then some new.kind else (below? path node).map kind := by
  -- on the way to the directory: at its end an entry is put in, and before that one node is changed on the
  -- way
  induction way generalizing node path with
  | nil =>
    obtain rfl : node = .directory entries := Option.some.inj hway
    cases path with
    | nil => rfl
    | cons m path =>
      rw [List.nil_append, putBelow, below?_putEntry]
      by_cases hm : m = n
      · rw [if_pos hm, hm]
        cases path with
        | nil => rw [if_pos rfl, below?, Option.map_some]
        | cons k path =>
          -- nothing is below either leaf
          have hbelow : below? (n :: k :: path) (.directory entries) = none := by
            rw [below?, child?]
            cases hlookup : entries.lookup n with
            | none => rfl
            | some old => exact below?_of_isLeaf (hold old hlookup) k path
          rw [below?_of_isLeaf hnew, hbelow, if_neg (by simp)]
      · rw [if_neg hm, if_neg (by simp [hm])]
  -- the other way sets out through the same entry, where the induction speaks of the rest, or through
  -- another one
  | cons w way ih =>
    obtain ⟨child, hchild, hbelow⟩ := Option.bind_eq_some_iff.1 hway
    cases node with
    | file content executable => cases hchild
    | directory others =>
      rw [List.cons_append, putBelow_cons new (by simp) hchild]
      cases path with
      | nil => rfl
      | cons m path =>
        rw [below?_putEntry]
        by_cases hm : m = w
        · have hsame : below? (m :: path) (.directory others) = below? path child := by
            rw [below?, hm, hchild]
            rfl
          rw [if_pos hm, ih hbelow, hsame, hm]
          simp only [List.cons.injEq, true_and]
        · rw [if_neg hm, if_neg (by simp [hm])]

end Node

namespace Files

/-! ## Locations

  A location is a way from the root with the last name in front, so what is below a location is one name
  more. -/

/-- What stands at a location, without what is below it. -/
def kind? (files : Files) (location : Location) : Option Node.Kind := (files.node? location).map Node.kind

/-- What stands below a location is an entry of what stands there. -/
theorem node?_cons (files : Files) (n : Name) (location : Location) :
    files.node? (n :: location) = (files.node? location).bind (Node.child? n) := by
  have hone : Node.below? [n] = Node.child? n := funext fun node => by
    rw [Node.below?]
    exact Option.bind_fun_some _
  rw [node?, List.reverse_cons, Node.below?_append, hone, ← node?]

/-- A location is a directory if a node with entries stands there. -/
theorem kind?_eq_directory_iff {files : Files} {location : Location} :
    files.kind? location = some .directory ↔ ∃ entries, files.node? location = some (.directory entries) := by
  rw [kind?, Option.map_eq_some_iff]
  constructor
  · rintro ⟨node, hnode, hkind⟩
    obtain ⟨entries, rfl⟩ := Node.kind_eq_directory_iff.1 hkind
    exact ⟨entries, hnode⟩
  · rintro ⟨entries, hnode⟩
    exact ⟨_, hnode, rfl⟩

/-- A location holds nothing if no node stands there. -/
theorem kind?_eq_none_iff {files : Files} {location : Location} :
    files.kind? location = none ↔ files.node? location = none :=
  Option.map_eq_none_iff

/-- What is below something is below a directory. -/
theorem kind?_of_cons {files : Files} {n : Name} {location : Location}
    (h : files.kind? (n :: location) ≠ none) : files.kind? location = some .directory := by
  rw [Ne, kind?_eq_none_iff, node?_cons] at h
  cases hnode : files.node? location with
  | none =>
    rw [hnode] at h
    exact absurd rfl h
  | some node =>
    rw [hnode] at h
    cases node with
    | file content executable => exact absurd rfl h
    | directory entries => exact kind?_eq_directory_iff.2 ⟨entries, hnode⟩

/-- The root of a tree in which a directory is, is one. -/
theorem kind?_root {files : Files} {location : Location} (h : files.kind? location = some .directory) :
    files.kind? [] = some .directory := by
  induction location with
  | nil => exact h
  | cons n location ih => exact ih (kind?_of_cons (ne_of_eq_of_ne h (Option.some_ne_none _)))

/-- Storing a leaf in a directory, in place of a leaf or of nothing, changes one location. -/
theorem kind?_put {files : Files} {location : Location} {n : Name} {new : Node} (hnew : new.IsLeaf)
    (hdirectory : files.kind? location = some .directory)
    (hold : ∀ old, files.node? (n :: location) = some old → old.IsLeaf) (other : Location) :
    (files.put (n :: location) new).kind? other =
      if other = n :: location then some new.kind else files.kind? other := by
  obtain ⟨entries, hentries⟩ := kind?_eq_directory_iff.1 hdirectory
  rw [node?_cons, hentries] at hold
  have hreverse : other.reverse = location.reverse ++ [n] ↔ other = n :: location := by
    rw [← List.reverse_cons, List.reverse_inj]
  rw [kind?, node?, put, List.reverse_cons, Node.kind_below?_putBelow hnew hentries hold]
  simp only [hreverse, kind?, node?]

/-! ## Growth -/

/-- The working directory is a directory. -/
def Grounded (files : Files) : Prop := files.kind? files.workingDirectory = some .directory

/-- Something is at the working directory. -/
theorem Grounded.kind?_ne_none {files : Files} (h : files.Grounded) :
    files.kind? files.workingDirectory ≠ none :=
  ne_of_eq_of_ne h (Option.some_ne_none _)

/-- `after` has all that `before` has, and besides it new directories at some of the `places`. -/
structure Grows (places : Location → Prop) (before after : Files) : Prop where
  workingDirectory : after.workingDirectory = before.workingDirectory
  kind? : ∀ location, after.kind? location = before.kind? location ∨
    before.kind? location = none ∧ after.kind? location = some .directory ∧ places location

namespace Grows

variable {places others : Location → Prop} {before between after : Files}

/-- A tree has grown out of itself, with nothing new. -/
theorem refl (files : Files) : Grows places files files := ⟨rfl, fun _ => .inl rfl⟩

/-- For the places of what is new others may be named that include them. -/
theorem imp (h : Grows places before after) (himp : ∀ location, places location → others location) :
    Grows others before after :=
  ⟨h.workingDirectory, fun location => (h.kind? location).imp id
    fun ⟨hmissing, hnew, hplace⟩ => ⟨hmissing, hnew, himp location hplace⟩⟩

/-- What was there is still what it was. -/
theorem kind?_of_some (h : Grows places before after) {location : Location} {kind : Node.Kind}
    (hkind : before.kind? location = some kind) : after.kind? location = some kind := by
  rcases h.kind? location with hsame | ⟨hmissing, -, -⟩
  · rw [hsame, hkind]
  · rw [hmissing] at hkind
    cases hkind

/-- Something new is a directory at one of the places. -/
theorem new (h : Grows places before after) {location : Location} (hmissing : before.kind? location = none)
    (hnew : after.kind? location ≠ none) : after.kind? location = some .directory ∧ places location := by
  rcases h.kind? location with hsame | ⟨-, hdirectory, hplace⟩
  · exact absurd (hsame.trans hmissing) hnew
  · exact ⟨hdirectory, hplace⟩

/-- Where something was, something is. -/
theorem kind?_ne_none (h : Grows places before after) {location : Location}
    (hthere : before.kind? location ≠ none) : after.kind? location ≠ none := by
  obtain ⟨kind, hkind⟩ := Option.ne_none_iff_exists'.1 hthere
  exact ne_of_eq_of_ne (h.kind?_of_some hkind) (Option.some_ne_none _)

/-- What has grown twice has grown, and what was new first is so now. -/
theorem trans (h : Grows places before between) (h' : Grows places between after) :
    Grows places before after := by
  refine ⟨h'.workingDirectory.trans h.workingDirectory, fun location => ?_⟩
  rcases h.kind? location with hsame | ⟨hmissing, hnew, hplace⟩
  · rw [← hsame]
    exact h'.kind? location
  · exact .inr ⟨hmissing, h'.kind?_of_some hnew, hplace⟩

/-- The working directory stays a directory. -/
theorem grounded (h : Grows places before after) (hgrounded : before.Grounded) : after.Grounded := by
  rw [Grounded, h.workingDirectory]
  exact h.kind?_of_some hgrounded

end Grows

/-- A new directory. -/
theorem kind?_put_directory {files : Files} {location : Location} {n : Name}
    (hdirectory : files.kind? location = some .directory) (hmissing : files.node? (n :: location) = none)
    (other : Location) : (files.put (n :: location) (.directory [])).kind? other =
      if other = n :: location then some .directory else files.kind? other := by
  have hold : ∀ old, files.node? (n :: location) = some old → old.IsLeaf := fun old hold => by
    rw [hmissing] at hold
    cases hold
  exact kind?_put Node.isLeaf_directory_nil hdirectory hold other

/-- A new directory in one that is there is growth at its location. -/
theorem grows_put {files : Files} {location : Location} {n : Name}
    (hdirectory : files.kind? location = some .directory) (hmissing : files.node? (n :: location) = none) :
    Grows (· = n :: location) files (files.put (n :: location) (.directory [])) := by
  refine ⟨rfl, fun other => ?_⟩
  rw [kind?_put_directory hdirectory hmissing]
  split
  · next heq => exact .inr ⟨by rw [heq, kind?_eq_none_iff, hmissing], rfl, heq⟩
  · exact .inl rfl

end Files
end BenchSweep
