/-
  The search path of the harness.

  A search path is one sequence of bytes with a colon between each two entries.  The directories of a locator
  are written as one, and whoever searches it splits it again; so it matters that the entries read are the
  directories written, none lost, none added and none moved.

  1. **Entries** (`colon_not_mem_of_mem_splitPath`).  What comes from a search path holds no colon and can go
     into one again, so the inherited entries never stand in the way.

  2. **Writing** (`searchPath_eq_ok_iff`).  A search path is refused exactly for a search directory with a
     colon inside, and otherwise is its directories joined.

  3. **Reading** (`splitPath_join`).  Entries without colons are read back one by one, the empty ones too, if
     there is any: no entry at all is written like one that is empty.

  4. **Finding** (`resolve_eq_lookup`).  A command is found in two ways: the locator tries its search
     directories and never writes them down, and whoever gets the search path tries the entries that are read
     from it.  The search directories are the first entries, so both come to the same directory if one of
     these has the command; and if none has it, the locator leaves the command to the others.
-/
import BenchSweep.Harness.Locator
import BenchSweep.Proofs.Walks

namespace BenchSweep
namespace Locator

/-! ## Entries

  Splitting at the colon never fails and never leaves a colon behind.  The bytes of the entries are the
  pieces themselves, so all of this is known of `List.splitOn`. -/

/-- The bytes of the entries are the pieces between colons. -/
theorem map_bytes_splitPath (bytes : List UInt8) :
    (splitPath bytes).map Path.bytes = List.splitOn colon bytes := by
  rw [splitPath, List.map_map]
  exact List.map_id _

/-- Every search path has an entry, and be it an empty one. -/
theorem splitPath_ne_nil (bytes : List UInt8) : splitPath bytes ≠ [] := by
  intro h
  rw [splitPath, List.map_eq_nil_iff] at h
  exact List.splitOn_ne_nil colon bytes h

/-- What is read from a search path holds no colon. -/
theorem colon_not_mem_of_mem_splitPath {bytes : List UInt8} {entry : Path} (h : entry ∈ splitPath bytes) :
    colon ∉ entry.bytes := by
  obtain ⟨piece, hpiece, rfl⟩ := List.mem_map.1 h
  exact Text.not_mem_of_mem_splitOn hpiece

/-- **Reading.**  Entries without colons that are joined are the entries of the search path. -/
theorem splitPath_join {entries : List Path} (hne : entries ≠ []) (h : ∀ entry ∈ entries, colon ∉ entry.bytes) :
    splitPath (List.intercalate [colon] (entries.map Path.bytes)) = entries := by
  have hpieces : ∀ piece ∈ entries.map Path.bytes, colon ∉ piece := by
    intro piece hpiece
    obtain ⟨entry, hentry, rfl⟩ := List.mem_map.1 hpiece
    exact h entry hentry
  have hsome : entries.map Path.bytes ≠ [] := by
    intro hnil
    exact hne (List.map_eq_nil_iff.1 hnil)
  rw [splitPath, List.splitOn_intercalate _ hpieces hsome, List.map_map]
  exact List.map_id _

/-! ## Writing

  The directories are the search directories and the inherited entries.  Only one check stands in front of
  the joining, and it is about the first of these. -/

/-- The search directories stand first, then what was inherited. -/
theorem directories_eq (locator : Locator) :
    locator.directories = locator.searchDirectories ++ locator.inherited.elim [] splitPath := by
  unfold directories
  cases locator.inherited with
  | none => rfl
  | some bytes => rfl

/-- The inherited entries hold no colon, so only a search directory can. -/
theorem colon_mem_directories_iff (locator : Locator) :
    (∃ d ∈ locator.directories, colon ∈ d.bytes) ↔ ∃ d ∈ locator.searchDirectories, colon ∈ d.bytes := by
  rw [directories_eq]
  constructor
  · rintro ⟨d, hd, hcolon⟩
    rcases List.mem_append.1 hd with hd | hd
    · exact ⟨d, hd, hcolon⟩
    · -- an inherited directory is read from a search path, so it has none
      cases hinherited : locator.inherited with
      | none =>
        rw [hinherited] at hd
        cases hd
      | some bytes =>
        rw [hinherited] at hd
        exact absurd hcolon (colon_not_mem_of_mem_splitPath hd)
  · rintro ⟨d, hd, hcolon⟩
    exact ⟨d, List.mem_append_left _ hd, hcolon⟩

/-- The check that is run asks whether some directory has a colon inside. -/
theorem any_contains_colon_iff (directories : List Path) :
    (directories.map Path.bytes).any (·.contains colon) = true ↔ ∃ d ∈ directories, colon ∈ d.bytes := by
  simp only [List.any_map, List.any_eq_true, Function.comp, List.contains_iff_mem]

/-- **Writing.**  The search path is its directories joined, if no search directory has a colon inside. -/
theorem searchPath_eq_ok_iff {locator : Locator} {bytes : List UInt8} :
    locator.searchPath = .ok bytes ↔ (¬ ∃ d ∈ locator.searchDirectories, colon ∈ d.bytes) ∧
      bytes = List.intercalate [colon] (locator.directories.map Path.bytes) := by
  rw [← colon_mem_directories_iff, ← any_contains_colon_iff]
  unfold searchPath
  rw [ite_error_eq_ok_iff, Except.ok.injEq]
  exact and_congr_right fun _ => eq_comm

/-- There is a search path exactly if no search directory has a colon inside. -/
theorem exists_searchPath_iff (locator : Locator) :
    (∃ bytes, locator.searchPath = .ok bytes) ↔ ¬ ∃ d ∈ locator.searchDirectories, colon ∈ d.bytes := by
  constructor
  · rintro ⟨bytes, hbytes⟩
    exact (searchPath_eq_ok_iff.1 hbytes).1
  · intro hnone
    exact ⟨_, searchPath_eq_ok_iff.2 ⟨hnone, rfl⟩⟩

/-- What is written is read as the directories, if there are any. -/
theorem splitPath_searchPath {locator : Locator} {bytes : List UInt8} (h : locator.searchPath = .ok bytes)
    (hne : locator.directories ≠ []) : splitPath bytes = locator.directories := by
  obtain ⟨hnone, rfl⟩ := searchPath_eq_ok_iff.1 h
  rw [← colon_mem_directories_iff] at hnone
  refine splitPath_join hne fun d hd hcolon => ?_
  exact hnone ⟨d, hd, hcolon⟩

/-- **The entries of a search path.**  There is none exactly if a search directory has a colon inside.  The
    one that there is has the search directories as its entries and then those that were inherited, and it is
    the inherited one byte for byte if there are no search directories. -/
theorem searchPath_entries (locator : Locator) :
    ((∃ fault, locator.searchPath = .error fault) ↔ ∃ d ∈ locator.searchDirectories, colon ∈ d.bytes) ∧
    (∀ bytes, locator.searchPath = .ok bytes →
      locator.searchDirectories ≠ [] ∨ locator.inherited.isSome = true →
      splitPath bytes = locator.searchDirectories ++ locator.inherited.elim [] splitPath) ∧
    ∀ inherited, locator.searchDirectories = [] → locator.inherited = some inherited →
      locator.searchPath = .ok inherited := by
  refine ⟨?_, ?_, ?_⟩
  · rw [exists_eq_error_iff, exists_searchPath_iff, Classical.not_not]
  · intro bytes hpath hsome
    rw [← directories_eq]
    refine splitPath_searchPath hpath ?_
    rw [directories_eq]
    rcases hsome with hdirectories | hinherited
    · exact List.append_ne_nil_of_left_ne_nil hdirectories _
    · obtain ⟨inherited, heq⟩ := Option.isSome_iff_exists.1 hinherited
      rw [heq]
      exact List.append_ne_nil_of_right_ne_nil _ (splitPath_ne_nil inherited)
  · intro inherited hdirectories hinherited
    -- without search directories the entries are those inherited, and joining undoes the splitting
    have hentries : locator.directories = splitPath inherited := by
      rw [directories_eq, hdirectories, hinherited]
      rfl
    refine searchPath_eq_ok_iff.2 ⟨?_, ?_⟩
    · rw [hdirectories]
      rintro ⟨d, hd, -⟩
      cases hd
    · rw [hentries, map_bytes_splitPath, List.intercalate_splitOn]

/-- A directory that is given twice and one without a name, in front of a search path that begins and ends with
    a colon; and that search path alone. -/
theorem searchPath_entries_empty :
    (∃ bytes, (Locator.mk [⟨[0x61]⟩, ⟨[]⟩, ⟨[0x61]⟩] (some [0x3A, 0x62, 0x3A])).searchPath = .ok bytes ∧
      splitPath bytes = [⟨[0x61]⟩, ⟨[]⟩, ⟨[0x61]⟩, ⟨[]⟩, ⟨[0x62]⟩, ⟨[]⟩]) ∧
    (Locator.mk [] (some [0x3A, 0x62, 0x3A])).searchPath = .ok [0x3A, 0x62, 0x3A] := by
  have hmade : (Locator.mk [⟨[0x61]⟩, ⟨[]⟩, ⟨[0x61]⟩] (some [0x3A, 0x62, 0x3A])).searchPath =
      .ok [0x61, 0x3A, 0x3A, 0x61, 0x3A, 0x3A, 0x62, 0x3A] := rfl
  obtain ⟨-, hread, -⟩ := searchPath_entries ⟨[⟨[0x61]⟩, ⟨[]⟩, ⟨[0x61]⟩], some [0x3A, 0x62, 0x3A]⟩
  refine ⟨⟨_, hmade, hread _ hmade (.inl (List.cons_ne_nil _ _))⟩, ?_⟩
  exact (searchPath_entries ⟨[], some [0x3A, 0x62, 0x3A]⟩).2.2 _ rfl rfl

/-! ## Finding

  Finding goes through a list of directories and takes the first with a file.  The locator's list is the
  front of the entries that are read, so if anything is found in the front, it is found first. -/

/-- The first entry of a search path in which a command is found. -/
def lookup? (isFile : Path → Bool) (bytes : List UInt8) (command : Path) : Option Path :=
  (splitPath bytes).find? fun entry => isFile (entry.append command)

/-- A search directory has the command. -/
def Holds (locator : Locator) (isFile : Path → Bool) (command : Path) : Prop :=
  ∃ d ∈ locator.searchDirectories, isFile (d.append command) = true

/-- A command of several components is never looked for. -/
theorem resolve_of_components {command : String} (h : 1 < (Path.ofString command).components.length)
    (locator : Locator) (isFile : Path → Bool) : locator.resolve isFile command = .ofString command := by
  unfold resolve
  exact if_pos h

/-- A bare command is looked for in the search directories alone. -/
theorem resolve_of_bare {command : String} (h : (Path.ofString command).components.length ≤ 1)
    (locator : Locator) (isFile : Path → Bool) : locator.resolve isFile command =
      ((locator.searchDirectories.find? fun d => isFile (d.append (.ofString command))).map
        (·.append (.ofString command))).getD (.ofString command) := by
  have hbare : ¬ 1 < (Path.ofString command).components.length := Nat.not_lt.2 h
  simp only [resolve, if_neg hbare, List.find?_map, Function.comp_def]
  cases locator.searchDirectories.find? fun d => isFile (d.append (.ofString command)) with
  | none => rfl
  | some d => rfl

/-- If a search directory has the command, a first one has it. -/
theorem exists_find?_of_holds {locator : Locator} {isFile : Path → Bool} {command : Path}
    (h : locator.Holds isFile command) :
    ∃ d, (locator.searchDirectories.find? fun d => isFile (d.append command)) = some d := by
  obtain ⟨d, hd, hfile⟩ := h
  have hsome : (locator.searchDirectories.find? fun d => isFile (d.append command)).isSome = true := by
    rw [List.find?_isSome]
    exact ⟨d, hd, hfile⟩
  exact Option.isSome_iff_exists.1 hsome

/-- If none has it, none is found. -/
theorem find?_of_not_holds {locator : Locator} {isFile : Path → Bool} {command : Path}
    (h : ¬ locator.Holds isFile command) :
    (locator.searchDirectories.find? fun d => isFile (d.append command)) = none := by
  rw [List.find?_eq_none]
  intro d hd hfile
  exact h ⟨d, hd, hfile⟩

/-- The search directory in which a command is found is the entry in which it is found. -/
theorem lookup?_of_find? {locator : Locator} {isFile : Path → Bool} {command d : Path} {bytes : List UInt8}
    (hpath : locator.searchPath = .ok bytes)
    (h : (locator.searchDirectories.find? fun d => isFile (d.append command)) = some d) :
    lookup? isFile bytes command = some d := by
  have hmem : d ∈ locator.searchDirectories := List.mem_of_find?_eq_some h
  have hne : locator.directories ≠ [] := by
    rw [directories_eq]
    exact List.append_ne_nil_of_left_ne_nil (List.ne_nil_of_mem hmem) _
  rw [lookup?, splitPath_searchPath hpath hne, directories_eq, List.find?_append, h]
  rfl

/-- **Finding.**  For every locator that has a search path, and whatever is a file: if a search directory has
    a bare command, then the first one that has it is the first entry of the search path that has it, and the
    command stands for its file.  In all other cases a command stands for itself; if it is bare, what the search
    path has it in is none of the search directories. -/
theorem resolve_eq_lookup (locator : Locator) (isFile : Path → Bool) (command : String) :
    (∀ bytes, locator.searchPath = .ok bytes → (Path.ofString command).components.length ≤ 1 →
      (locator.Holds isFile (.ofString command) →
        ∃ entry ∈ locator.searchDirectories, lookup? isFile bytes (.ofString command) = some entry ∧
          (locator.searchDirectories.find? fun d => isFile (d.append (.ofString command))) = some entry ∧
          locator.resolve isFile command = entry.append (.ofString command)) ∧
      (¬ locator.Holds isFile (.ofString command) →
        locator.resolve isFile command = .ofString command ∧
          ∀ entry, lookup? isFile bytes (.ofString command) = some entry →
            entry ∉ locator.searchDirectories)) ∧
    (1 < (Path.ofString command).components.length → locator.resolve isFile command = .ofString command) := by
  refine ⟨fun bytes hpath hbare => ⟨fun hholds => ?_, fun hnone => ⟨?_, ?_⟩⟩, fun hcomponents => ?_⟩
  · obtain ⟨d, hd⟩ := exists_find?_of_holds hholds
    have hresolve : locator.resolve isFile command = d.append (.ofString command) := by
      rw [resolve_of_bare hbare, hd]
      rfl
    exact ⟨d, List.mem_of_find?_eq_some hd, lookup?_of_find? hpath hd, hd, hresolve⟩
  · rw [resolve_of_bare hbare, find?_of_not_holds hnone]
    rfl
  · intro entry hentry hmem
    -- an entry that has the file and is a search directory would have been found there
    rw [lookup?] at hentry
    have hfile := List.find?_some hentry
    exact hnone ⟨entry, hmem, hfile⟩
  · exact resolve_of_components hcomponents locator isFile

/-- The directories `a` and `b`, and the inherited entries `c` and `b`. -/
def lettered : Locator := ⟨[⟨[0x61]⟩, ⟨[0x62]⟩], some [0x63, 0x3A, 0x62]⟩

/-- One command in `b` and in `c`, and another one in `c` alone. -/
def isLetteredFile (p : Path) : Bool :=
  [Path.ofString "b/run", Path.ofString "c/run", Path.ofString "c/low"].contains p

/-- The first command is that of `b`, the second one is left to the search path, and a path that names the
    second one stays what it is. -/
theorem resolve_eq_lookup_lettered :
    ∃ bytes, lettered.searchPath = .ok bytes ∧
      lookup? isLetteredFile bytes (.ofString "run") = some ⟨[0x62]⟩ ∧
      lettered.resolve isLetteredFile "run" = .ofString "b/run" ∧
      lookup? isLetteredFile bytes (.ofString "low") = some ⟨[0x63]⟩ ∧
      lettered.resolve isLetteredFile "low" = .ofString "low" ∧
      lettered.resolve isLetteredFile "c/low" = .ofString "c/low" := by
  have hpath : lettered.searchPath = .ok [0x61, 0x3A, 0x62, 0x3A, 0x63, 0x3A, 0x62] := rfl
  have hholds : lettered.Holds isLetteredFile (.ofString "run") := ⟨⟨[0x62]⟩, by decide +kernel, by decide +kernel⟩
  have hnone : ¬ lettered.Holds isLetteredFile (.ofString "low") := by
    rintro ⟨d, hd, hfile⟩
    rcases List.mem_cons.1 hd with rfl | hd
    · exact absurd hfile (by decide +kernel)
    · obtain rfl := List.mem_singleton.1 hd
      exact absurd hfile (by decide +kernel)
  obtain ⟨hrun, -⟩ := resolve_eq_lookup lettered isLetteredFile "run"
  obtain ⟨hlow, -⟩ := resolve_eq_lookup lettered isLetteredFile "low"
  obtain ⟨-, hpathed⟩ := resolve_eq_lookup lettered isLetteredFile "c/low"
  obtain ⟨entry, -, hlookup, hfind, hresolve⟩ := (hrun _ hpath (by decide +kernel)).1 hholds
  obtain ⟨hstays, -⟩ := (hlow _ hpath (by decide +kernel)).2 hnone
  obtain rfl : entry = ⟨[0x62]⟩ := Option.some.inj (hfind.symm.trans (by decide +kernel))
  have hjoined : (Path.mk [0x62]).append (.ofString "run") = .ofString "b/run" := by decide +kernel
  exact ⟨_, hpath, hlookup, hresolve.trans hjoined, by decide +kernel, hstays, hpathed (by decide +kernel)⟩

end Locator
end BenchSweep
