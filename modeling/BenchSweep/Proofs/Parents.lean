/-
  The directories to which the outputs belong.

  A sweep makes the directories of its outputs before it launches anything, so that no invocation fails for
  want of a place to write to.  Of each directory it asks whether its path exists, and makes it if not.

  1. **Making them** (`prepares_parents`).  Whatever comes of it, the tree gains nothing but leading parts of
     those directories.  If nothing is refused, all of their paths exist, and making them again makes nothing.

  2. **What they are** (`launches_with_parents`).  A path exists also if it leads to a file.  Nothing can be
     written below a file (`directory_of_write`), so an output whose directory is one fails in every
     invocation (`launches_under_file`); a file in front of the last step is noticed in time.
-/
import BenchSweep.Proofs.Calls
import BenchSweep.Proofs.Preparation

namespace BenchSweep

/-! ## Writing below a file

  A write goes to a destination, which is a name in a directory that the walk has reached.  That directory
  is at the place of the parent, so a file at that place stops the write. -/

namespace Path

/-- The last step of a path is that of its pieces. -/
theorem getLast?_components {p : Path} {front : List Component} {c : Component}
    (h : p.pieces.filterMap Component.ofPiece? = front ++ [c]) : p.components.getLast? = some c := by
  have hlast : (front ++ [c]).getLast? = some c := List.getLast?_concat
  unfold components
  rw [h]
  split
  · rw [List.getLast?_cons, hlast]
    rfl
  · split
    · rw [List.getLast?_cons, hlast]
      rfl
    · exact hlast

/-- The empty path leads nowhere else. -/
theorem resolve_of_isEmpty {p : Path} (h : p.isEmpty = true) (dir : Location) : resolve dir p = dir := by
  rw [resolve, components_of_isEmpty h, List.foldl_nil]

end Path

namespace Files

/-- A file stands at a place. -/
def HasFileAt (files : Files) (place : Location) : Prop :=
  ∃ content executable, files.kind? place = some (.file content executable)

/-- A file is no directory. -/
theorem HasFileAt.ne_directory {files : Files} {place : Location} (h : files.HasFileAt place) :
    files.kind? place ≠ some .directory := by
  obtain ⟨content, executable, hfile⟩ := h
  rw [hfile]
  intro hdirectory
  cases hdirectory

/-- At a place there is nothing, a file or a directory. -/
theorem kind?_cases (files : Files) (place : Location) :
    files.kind? place = none ∨ files.HasFileAt place ∨ files.kind? place = some .directory := by
  cases hkind : files.kind? place with
  | none => exact .inl rfl
  | some kind =>
    cases kind with
    | file content executable => exact .inr (.inl ⟨content, executable, hkind⟩)
    | directory => exact .inr (.inr rfl)

/-- The directory of what is to be made is at the place of its own path. -/
theorem resolve_parent_of_destination {files : Files} {p parent : Path} (hparent : p.parent? = some parent)
    {d : Destination} (h : files.destination p = .ok (some d)) (hlast : isEntryName d.last = true) :
    Path.resolve files.workingDirectory parent = d.parent := by
  obtain ⟨before, blanks, hpieces, hblanks, -, -, -, -⟩ := destination_eq_ok h
  have hsteps : p.pieces.filterMap Path.Component.ofPiece? =
      before.filterMap Path.Component.ofPiece? ++ [.name d.last] := by
    rw [hpieces, List.filterMap_append, List.filterMap_cons_some (isEntryName_iff.1 hlast),
      filterMap_blanks hblanks]
  obtain ⟨c, hc⟩ := Path.components_of_parent? hparent
  -- the last component is the name of the destination, so the others lead to its directory
  have hname : c = .name d.last := by
    have hend := Path.getLast?_components hsteps
    rw [hc, List.getLast?_concat] at hend
    exact Option.some.inj hend
  have hplace := destination_location h hlast
  rw [Path.resolve, hc, hname, List.foldl_concat] at hplace
  exact (List.cons.inj hplace).2.symm

/-- **What is written is in a directory.** -/
theorem directory_of_write {files files' : Files} {p parent : Path} (hparent : p.parent? = some parent)
    {change : Change} (h : files.write p change = .ok files') :
    files.kind? (Path.resolve files.workingDirectory parent) = some .directory := by
  obtain ⟨d, hdestination, hlast, -⟩ := write_eq_ok h
  obtain ⟨-, -, -, -, -, hdirectory, -, -⟩ := destination_eq_ok hdestination
  rw [resolve_parent_of_destination hparent hdestination hlast]
  exact hdirectory

/-! ## Existing paths

  That a path exists says that something is at its place and that the way to it can be walked.  What is at
  the place may be a file all the same, and here the two are kept apart. -/

/-- The directory of an output is a directory, if it is not the working directory. -/
def HasParentDirectory (files : Files) (output : Path) : Prop :=
  ∀ parent, output.parent? = some parent → parent.isEmpty = true ∨ files.isDirectory parent = true

/-- The directory of an output is a file. -/
def HasParentFile (files : Files) (output : Path) : Prop :=
  ∃ parent, output.parent? = some parent ∧ files.HasFileAt (Path.resolve files.workingDirectory parent)

/-- Something is at the place of the directory of an output, unless that is the working directory. -/
theorem HasParent.kind?_ne_none {files : Files} {output parent : Path} (h : files.HasParent output)
    (hparent : output.parent? = some parent) (hempty : parent.isEmpty = false) :
    files.kind? (Path.resolve files.workingDirectory parent) ≠ none := by
  rcases h parent hparent with hnothing | hexists
  · exact absurd hnothing (Bool.eq_false_iff.1 hempty)
  · exact (pathExists_iff.1 hexists).2

/-- A path that exists leads to a directory if it does not lead to a file. -/
theorem HasParent.hasParentDirectory_iff {files : Files} (hgrounded : files.Grounded) {output : Path}
    (h : files.HasParent output) : files.HasParentDirectory output ↔ ¬ files.HasParentFile output := by
  constructor
  · rintro hdirectory ⟨parent, hparent, hfile⟩
    rcases hdirectory parent hparent with hempty | hdirectory
    · rw [Path.resolve_of_isEmpty hempty] at hfile
      exact hfile.ne_directory hgrounded
    · exact hfile.ne_directory (isDirectory_iff.1 hdirectory).2
  · intro hnone parent hparent
    refine (h parent hparent).imp id fun hexists => ?_
    obtain ⟨hreaches, hthere⟩ := pathExists_iff.1 hexists
    -- something is there, and it is no file
    rcases files.kind?_cases (Path.resolve files.workingDirectory parent) with hmissing | hfile | hdirectory
    · exact absurd hmissing hthere
    · exact absurd ⟨parent, hparent, hfile⟩ hnone
    · exact isDirectory_iff.2 ⟨hreaches, hdirectory⟩

/-- All that an existing path leads through are directories. -/
theorem kind?_of_passesThrough {files : Files} (hgrounded : files.Grounded) {p : Path}
    (h : files.pathExists p = true) {place : Location} (hplace : p.PassesThrough files.workingDirectory place) :
    files.kind? place = some .directory := by
  obtain ⟨front, hfront, hwhole, rfl⟩ := hplace
  by_cases hne : front = []
  · rw [hne, List.foldl_nil]
    exact hgrounded
  · obtain ⟨pieces, hpieces, hall, hplace⟩ := Path.exists_pieces_of_front files.workingDirectory hfront hne
    rw [hplace]
    exact (pathExists_iff.1 h).1.passable.directory pieces hpieces fun heq => hwhole (hall heq)

namespace Grows

variable {places : Location → Prop} {before after : Files}

/-- Directories are made beside files, so the files are those that were there. -/
theorem hasFileAt_iff (h : Grows places before after) {place : Location} :
    after.HasFileAt place ↔ before.HasFileAt place := by
  constructor
  · rintro ⟨content, executable, hfile⟩
    rcases h.kind? place with hsame | ⟨-, hdirectory, -⟩
    · exact ⟨content, executable, hsame ▸ hfile⟩
    · rw [hdirectory] at hfile
      cases hfile
  · rintro ⟨content, executable, hfile⟩
    exact ⟨content, executable, h.kind?_of_some hfile⟩

/-- So the parent of an output is a file after it exactly if it was one before. -/
theorem hasParentFile_iff (h : Grows places before after) {output : Path} :
    after.HasParentFile output ↔ before.HasParentFile output := by
  rw [HasParentFile, HasParentFile, h.workingDirectory]
  simp only [h.hasFileAt_iff]

end Grows
end Files

namespace Sweep

open Files (Grows)

/-! ## Making the directories

  The growth and the parents come from `Proofs/Preparation`; what is new is that something is at the places
  of the parents and that a second time changes nothing. -/

/-- **Making the directories of a plan's outputs.**  Whatever comes of it, all that was there stays, and what is
    new are directories, to each of which a leading part of the directory of some output leads.  If nothing is
    refused, the directories of all outputs are there (in every tree whose root is a directory): their paths
    exist, so that something is at the places to which they lead.  Making them again changes nothing.  Nothing
    is refused or changed wherever they all are there. -/
theorem prepares_parents (files : Files) (plan : Plan) :
    Grows (plan.NeedsDirectory (prepared files plan)) files (prepared files plan) ∧
    (files.kind? [] = some .directory →
      (makeOutputDirectories files (plan.experiments.map Experiment.output)).1 = .ok () →
      (∀ e ∈ plan.experiments, (prepared files plan).HasParent e.output) ∧
      (∀ e ∈ plan.experiments, ∀ parent, e.output.parent? = some parent → parent.isEmpty = false →
        (prepared files plan).kind? (Path.resolve files.workingDirectory parent) ≠ none) ∧
      makeOutputDirectories (prepared files plan) (plan.experiments.map Experiment.output) =
        (.ok (), prepared files plan)) ∧
    ((∀ e ∈ plan.experiments, files.HasParent e.output) →
      makeOutputDirectories files (plan.experiments.map Experiment.output) = (.ok (), files)) := by
  refine ⟨grows_prepared files plan, fun hroot hmade => ?_, makeOutputDirectories_of_experiments⟩
  have hparents : ∀ e ∈ plan.experiments, (prepared files plan).HasParent e.output :=
    fun e he => hasParent_prepared hroot hmade he
  refine ⟨hparents, fun e he parent hparent hempty => ?_, makeOutputDirectories_of_experiments hparents⟩
  rw [← (grows_prepared files plan).workingDirectory]
  exact (hparents e he).kind?_ne_none hparent hempty

/-- Four outputs: behind a directory that is only made for the way back out of it, beside one of that
    directory, below the root, and in the working directory. -/
def scatteredPlan : Plan :=
  { name := "p", repetitions := 1, subjects := ⟨["NIL"]⟩, axes := .ofList [("g", ⟨[1]⟩)]
    experiments := ["x/../y/a.csv", "y/b.csv", "/z/c.csv", "d.csv"].map fun output =>
      { name := output, family := "g", selector := 1, mode := 2, output := .ofString output } }

/-- A working directory `w`, and nothing else. -/
def workingFiles : Files :=
  ⟨.directory [((Path.ofString "w").bytes, .directory [])], [(Path.ofString "w").bytes]⟩

/-- The plan gets `x` and `y` in the working directory, and `z` in the root. -/
theorem prepares_parents_scatteredPlan :
    workingFiles.kind? [] = some .directory ∧
      (makeOutputDirectories workingFiles (scatteredPlan.experiments.map Experiment.output)).1 = .ok () ∧
      (∀ p ∈ ["x", "y", "/z"], (prepared workingFiles scatteredPlan).isDirectory (.ofString p) = true) ∧
      (∀ e ∈ scatteredPlan.experiments, (prepared workingFiles scatteredPlan).HasParent e.output) ∧
      makeOutputDirectories (prepared workingFiles scatteredPlan)
        (scatteredPlan.experiments.map Experiment.output) = (.ok (), prepared workingFiles scatteredPlan) := by
  have hroot : workingFiles.kind? [] = some .directory := rfl
  have hmade :
      (makeOutputDirectories workingFiles (scatteredPlan.experiments.map Experiment.output)).1 = .ok () := by
    decide +kernel
  obtain ⟨-, hagain, -⟩ := prepares_parents workingFiles scatteredPlan
  obtain ⟨hparents, -, hnothing⟩ := hagain hroot hmade
  exact ⟨hroot, hmade, by decide +kernel, hparents, hnothing⟩

/-! ## Launching

  Making directories asks whether a parent exists and not what it is.  So a file at the end of the way
  passes, and only a file on the way itself is refused. -/

/-- If nothing is refused, the directory of an output is one exactly if no file was in its place. -/
theorem hasParentDirectory_prepared_iff {files : Files} (hgrounded : files.Grounded) {plan : Plan}
    (hmade : (makeOutputDirectories files (plan.experiments.map Experiment.output)).1 = .ok ())
    {e : Experiment} (he : e ∈ plan.experiments) :
    (prepared files plan).HasParentDirectory e.output ↔ ¬ files.HasParentFile e.output := by
  have hgrows := grows_prepared files plan
  have hthere : (prepared files plan).HasParent e.output :=
    hasParent_prepared (Files.kind?_root hgrounded) hmade he
  exact (hthere.hasParentDirectory_iff (hgrows.grounded hgrounded)).trans (not_congr hgrows.hasParentFile_iff)

/-- A file where the directory of an output leads through is refused. -/
theorem refused_of_hasFileAt {files : Files} (hgrounded : files.Grounded) {plan : Plan} {e : Experiment}
    (he : e ∈ plan.experiments) {parent : Path} (hparent : e.output.parent? = some parent) {place : Location}
    (hplace : parent.PassesThrough files.workingDirectory place) (hfile : files.HasFileAt place) :
    ∃ p fault, (makeOutputDirectories files (plan.experiments.map Experiment.output)).1 = .error (p, fault) := by
  cases hmade : (makeOutputDirectories files (plan.experiments.map Experiment.output)).1 with
  | error fault => exact ⟨fault.1, fault.2, rfl⟩
  | ok _ =>
    -- the path of the directory exists then, and all that it leads through are directories
    exfalso
    have hgrows := grows_prepared files plan
    have hthere : (prepared files plan).HasParent e.output :=
      hasParent_prepared (Files.kind?_root hgrounded) hmade he
    rcases hthere parent hparent with hempty | hexists
    · obtain ⟨front, hfront, hwhole, -⟩ := hplace
      rw [Path.components_of_isEmpty hempty] at hfront hwhole
      exact hwhole (List.prefix_nil.1 hfront)
    · rw [← hgrows.workingDirectory] at hplace
      have hdirectory := Files.kind?_of_passesThrough (hgrows.grounded hgrounded) hexists hplace
      exact (hgrows.hasFileAt_iff.2 hfile).ne_directory hdirectory

/-- **What the directories of the outputs are when a plan is launched.**  If no directory of a valid plan is
    refused, its requests are launched, and then the directory of an output is one exactly if no file was in its
    place.  If one is refused, nothing is launched.  One is, if a file stands where its path leads through.  A
    file where the path ends is not noticed, and as long as it stands there nothing can be written to the
    output. -/
theorem launches_with_parents {σ ε : Type} (harness : Harness σ ε) {plan : Plan} (h : plan.validate = .ok ())
    (world : World σ) (hgrounded : world.files.Grounded) :
    ((makeOutputDirectories world.files (plan.experiments.map Experiment.output)).1 = .ok () →
      run harness true plan world =
        launchPlan harness plan plan.rounds { world with files := prepared world.files plan } ∧
      ∀ e ∈ plan.experiments,
        (prepared world.files plan).HasParentDirectory e.output ↔ ¬ world.files.HasParentFile e.output) ∧
    (∀ p fault,
      (makeOutputDirectories world.files (plan.experiments.map Experiment.output)).1 = .error (p, fault) →
      run harness true plan world =
        ⟨.error (.directory p fault), { world with files := prepared world.files plan }, []⟩) ∧
    (∀ e ∈ plan.experiments, ∀ parent, e.output.parent? = some parent →
      ∀ place, parent.PassesThrough world.files.workingDirectory place → world.files.HasFileAt place →
        ∃ p fault,
          (makeOutputDirectories world.files (plan.experiments.map Experiment.output)).1 = .error (p, fault)) ∧
    ∀ e ∈ plan.experiments, ∀ files : Files, files.HasParentFile e.output →
      ∀ change files', files.write e.output change ≠ .ok files' := by
  have hvalid : plan.Valid := (Plan.validate_eq_ok_iff plan).1 h
  refine ⟨fun hmade => ⟨run_of_made harness hvalid hmade, fun e he => ?_⟩, fun p fault hmade => ?_, ?_, ?_⟩
  · exact hasParentDirectory_prepared_iff hgrounded hmade he
  · exact run_of_refused harness hvalid hmade
  · intro e he parent hparent place hplace hfile
    exact refused_of_hasFileAt hgrounded he hparent hplace hfile
  · rintro e - files ⟨parent, hparent, hfile⟩ change files' hwrite
    exact hfile.ne_directory (Files.directory_of_write hparent hwrite)

/-- A plan for one output, in two repetitions. -/
def repeatedPlan (output : String) : Plan :=
  { name := "p", repetitions := 2, subjects := ⟨["NIL"]⟩, axes := .ofList [("g", ⟨[1]⟩)]
    experiments := [{ name := "a", family := "g", selector := 1, mode := 2, output := .ofString output }] }

/-- A tree in which `data` is a file. -/
def dataWorld : World Unit :=
  { files := ⟨.directory [((Path.ofString "data").bytes, .file (Path.ofString "x").bytes false)], []⟩
    clock := default, state := () }

/-- An output in a directory that is missing: nothing is refused, and at the launch it is a directory. -/
theorem launches_with_parents_rows :
    (repeatedPlan "rows/a.csv").validate = .ok () ∧ dataWorld.files.Grounded ∧
      (makeOutputDirectories dataWorld.files [.ofString "rows/a.csv"]).1 = .ok () ∧
      (prepared dataWorld.files (repeatedPlan "rows/a.csv")).HasParentDirectory (.ofString "rows/a.csv") := by
  have hvalid : (repeatedPlan "rows/a.csv").validate = .ok () := by decide +kernel
  have hgrounded : dataWorld.files.Grounded := rfl
  have hmade : (makeOutputDirectories dataWorld.files [.ofString "rows/a.csv"]).1 = .ok () := by decide +kernel
  refine ⟨hvalid, hgrounded, hmade, ?_⟩
  obtain ⟨-, hparents⟩ := (launches_with_parents appending hvalid dataWorld hgrounded).1 hmade
  refine (hparents _ (List.mem_singleton_self _)).2 ?_
  rintro ⟨parent, hparent, content, executable, hfile⟩
  obtain rfl : Path.ofString "rows" = parent := by
    have hrows : (Path.ofString "rows/a.csv").parent? = some (.ofString "rows") := by decide +kernel
    exact Option.some.inj (hrows.symm.trans hparent)
  have hmissing : dataWorld.files.kind? (Path.resolve [] (.ofString "rows")) = none := by decide +kernel
  exact Option.some_ne_none _ (hfile.symm.trans hmissing)

/-- An output in a directory that is a file: making directories refuses nothing, and the sweep launches its two
    requests, which both fail. -/
theorem launches_under_file :
    (repeatedPlan "data/a.csv").validate = .ok () ∧ dataWorld.files.Grounded ∧
      (makeOutputDirectories dataWorld.files [.ofString "data/a.csv"]).1 = .ok () ∧
      ¬ (prepared dataWorld.files (repeatedPlan "data/a.csv")).HasParentDirectory (.ofString "data/a.csv") ∧
      ((run appending true (repeatedPlan "data/a.csv") dataWorld).result.toOption.map Report.failureCount) =
        some 2 := by
  refine ⟨by decide +kernel, rfl, by decide +kernel, fun hdirectory => ?_, by decide +kernel⟩
  have hdata : (Path.ofString "data/a.csv").parent? = some (.ofString "data") := by decide +kernel
  rcases hdirectory _ hdata with hempty | hdirectory
  · exact absurd hempty (by decide +kernel)
  · exact absurd hdirectory (by decide +kernel)

end Sweep
end BenchSweep
