/-
  What making the directories of the outputs does to the outputs.

  Before anything is launched, every directory that an output needs is made.  That an output is a file is the
  business of its experiment, and nothing asks whether another output needs a directory in the same place.
  If one does, the experiment cannot append anything, in no repetition.

  1. **One output** (`grows_makeOutputDirectory`, `hasParent_of_makeOutputDirectory`).  Only leading parts of
     its directory are added, and if nothing is refused, the directory is there.  So something is at every
     place on the way of the output (`kind?_of_hasParent`).

  2. **All outputs** (`grows_makeOutputDirectories`, `hasParent_of_makeOutputDirectories`), by induction on
     their list: trees grow, so what was there for one output is still there after the others.

  3. **Plans** (`launches_with_directories`).  An output that was missing is a directory afterwards exactly
     if the way of some output leads through its place.  So it is whenever one output is above another, which
     the validation does not refuse (`rows_of_nestedPlan`); and without `..`, among outputs that start alike,
     only then.
-/
import BenchSweep.Proofs.Files.Walk
import BenchSweep.Proofs.Path.Nesting
import BenchSweep.Proofs.Requests
import BenchSweep.Sweep.Basic

namespace BenchSweep

namespace Files

/-- A directory stands where a path leads. -/
def HasDirectoryAt (files : Files) (p : Path) : Prop :=
  files.kind? (Path.resolve files.workingDirectory p) = some .directory

/-- The directory of an output is there, if it is not the working directory. -/
def HasParent (files : Files) (output : Path) : Prop :=
  ∀ parent, output.parent? = some parent → parent.isEmpty = true ∨ files.pathExists parent = true

/-- The root is where its own path leads. -/
theorem isDirectory_slash {files : Files} (hroot : files.kind? [] = some .directory) :
    files.isDirectory ⟨[Path.slash]⟩ = true := by
  have hpassable : files.Passable [] [[], []] := by
    refine passable_cons_iff.2 ⟨Nat.zero_le _, hroot, ?_⟩
    exact passable_cons_iff.2 ⟨Nat.zero_le _, hroot, passable_nil files _⟩
  exact isDirectory_iff.2 ⟨⟨rfl, hpassable⟩, hroot⟩

end Files

namespace Path

/-- A leading part of the directory of an output leads to a place, and is a directory there. -/
def NeedsDirectory (output : Path) (files : Files) (place : Location) : Prop :=
  ∃ parent, output.parent? = some parent ∧ ∃ part : Path, part.components <+: parent.components ∧
    files.isDirectory part = true ∧ place = resolve files.workingDirectory part

/-- A leading part of the directory of an output is on the way of the output, and short of its end. -/
theorem NeedsDirectory.passesThrough {output : Path} {files : Files} {place : Location}
    (h : output.NeedsDirectory files place) : output.PassesThrough files.workingDirectory place := by
  obtain ⟨parent, hparent, part, hpart, -, rfl⟩ := h
  obtain ⟨c, hc⟩ := components_of_parent? hparent
  refine ⟨part.components, ?_, fun hwhole => ?_, rfl⟩
  · rw [hc]
    exact hpart.trans (List.prefix_append _ _)
  · have hlength := hpart.length_le
    rw [hwhole, hc, List.length_append] at hlength
    exact absurd hlength (by simp)

/-- A path without bytes names nothing. -/
theorem components_of_isEmpty {p : Path} (h : p.isEmpty = true) : p.components = [] := by
  have hbytes : p.bytes = [] := List.isEmpty_iff.1 h
  rw [show p = ⟨[]⟩ from congrArg Path.mk hbytes]
  rfl

end Path

namespace Files.Grows

variable {places : Location → Prop} {before after : Files}

/-- What was there for an output is there in a tree that has grown. -/
theorem hasParent (h : Grows places before after) {output : Path} (hparent : before.HasParent output) :
    after.HasParent output :=
  fun parent heq => (hparent parent heq).imp id h.pathExists

/-- What was a directory for an output is one in a tree that has grown. -/
theorem needsDirectory (h : Grows places before after) {output : Path} {place : Location}
    (hplace : output.NeedsDirectory before place) : output.NeedsDirectory after place := by
  obtain ⟨parent, hparent, part, hpart, hdirectory, rfl⟩ := hplace
  refine ⟨parent, hparent, part, hpart, h.isDirectory hdirectory, ?_⟩
  rw [h.workingDirectory]

end Files.Grows

namespace Plan

/-- The way of some output leads through a place when `dir` is the working directory. -/
def LeadsThrough (plan : Plan) (dir place : Location) : Prop :=
  ∃ e ∈ plan.experiments, e.output.PassesThrough dir place

/-- A leading part of the directory of some output leads to a place, and is a directory there. -/
def NeedsDirectory (plan : Plan) (files : Files) (place : Location) : Prop :=
  ∃ e ∈ plan.experiments, e.output.NeedsDirectory files place

/-- The directories that the outputs need are on their ways. -/
theorem NeedsDirectory.leadsThrough {plan : Plan} {files : Files} {place : Location}
    (h : plan.NeedsDirectory files place) : plan.LeadsThrough files.workingDirectory place := by
  obtain ⟨e, he, hplace⟩ := h
  exact ⟨e, he, hplace.passesThrough⟩

/-- Ways lead through the outputs that are above another one. -/
theorem leadsThrough_of_isAbove {plan : Plan} {output : Path} (dir : Location)
    (h : ∃ d ∈ plan.experiments, output.IsAbove d.output) :
    plan.LeadsThrough dir (Path.resolve dir output) := by
  obtain ⟨d, hd, habove⟩ := h
  exact ⟨d, hd, habove.passesThrough dir⟩

/-- Without `..`, and among outputs that start alike, they lead through no other. -/
theorem exists_isAbove_of_leadsThrough {plan : Plan} (halike : plan.StartsAlike)
    (hstraight : ∀ e ∈ plan.experiments, e.output.IsStraight) {e : Experiment} (he : e ∈ plan.experiments)
    {dir : Location} (hne : Path.resolve dir e.output ≠ dir)
    (h : plan.LeadsThrough dir (Path.resolve dir e.output)) :
    ∃ d ∈ plan.experiments, e.output.IsAbove d.output := by
  obtain ⟨d, hd, hpasses⟩ := h
  have habsolute := (halike e he d hd).1
  exact ⟨d, hd, Path.isAbove_of_passesThrough (hstraight e he) (hstraight d hd) habsolute hpasses hne⟩

end Plan

namespace Sweep

open Files (Grows)

/-! ## One output

  Either the parent of the output is there already, or it is made together with every directory above it
  that is missing.  The line of directories is known from `Files/Walk`; here it is tied to the output. -/

/-- Whatever comes of it, the tree gains nothing but leading parts of the directory of the output. -/
theorem grows_makeOutputDirectory (files : Files) (output : Path) :
    Grows (output.NeedsDirectory (makeOutputDirectory files output).2) files
      (makeOutputDirectory files output).2 := by
  unfold makeOutputDirectory
  split
  · exact .refl files
  · next parent hparent =>
    split
    · exact .refl files
    · have hgrows := Files.grows_makeLine files (Files.lineage (parent.bytes.length + 1) parent)
      refine hgrows.imp ?_
      -- only the line of its parents is made, and those are leading parts of it
      rintro location ⟨p, hp, hdirectory, rfl⟩
      rw [← hgrows.workingDirectory]
      exact ⟨parent, hparent, p, Path.prefix_of_mem_lineage hp, hdirectory, rfl⟩

/-- A directory that is made, with those above it, is one. -/
theorem isDirectory_of_makeDirectories {files files' : Files} {p parent : Path}
    (hparent : p.parent? = some parent) (hempty : p.isEmpty = false)
    (h : files.makeDirectories p = (.ok (), files')) : files'.isDirectory p = true := by
  have hline : Files.lineage (p.bytes.length + 1) p = p :: Files.lineage p.bytes.length parent := by
    rw [Files.lineage, hparent]
    exact if_neg (Bool.eq_false_iff.1 hempty)
  unfold Files.makeDirectories at h
  rw [hline] at h
  exact Files.isDirectory_makeLine h

/-- If nothing is refused, the directory of the output is there. -/
theorem hasParent_of_makeOutputDirectory {files files' : Files} (hroot : files.kind? [] = some .directory)
    {output : Path} (h : makeOutputDirectory files output = (.ok (), files')) : files'.HasParent output := by
  intro parent hparent
  rw [makeOutputDirectory, hparent] at h
  dsimp only at h
  split at h
  · next hthere =>
    obtain ⟨-, rfl⟩ := Prod.mk.inj h
    exact Bool.or_eq_true_iff.1 hthere
  · next hmissing =>
    rw [Bool.or_eq_true, not_or] at hmissing
    cases hmade : files.makeDirectories parent with
    | mk made between =>
      rw [hmade] at h
      obtain ⟨hresult, rfl⟩ := Prod.mk.inj h
      cases made with
      | error fault => cases hresult
      | ok _ =>
        cases habove : parent.parent? with
        | none =>
          -- the working directory and the root need not be made
          rcases Path.eq_of_parent?_of_parent?_none hparent habove with rfl | rfl
          · exact absurd rfl hmissing.1
          · exact absurd (Files.pathExists_of_isDirectory (Files.isDirectory_slash hroot)) hmissing.2
        | some above =>
          have hdirectory := isDirectory_of_makeDirectories habove (Bool.eq_false_iff.2 hmissing.1) hmade
          exact .inr (Files.pathExists_of_isDirectory hdirectory)

/-- If the directory of the output is there, nothing is made. -/
theorem makeOutputDirectory_of_hasParent {files : Files} {output : Path} (h : files.HasParent output) :
    makeOutputDirectory files output = (.ok (), files) := by
  unfold makeOutputDirectory
  split
  · rfl
  · next parent hparent => exact if_pos (Bool.or_eq_true_iff.2 (h parent hparent))

/-- Where a path has no directory, its way leads through nothing but its start. -/
theorem kind?_of_parent?_none {files : Files} (hgrounded : files.Grounded) {p : Path} (hparent : p.parent? = none)
    {front : List Path.Component} (hfront : front <+: p.components) :
    files.kind? (front.foldl Path.descend files.workingDirectory) ≠ none := by
  -- a path without a parent is empty or the root, so little can be in front
  have hsmall : front = [] ∨ front = [.root] := by
    rcases Path.components_of_parent?_none hparent with hnone | hroot
    · exact .inl (List.prefix_nil.1 (hnone ▸ hfront))
    · rw [hroot, ← List.nil_append [Path.Component.root], List.prefix_concat_iff] at hfront
      exact hfront.symm.imp List.prefix_nil.1 id
  rcases hsmall with rfl | rfl
  · exact hgrounded.kind?_ne_none
  · exact ne_of_eq_of_ne (Files.kind?_root hgrounded) (Option.some_ne_none _)

/-- If the directory of the output is there, something is at every place on the way of the output. -/
theorem kind?_of_hasParent {files : Files} (hgrounded : files.Grounded) {output : Path}
    (h : files.HasParent output) {place : Location} (hplace : output.PassesThrough files.workingDirectory place) :
    files.kind? place ≠ none := by
  obtain ⟨front, hfront, hwhole, rfl⟩ := hplace
  cases hparent : output.parent? with
  | none => exact kind?_of_parent?_none hgrounded hparent hfront
  | some parent =>
    -- the way is that of the parent and one name more, and the part is not the whole way
    obtain ⟨c, hc⟩ := Path.components_of_parent? hparent
    rw [hc] at hfront hwhole
    have hfront : front <+: parent.components := (List.prefix_concat_iff.1 hfront).resolve_left hwhole
    rcases h parent hparent with hempty | hexists
    · -- the working directory itself
      rw [Path.components_of_isEmpty hempty] at hfront
      rw [List.prefix_nil.1 hfront]
      exact hgrounded.kind?_ne_none
    · exact (Files.hasWay_of_pathExists hexists).kind?_ne_none hgrounded hfront

/-! ## All outputs

  The outputs are taken in the order of the experiments, and the first fault stops them.  Both statements go
  by induction on the outputs, over all trees, since the tree changes from one output to the next. -/

/-- Whatever comes of it, the tree gains nothing but leading parts of the directories of the outputs. -/
theorem grows_makeOutputDirectories (files : Files) (outputs : List Path) :
    Grows (fun place => ∃ output ∈ outputs, output.NeedsDirectory (makeOutputDirectories files outputs).2 place)
      files (makeOutputDirectories files outputs).2 := by
  induction outputs generalizing files with
  | nil => exact .refl files
  | cons output rest ih =>
    have hone := grows_makeOutputDirectory files output
    unfold makeOutputDirectories
    split
    · next heq =>
      -- a fault stops the outputs, with what was made until then
      rw [heq] at hone
      exact hone.imp fun place hplace => ⟨output, List.mem_cons_self, hplace⟩
    · next between heq =>
      -- what the first output needed is needed in the later tree as well
      rw [heq] at hone
      have hrest := ih between
      have hfirst : Grows (fun place => ∃ o ∈ output :: rest,
          o.NeedsDirectory (makeOutputDirectories between rest).2 place) files between :=
        hone.imp fun place hplace => ⟨output, List.mem_cons_self, hrest.needsDirectory hplace⟩
      refine hfirst.trans (hrest.imp ?_)
      rintro place ⟨o, ho, hplace⟩
      exact ⟨o, List.mem_cons_of_mem _ ho, hplace⟩

/-- If nothing is refused, the directories of all outputs are there. -/
theorem hasParent_of_makeOutputDirectories {files files' : Files} (hroot : files.kind? [] = some .directory)
    {outputs : List Path} (h : makeOutputDirectories files outputs = (.ok (), files')) {output : Path}
    (houtput : output ∈ outputs) : files'.HasParent output := by
  induction outputs generalizing files with
  | nil => cases houtput
  | cons first rest ih =>
    unfold makeOutputDirectories at h
    split at h
    · cases h
    · next between heq =>
      have hgrows := grows_makeOutputDirectory files first
      rw [heq] at hgrows
      rcases List.mem_cons.1 houtput with rfl | houtput
      · -- what is there for this output is still there after the others
        have hrest := grows_makeOutputDirectories between rest
        rw [h] at hrest
        exact hrest.hasParent (hasParent_of_makeOutputDirectory hroot heq)
      · exact ih (hgrows.kind?_of_some hroot) h houtput

/-- If the directories of all outputs are there, none is made and the tree stays as it is. -/
theorem makeOutputDirectories_of_hasParent {files : Files} {outputs : List Path}
    (h : ∀ output ∈ outputs, files.HasParent output) : makeOutputDirectories files outputs = (.ok (), files) := by
  induction outputs with
  | nil => rfl
  | cons output rest ih =>
    obtain ⟨hfirst, hrest⟩ := List.forall_mem_cons.1 h
    rw [makeOutputDirectories, makeOutputDirectory_of_hasParent hfirst]
    exact ih hrest

/-- If nothing is refused, something is at every place on the way of an output. -/
theorem kind?_of_makeOutputDirectories {files files' : Files} (hgrounded : files.Grounded) {outputs : List Path}
    (h : makeOutputDirectories files outputs = (.ok (), files')) {output : Path} (houtput : output ∈ outputs)
    {place : Location} (hplace : output.PassesThrough files.workingDirectory place) :
    files'.kind? place ≠ none := by
  have hgrows := grows_makeOutputDirectories files outputs
  rw [h] at hgrows
  have hparent := hasParent_of_makeOutputDirectories (Files.kind?_root hgrounded) h houtput
  rw [← hgrows.workingDirectory] at hplace
  exact kind?_of_hasParent (hgrows.grounded hgrounded) hparent hplace

/-! ## The outputs of a plan

  What was said of a list of outputs is now said of the experiments of a plan, and the launches are put
  behind it. -/

/-- The tree after the directories of a plan's outputs were made in it, as far as that went. -/
def prepared (files : Files) (plan : Plan) : Files :=
  (makeOutputDirectories files (plan.experiments.map Experiment.output)).2

/-- The tree gains only directories that the outputs of the plan need. -/
theorem grows_prepared (files : Files) (plan : Plan) :
    Grows (plan.NeedsDirectory (prepared files plan)) files (prepared files plan) := by
  refine (grows_makeOutputDirectories files (plan.experiments.map Experiment.output)).imp ?_
  rintro place ⟨output, houtput, hplace⟩
  obtain ⟨e, he, rfl⟩ := List.mem_map.1 houtput
  exact ⟨e, he, hplace⟩

/-- So it gains directories only on the ways of the outputs. -/
theorem grows_leadsThrough (files : Files) (plan : Plan) :
    Grows (plan.LeadsThrough files.workingDirectory) files (prepared files plan) := by
  have hgrows := grows_prepared files plan
  refine hgrows.imp fun place hplace => ?_
  rw [← hgrows.workingDirectory]
  exact hplace.leadsThrough

/-- If nothing was refused, the directories of all outputs of the plan are there. -/
theorem hasParent_prepared {files : Files} (hroot : files.kind? [] = some .directory) {plan : Plan}
    (hmade : (makeOutputDirectories files (plan.experiments.map Experiment.output)).1 = .ok ()) {e : Experiment}
    (he : e ∈ plan.experiments) : (prepared files plan).HasParent e.output :=
  hasParent_of_makeOutputDirectories hroot (Prod.ext hmade rfl) (List.mem_map_of_mem he)

/-- If the directories of a plan's outputs are there, none is made for it. -/
theorem makeOutputDirectories_of_experiments {files : Files} {plan : Plan}
    (h : ∀ e ∈ plan.experiments, files.HasParent e.output) :
    makeOutputDirectories files (plan.experiments.map Experiment.output) = (.ok (), files) := by
  refine makeOutputDirectories_of_hasParent fun output houtput => ?_
  obtain ⟨e, he, rfl⟩ := List.mem_map.1 houtput
  exact h e he

/-- An output that was missing is a directory only if the way of some output leads through its place. -/
theorem leadsThrough_of_hasDirectoryAt {files : Files} {plan : Plan} {output : Path}
    (hmissing : files.kind? (Path.resolve files.workingDirectory output) = none)
    (h : (prepared files plan).HasDirectoryAt output) :
    plan.LeadsThrough files.workingDirectory (Path.resolve files.workingDirectory output) := by
  have hgrows := grows_leadsThrough files plan
  rw [Files.HasDirectoryAt, hgrows.workingDirectory] at h
  exact (hgrows.new hmissing (ne_of_eq_of_ne h (Option.some_ne_none _))).2

/-- If nothing was refused, it is one. -/
theorem hasDirectoryAt_of_leadsThrough {files : Files} (hgrounded : files.Grounded) {plan : Plan}
    (hmade : (makeOutputDirectories files (plan.experiments.map Experiment.output)).1 = .ok ()) {output : Path}
    (hmissing : files.kind? (Path.resolve files.workingDirectory output) = none)
    (h : plan.LeadsThrough files.workingDirectory (Path.resolve files.workingDirectory output)) :
    (prepared files plan).HasDirectoryAt output := by
  obtain ⟨e, he, hpasses⟩ := h
  have hgrows := grows_prepared files plan
  -- something is there by now, and all that is new is a directory
  have hthere : (prepared files plan).kind? (Path.resolve files.workingDirectory output) ≠ none :=
    kind?_of_makeOutputDirectories hgrounded (Prod.ext hmade rfl) (List.mem_map.2 ⟨e, he, rfl⟩) hpasses
  rw [Files.HasDirectoryAt, hgrows.workingDirectory]
  exact (hgrows.new hmissing hthere).1

/-- With the directories that a plan needs its requests are launched. -/
theorem run_of_made {σ ε : Type} (harness : Harness σ ε) {plan : Plan} (h : plan.Valid) {world : World σ}
    (hmade : (makeOutputDirectories world.files (plan.experiments.map Experiment.output)).1 = .ok ()) :
    run harness true plan world =
      launchPlan harness plan plan.rounds { world with files := prepared world.files plan } := by
  rw [run, Plan.requests_of_valid h]
  simp only [if_true]
  split
  · next heq =>
    rw [heq] at hmade
    cases hmade
  · next heq => rw [prepared, heq]

/-- Without them none is. -/
theorem run_of_refused {σ ε : Type} (harness : Harness σ ε) {plan : Plan} (h : plan.Valid) {world : World σ}
    {p : Path} {fault : Files.Fault}
    (hmade : (makeOutputDirectories world.files (plan.experiments.map Experiment.output)).1 = .error (p, fault)) :
    run harness true plan world =
      ⟨.error (.directory p fault), { world with files := prepared world.files plan }, []⟩ := by
  rw [run, Plan.requests_of_valid h]
  simp only [if_true]
  split
  · next heq =>
    rw [heq] at hmade
    cases hmade
    rw [prepared, heq]
  · next heq =>
    rw [heq] at hmade
    cases hmade

/-- A valid plan is either launched in its prepared tree or not launched at all. -/
theorem run_eq_of_valid {σ ε : Type} (harness : Harness σ ε) {plan : Plan} (h : plan.Valid) (world : World σ) :
    ((makeOutputDirectories world.files (plan.experiments.map Experiment.output)).1 = .ok () ∧
      run harness true plan world =
        launchPlan harness plan plan.rounds { world with files := prepared world.files plan }) ∨
    ∃ p fault, run harness true plan world =
      ⟨.error (.directory p fault), { world with files := prepared world.files plan }, []⟩ := by
  cases hmade : (makeOutputDirectories world.files (plan.experiments.map Experiment.output)).1 with
  | error fault => exact .inr ⟨fault.1, fault.2, run_of_refused harness h hmade⟩
  | ok _ => exact .inl ⟨rfl, run_of_made harness h hmade⟩

/-- **The tree in which a plan is launched.**  The requests of a valid plan are launched in the tree that has
    the directories of its outputs, or none is if a directory is refused.  The tree has gained directories
    only, on the ways of outputs.  An output that was missing is one of them exactly if the way of some output
    leads through its place, and then nothing can be written to it.  From everywhere, ways lead through the
    outputs that are above another one, and without `..`, among outputs that start alike, through no other. -/
theorem launches_with_directories {σ ε : Type} (harness : Harness σ ε) {plan : Plan}
    (h : plan.validate = .ok ()) (world : World σ) (hgrounded : world.files.Grounded) :
    Grows (plan.LeadsThrough world.files.workingDirectory) world.files (prepared world.files plan) ∧
    ((run harness true plan world =
        launchPlan harness plan plan.rounds { world with files := prepared world.files plan } ∧
        ∀ e ∈ plan.experiments,
          world.files.kind? (Path.resolve world.files.workingDirectory e.output) = none →
          ((prepared world.files plan).HasDirectoryAt e.output ↔
            plan.LeadsThrough world.files.workingDirectory
              (Path.resolve world.files.workingDirectory e.output))) ∨
      ∃ p fault, run harness true plan world =
        ⟨.error (.directory p fault), { world with files := prepared world.files plan }, []⟩) ∧
    (∀ e ∈ plan.experiments, (prepared world.files plan).HasDirectoryAt e.output →
      ∀ change files', (prepared world.files plan).write e.output change ≠ .ok files') ∧
    ∀ e ∈ plan.experiments, ∀ dir : Location,
      ((∃ d ∈ plan.experiments, e.output.IsAbove d.output) →
        plan.LeadsThrough dir (Path.resolve dir e.output)) ∧
      (plan.StartsAlike → (∀ d ∈ plan.experiments, d.output.IsStraight) → Path.resolve dir e.output ≠ dir →
        plan.LeadsThrough dir (Path.resolve dir e.output) →
          ∃ d ∈ plan.experiments, e.output.IsAbove d.output) := by
  have hvalid : plan.Valid := (Plan.validate_eq_ok_iff plan).1 h
  refine ⟨grows_leadsThrough world.files plan, ?_, ?_, fun e he dir => ⟨?_, ?_⟩⟩
  · -- either everything was made, and the ways decide, or something was refused
    refine (run_eq_of_valid harness hvalid world).imp ?_ id
    rintro ⟨hmade, hrun⟩
    refine ⟨hrun, fun e _ hmissing => ⟨leadsThrough_of_hasDirectoryAt hmissing, ?_⟩⟩
    exact hasDirectoryAt_of_leadsThrough hgrounded hmade hmissing
  · intro e _ hdirectory change files'
    exact Files.write_ne_ok_of_directory hdirectory change files'
  · exact Plan.leadsThrough_of_isAbove dir
  · intro halike hstraight hne hleads
    exact Plan.exists_isAbove_of_leadsThrough halike hstraight he hne hleads

/-- An empty tree. -/
def blankFiles : Files := ⟨.directory [], []⟩

/-- The built-in plan for the queue, in an empty tree: none of its outputs is above another one, so none is a
    directory when its requests are launched. -/
theorem launches_with_directories_crturn :
    (Matrix.plan .crturn).validate = .ok () ∧ blankFiles.Grounded ∧
      (∀ e ∈ (Matrix.plan .crturn).experiments, blankFiles.kind? (Path.resolve [] e.output) = none) ∧
      ∀ e ∈ (Matrix.plan .crturn).experiments,
        ¬ (prepared blankFiles (Matrix.plan .crturn)).HasDirectoryAt e.output := by
  have hvalid : (Matrix.plan .crturn).validate = .ok () := by decide +kernel
  have hgrounded : blankFiles.Grounded := rfl
  have halike : (Matrix.plan .crturn).StartsAlike := by decide +kernel
  have hstraight : ∀ e ∈ (Matrix.plan .crturn).experiments, e.output.IsStraight := by decide +kernel
  have hmissing : ∀ e ∈ (Matrix.plan .crturn).experiments,
      blankFiles.kind? (Path.resolve [] e.output) = none := by decide +kernel
  have hnone : ∀ e ∈ (Matrix.plan .crturn).experiments, ∀ d ∈ (Matrix.plan .crturn).experiments,
      ¬ e.output.IsAbove d.output := by decide +kernel
  have hplace : ∀ e ∈ (Matrix.plan .crturn).experiments, Path.resolve [] e.output ≠ [] := by decide +kernel
  refine ⟨hvalid, hgrounded, hmissing, fun e he hdirectory => ?_⟩
  obtain ⟨hgrows, -, -, houtputs⟩ :=
    launches_with_directories Harness.scripted hvalid ⟨blankFiles, default, []⟩ hgrounded
  rw [Files.HasDirectoryAt, hgrows.workingDirectory] at hdirectory
  obtain ⟨-, hleads⟩ := hgrows.new (hmissing e he) fun hnone => Option.some_ne_none _ (hdirectory.symm.trans hnone)
  obtain ⟨d, hd, habove⟩ := (houtputs e he []).2 halike hstraight (hplace e he) hleads
  exact hnone e he d hd habove

/-- Two experiments, of which one appends to `rows` and the other to a file in a directory `rows`. -/
def nestedPlan : Plan :=
  { name := "p", repetitions := 1, subjects := ⟨["NIL"]⟩, axes := .ofList [("g", ⟨[1]⟩)]
    experiments :=
      [{ name := "a", family := "g", selector := 1, mode := 2, output := .ofString "rows" },
        { name := "b", family := "g", selector := 1, mode := 2, output := .ofString "rows/part.csv" }] }

/-- The plan is valid, although one output is above the other.  In an empty tree its directories are made
    without any fault, and then the first experiment can write nothing. -/
theorem rows_of_nestedPlan :
    nestedPlan.validate = .ok () ∧ (Path.ofString "rows").IsAbove (Path.ofString "rows/part.csv") ∧
      (makeOutputDirectories blankFiles (nestedPlan.experiments.map Experiment.output)).1 = .ok () ∧
      blankFiles.kind? (Path.resolve [] (Path.ofString "rows")) = none ∧
      (prepared blankFiles nestedPlan).HasDirectoryAt (Path.ofString "rows") ∧
      ∀ change files', (prepared blankFiles nestedPlan).write (Path.ofString "rows") change ≠ .ok files' := by
  have hdirectory : (prepared blankFiles nestedPlan).HasDirectoryAt (Path.ofString "rows") := by
    unfold Files.HasDirectoryAt
    decide +kernel
  refine ⟨by decide +kernel, by decide +kernel, by decide +kernel, by decide +kernel, hdirectory, ?_⟩
  exact Files.write_ne_ok_of_directory hdirectory

end Sweep
end BenchSweep
