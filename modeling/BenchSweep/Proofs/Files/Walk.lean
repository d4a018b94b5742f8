/-
  Where paths lead in a tree.

  A path is followed piece by piece, and every piece must find a directory.  Its text alone says where that
  can lead (`Path.leadsTo`); what the tree adds is whether there is a way at all.

  1. **Following** (`Files.follow_eq_ok`, `Files.exists_follow_iff`).  Whoever comes through is at the place
     of the text; and one comes through exactly if there are directories up to the last piece and something
     at the end.

  2. **Paths** (`Files.pathExists_iff`, `Files.isDirectory_iff`).  So what a path names is what stands at its
     place, if the path reaches it (`Files.Reaches`), and growth takes nothing of that away.

  3. **Making one directory** (`Files.makeDirectory_eq_ok`).  It comes to stand at the place of the path, and
     nothing else changes.

  4. **Making a line of them** (`Files.grows_makeLine`, `Files.isDirectory_makeLine`).  Whatever comes of it,
     only places of the line are added, and if it succeeds, then the end of the line is a directory.

  5. **Writing** (`Files.write_ne_ok_of_directory`).  Nothing is written where a directory stands.
-/
import BenchSweep.Files.Operations
import BenchSweep.Proofs.Files.Tree
import BenchSweep.Proofs.Walks
import Mathlib.Data.List.TakeWhile

namespace BenchSweep
namespace Path

/-! ## The text of a way

  Where pieces lead is told by their text alone, and pieces that add nothing may stand anywhere.  A front of
  the components is reached by a front of the pieces, and that is how what is said of components carries
  over to the walk. -/

/-- Where pieces lead from a location, by their text. -/
def leadsTo (start : Location) (pieces : List Name) : Location :=
  (pieces.filterMap Component.ofPiece?).foldl descend start

/-- Where a path starts when `dir` is the working directory. -/
def startFrom (dir : Location) (p : Path) : Location := if p.isAbsolute then [] else dir

/-- Pieces lead on from where those in front of them lead. -/
theorem leadsTo_append (start : Location) (pieces more : List Name) :
    leadsTo start (pieces ++ more) = leadsTo (leadsTo start pieces) more := by
  rw [leadsTo, List.filterMap_append, List.foldl_append, ← leadsTo, ← leadsTo]

/-- The first piece makes the start for the others. -/
theorem leadsTo_cons (start : Location) (piece : Name) (more : List Name) :
    leadsTo start (piece :: more) = leadsTo (leadsTo start [piece]) more :=
  leadsTo_append start [piece] more

/-- A piece that is no component leads nowhere else. -/
theorem leadsTo_of_none {piece : Name} (h : Component.ofPiece? piece = none) (start : Location) :
    leadsTo start [piece] = start := by
  rw [leadsTo, List.filterMap_cons_none h]
  rfl

/-- A piece leads where its component does. -/
theorem leadsTo_of_some {piece : Name} {c : Component} (h : Component.ofPiece? piece = some c)
    (start : Location) : leadsTo start [piece] = descend start c := by
  rw [leadsTo, List.filterMap_cons_some h]
  rfl

/-- The front of a path, be it the root, a `.` or nothing, leads to the start. -/
theorem resolve_eq_leadsTo (dir : Location) (p : Path) :
    resolve dir p = leadsTo (p.startFrom dir) p.pieces := by
  rw [resolve, components, startFrom]
  split
  · rfl
  · split <;> rfl

/-- The first components of a path lead where its first pieces do, unless they are none; if they are not all
    of the components, these are not all of the pieces. -/
theorem exists_pieces_of_front (dir : Location) {p : Path} {front : List Component}
    (h : front <+: p.components) (hne : front ≠ []) :
    ∃ pieces, pieces <+: p.pieces ∧ (pieces = p.pieces → front = p.components) ∧
      front.foldl descend dir = leadsTo (p.startFrom dir) pieces := by
  -- components stand in the order of their pieces, so the first of them come from the first of these
  have hsteps : ∀ (start : Location) (steps : List Component),
      steps <+: p.pieces.filterMap Component.ofPiece? →
      ∃ pieces, pieces <+: p.pieces ∧
        (pieces = p.pieces → steps = p.pieces.filterMap Component.ofPiece?) ∧
        steps.foldl descend start = leadsTo start pieces := by
    rintro start steps ⟨rest, hrest⟩
    obtain ⟨pieces, others, hpieces, rfl, -⟩ := List.filterMap_eq_append_iff.1 hrest.symm
    refine ⟨pieces, ⟨others, hpieces.symm⟩, ?_, rfl⟩
    rintro rfl
    rfl
  obtain ⟨c, front, rfl⟩ := List.exists_cons_of_ne_nil hne
  rw [components] at h ⊢
  rw [startFrom]
  split at h
  · next habsolute =>
    -- the root is a component of its own, and where it leads is the start
    obtain ⟨rfl, hfront⟩ := List.cons_prefix_cons.1 h
    obtain ⟨pieces, hpieces, hall, hplace⟩ := hsteps [] front hfront
    rw [if_pos habsolute, if_pos habsolute]
    exact ⟨pieces, hpieces, fun hwhole => congrArg _ (hall hwhole), hplace⟩
  · next hrelative =>
    rw [if_neg hrelative, if_neg hrelative]
    split at h
    · next hdot =>
      -- the dot in front is a component of its own, which does not lead away from the start
      obtain ⟨rfl, hfront⟩ := List.cons_prefix_cons.1 h
      obtain ⟨pieces, hpieces, hall, hplace⟩ := hsteps dir front hfront
      rw [if_pos hdot]
      exact ⟨pieces, hpieces, fun hwhole => congrArg _ (hall hwhole), hplace⟩
    · next hdot =>
      rw [if_neg hdot]
      exact hsteps dir _ h

end Path

namespace Files

open BenchSweep.Path (leadsTo leadsTo_append leadsTo_cons leadsTo_of_none leadsTo_of_some resolve)

/-! ## Following

  One piece is a step from a place to the next.  A step can fail for three reasons, and what it comes to
  when it does not fail is told by the text; the walk along all pieces repeats both. -/

/-- A place as it is in the tree. -/
def Place.InTree (files : Files) (here : Place) : Prop := files.node? here.location = some here.node

/-- Something is at a place that is in the tree. -/
theorem kind?_of_inTree {files : Files} {here : Place} (h : here.InTree files) :
    files.kind? here.location ≠ none := by
  rw [kind?, h]
  exact Option.some_ne_none _

/-- The place of a location is what stands there. -/
theorem place_eq_ok {files : Files} {location : Location} {here : Place}
    (h : files.place location = .ok here) : here.location = location ∧ here.InTree files := by
  unfold place at h
  split at h
  · next node hnode =>
    cases h
    exact ⟨rfl, hnode⟩
  · cases h

/-- A piece leads where its text says, out of a directory and to something in the tree. -/
theorem step_eq_ok {files : Files} {here next : Place} (hhere : here.InTree files) {piece : Name}
    (h : files.step here piece = .ok next) :
    next.location = leadsTo here.location [piece] ∧ next.InTree files := by
  unfold step at h
  split at h
  · cases h
  · next entries hdirectory =>
    split at h
    · next hblank =>
      -- an empty piece or a dot
      cases h
      exact ⟨(leadsTo_of_none (if_pos hblank) _).symm, hhere⟩
    · next hblank =>
      split at h
      · next hup =>
        -- two dots: the directory above is a place by itself
        obtain ⟨hlocation, hnext⟩ := place_eq_ok h
        have hcomponent : Path.Component.ofPiece? piece = some .up := by
          rw [Path.Component.ofPiece?, if_neg hblank, if_pos hup]
        exact ⟨hlocation.trans (leadsTo_of_some hcomponent _).symm, hnext⟩
      · next hup =>
        -- a name, which is looked up in the entries
        have hcomponent : Path.Component.ofPiece? piece = some (.name piece) := by
          rw [Path.Component.ofPiece?, if_neg hblank, if_neg hup]
        split at h
        · cases h
        · split at h
          · next node hnode =>
            cases h
            refine ⟨(leadsTo_of_some hcomponent _).symm, ?_⟩
            rw [Place.InTree, node?_cons, hhere, hdirectory]
            exact hnode
          · cases h

/-- There is a place exactly where something is. -/
theorem exists_place_iff {files : Files} {location : Location} :
    (∃ here, files.place location = .ok here) ↔ files.kind? location ≠ none := by
  rw [Ne, kind?_eq_none_iff, place]
  cases files.node? location with
  | none =>
    refine iff_of_false ?_ fun hne => hne rfl
    rintro ⟨here, hhere⟩
    cases hhere
  | some node => exact iff_of_true ⟨_, rfl⟩ (Option.some_ne_none node)

/-- There is one piece further exactly out of a directory and to something, if the piece is not too long. -/
theorem exists_step_iff {files : Files} {here : Place} (hhere : here.InTree files) (piece : Name) :
    (∃ next, files.step here piece = .ok next) ↔
      piece.length ≤ 255 ∧ files.kind? here.location = some .directory ∧
        files.kind? (leadsTo here.location [piece]) ≠ none := by
  obtain ⟨location, node⟩ := here
  have hnode : files.node? location = some node := hhere
  cases node with
  -- out of a file there is no way, not even for a dot
  | file content executable =>
    refine iff_of_false ?_ ?_
    · rintro ⟨next, hnext⟩
      cases hnext
    · rintro ⟨-, hdirectory, -⟩
      rw [kind?, hnode] at hdirectory
      cases hdirectory
  | directory entries =>
    have hdirectory : files.kind? location = some .directory := kind?_eq_directory_iff.2 ⟨entries, hnode⟩
    rw [and_iff_right hdirectory]
    unfold step
    by_cases hblank : piece = [] ∨ piece = [Path.dot]
    · have hlength : piece.length ≤ 255 := by
        rcases hblank with rfl | rfl
        · exact Nat.zero_le _
        · exact Nat.le_of_ble_eq_true rfl
      have hstays : leadsTo location [piece] = location := leadsTo_of_none (if_pos hblank) _
      rw [and_iff_right hlength, hstays]
      simp only [if_pos hblank]
      exact iff_of_true ⟨_, rfl⟩ (kind?_of_inTree hhere)
    · by_cases hup : piece = [Path.dot, Path.dot]
      · have hcomponent : Path.Component.ofPiece? piece = some .up := by
          rw [Path.Component.ofPiece?, if_neg hblank, if_pos hup]
        have hlength : piece.length ≤ 255 := by
          rw [hup]
          exact Nat.le_of_ble_eq_true rfl
        rw [and_iff_right hlength, leadsTo_of_some hcomponent]
        simp only [if_neg hblank, if_pos hup]
        exact exists_place_iff
      · have hcomponent : Path.Component.ofPiece? piece = some (.name piece) := by
          rw [Path.Component.ofPiece?, if_neg hblank, if_neg hup]
        have hentry : files.node? (leadsTo location [piece]) = entries.lookup piece := by
          rw [leadsTo_of_some hcomponent]
          show files.node? (piece :: location) = _
          rw [node?_cons, hnode]
          rfl
        simp only [if_neg hblank, if_neg hup]
        by_cases hlong : 255 < piece.length
        · rw [if_pos hlong]
          refine iff_of_false ?_ fun h => Nat.not_lt.2 h.1 hlong
          rintro ⟨next, hnext⟩
          cases hnext
        · rw [if_neg hlong, and_iff_right (Nat.not_lt.1 hlong), Ne, kind?_eq_none_iff, hentry]
          cases entries.lookup piece with
          | none =>
            refine iff_of_false ?_ fun hne => hne rfl
            rintro ⟨next, hnext⟩
            cases hnext
          | some child => exact iff_of_true ⟨_, rfl⟩ (Option.some_ne_none child)

/-- Pieces lead from directory to directory, and none of them is too long; where the last one leads is left
    open. -/
structure Passable (files : Files) (start : Location) (pieces : List Name) : Prop where
  lengths : ∀ piece ∈ pieces, piece.length ≤ 255
  directory : ∀ front, front <+: pieces → front ≠ pieces →
    files.kind? (leadsTo start front) = some .directory

/-- No pieces lead through nothing. -/
theorem passable_nil (files : Files) (start : Location) : files.Passable start [] := by
  refine ⟨fun piece hpiece => absurd hpiece List.not_mem_nil, fun front hfront hne => ?_⟩
  exact absurd (List.prefix_nil.1 hfront) hne

/-- Pieces are passable if the first leads out of a directory and the others are passable from where it
    leads. -/
theorem passable_cons_iff {files : Files} {start : Location} {piece : Name} {pieces : List Name} :
    files.Passable start (piece :: pieces) ↔ piece.length ≤ 255 ∧ files.kind? start = some .directory ∧
      files.Passable (leadsTo start [piece]) pieces := by
  constructor
  · intro h
    obtain ⟨hlength, hlengths⟩ := List.forall_mem_cons.1 h.lengths
    refine ⟨hlength, h.directory [] List.nil_prefix (List.cons_ne_nil _ _).symm, hlengths, ?_⟩
    intro front hfront hne
    rw [← leadsTo_cons]
    refine h.directory (piece :: front) (List.cons_prefix_cons.2 ⟨rfl, hfront⟩) fun hwhole => ?_
    exact hne (List.cons.inj hwhole).2
  · rintro ⟨hlength, hdirectory, hrest⟩
    refine ⟨List.forall_mem_cons.2 ⟨hlength, hrest.lengths⟩, fun front hfront hne => ?_⟩
    cases front with
    | nil => exact hdirectory
    | cons first front =>
      obtain ⟨rfl, hmore⟩ := List.cons_prefix_cons.1 hfront
      rw [leadsTo_cons]
      refine hrest.directory front hmore fun hwhole => ?_
      exact hne (by rw [hwhole])

/-- Something is at every place on the way to something. -/
theorem Passable.kind?_ne_none {files : Files} {start : Location} {pieces front : List Name}
    (h : files.Passable start pieces) (hlast : files.kind? (leadsTo start pieces) ≠ none)
    (hfront : front <+: pieces) : files.kind? (leadsTo start front) ≠ none := by
  by_cases hwhole : front = pieces
  · rw [hwhole]
    exact hlast
  · exact ne_of_eq_of_ne (h.directory front hfront hwhole) (Option.some_ne_none _)

/-- Whoever takes all steps is where the pieces lead. -/
theorem foldlM_step_eq_ok {files : Files} {pieces : List Name} {here last : Place} (hhere : here.InTree files)
    (h : pieces.foldlM files.step here = .ok last) :
    last.location = leadsTo here.location pieces ∧ last.InTree files := by
  -- on the pieces, from every place that is in the tree
  induction pieces generalizing here with
  | nil =>
    cases h
    exact ⟨rfl, hhere⟩
  | cons piece pieces ih =>
    rw [List.foldlM_cons] at h
    obtain ⟨next, hnext, hrest⟩ := bind_eq_ok_iff.1 h
    obtain ⟨hlocation, hnextInTree⟩ := step_eq_ok hhere hnext
    obtain ⟨hlast, hlastInTree⟩ := ih hnextInTree hrest
    exact ⟨by rw [hlast, hlocation, ← leadsTo_cons], hlastInTree⟩

/-- All steps can be taken exactly if the pieces are passable and lead to something. -/
theorem exists_foldlM_step_iff {files : Files} {pieces : List Name} {here : Place} (hhere : here.InTree files) :
    (∃ last, pieces.foldlM files.step here = .ok last) ↔
      files.Passable here.location pieces ∧ files.kind? (leadsTo here.location pieces) ≠ none := by
  -- on the pieces, each time with the step that is taken first
  induction pieces generalizing here with
  | nil => exact iff_of_true ⟨here, rfl⟩ ⟨passable_nil files _, kind?_of_inTree hhere⟩
  | cons piece pieces ih =>
    rw [passable_cons_iff, leadsTo_cons here.location piece pieces]
    constructor
    · rintro ⟨last, hlast⟩
      rw [List.foldlM_cons] at hlast
      obtain ⟨next, hnext, hrest⟩ := bind_eq_ok_iff.1 hlast
      obtain ⟨hlocation, hnextInTree⟩ := step_eq_ok hhere hnext
      obtain ⟨hlength, hdirectory, -⟩ := (exists_step_iff hhere piece).1 ⟨next, hnext⟩
      rw [← hlocation]
      obtain ⟨hpassable, hthere⟩ := (ih hnextInTree).1 ⟨last, hrest⟩
      exact ⟨⟨hlength, hdirectory, hpassable⟩, hthere⟩
    · rintro ⟨⟨hlength, hdirectory, hpassable⟩, hthere⟩
      have hnextThere := hpassable.kind?_ne_none hthere List.nil_prefix
      obtain ⟨next, hnext⟩ := (exists_step_iff hhere piece).2 ⟨hlength, hdirectory, hnextThere⟩
      obtain ⟨hlocation, hnextInTree⟩ := step_eq_ok hhere hnext
      rw [← hlocation] at hpassable hthere
      obtain ⟨last, hlast⟩ := (ih hnextInTree).2 ⟨hpassable, hthere⟩
      exact ⟨last, by rw [List.foldlM_cons, hnext]; exact hlast⟩

/-- **Following.**  Whoever comes through is where the pieces lead. -/
theorem follow_eq_ok {files : Files} {start : Location} {pieces : List Name} {last : Place}
    (h : files.follow start pieces = .ok last) :
    last.location = leadsTo start pieces ∧ last.InTree files := by
  obtain ⟨here, hhere, hwalk⟩ := bind_eq_ok_iff.1 h
  obtain ⟨rfl, hInTree⟩ := place_eq_ok hhere
  exact foldlM_step_eq_ok hInTree hwalk

/-- One comes through exactly if there are directories up to the last piece and something at the end. -/
theorem exists_follow_iff {files : Files} {start : Location} {pieces : List Name} :
    (∃ last, files.follow start pieces = .ok last) ↔
      files.Passable start pieces ∧ files.kind? (leadsTo start pieces) ≠ none := by
  constructor
  · rintro ⟨last, hlast⟩
    obtain ⟨here, hhere, hwalk⟩ := bind_eq_ok_iff.1 hlast
    obtain ⟨rfl, hInTree⟩ := place_eq_ok hhere
    exact (exists_foldlM_step_iff hInTree).1 ⟨last, hwalk⟩
  · rintro ⟨hpassable, hthere⟩
    obtain ⟨here, hhere⟩ := exists_place_iff.2 (hpassable.kind?_ne_none hthere List.nil_prefix)
    obtain ⟨rfl, hInTree⟩ := place_eq_ok hhere
    obtain ⟨last, hlast⟩ := (exists_foldlM_step_iff hInTree).2 ⟨hpassable, hthere⟩
    exact ⟨last, bind_eq_ok_iff.2 ⟨here, hhere, hlast⟩⟩

/-! ## Paths

  A path is followed from the root or from the working directory, unless it is at fault by itself, as one
  that is empty or too long. -/

/-- A path reaches its place: nothing is wrong with it by itself, and all that it leads through are
    directories. -/
structure Reaches (files : Files) (p : Path) : Prop where
  fault : pathFault? p = none
  passable : files.Passable (files.startOf p) p.pieces

/-- What is found of a path is at the place of its text. -/
theorem find_eq_ok {files : Files} {p : Path} {last : Place} (h : files.find p = .ok last) :
    last.location = resolve files.workingDirectory p ∧ last.InTree files := by
  unfold find at h
  split at h
  · cases h
  · rw [Path.resolve_eq_leadsTo]
    exact follow_eq_ok h

/-- A path is found exactly if it reaches its place and something is there. -/
theorem exists_find_iff {files : Files} {p : Path} :
    (∃ last, files.find p = .ok last) ↔
      files.Reaches p ∧ files.kind? (resolve files.workingDirectory p) ≠ none := by
  have hplace : resolve files.workingDirectory p = leadsTo (files.startOf p) p.pieces :=
    Path.resolve_eq_leadsTo files.workingDirectory p
  rw [hplace, find]
  cases hfault : pathFault? p with
  | some fault =>
    refine iff_of_false ?_ ?_
    · rintro ⟨last, hlast⟩
      cases hlast
    · rintro ⟨hreaches, -⟩
      rw [hreaches.fault] at hfault
      cases hfault
  | none =>
    constructor
    · intro hfound
      obtain ⟨hpassable, hthere⟩ := exists_follow_iff.1 hfound
      exact ⟨⟨hfault, hpassable⟩, hthere⟩
    · rintro ⟨hreaches, hthere⟩
      exact exists_follow_iff.2 ⟨hreaches.passable, hthere⟩

/-- What a path names is what stands at its place, if it reaches it. -/
theorem nodeOf?_eq_some_iff {files : Files} {p : Path} {node : Node} :
    files.nodeOf? p = some node ↔
      files.Reaches p ∧ files.node? (resolve files.workingDirectory p) = some node := by
  rw [nodeOf?, Option.map_eq_some_iff]
  constructor
  · rintro ⟨last, hlast, rfl⟩
    obtain ⟨last, hfind⟩ : ∃ other, files.find p = .ok other ∧ other = last := by
      cases hfind : files.find p with
      | error fault =>
        rw [hfind] at hlast
        cases hlast
      | ok other =>
        rw [hfind] at hlast
        exact ⟨other, rfl, Option.some.inj hlast⟩
    obtain ⟨hfind, rfl⟩ := hfind
    obtain ⟨hlocation, hInTree⟩ := find_eq_ok hfind
    rw [← hlocation]
    exact ⟨(exists_find_iff.1 ⟨last, hfind⟩).1, hInTree⟩
  · rintro ⟨hreaches, hnode⟩
    have hthere : files.kind? (resolve files.workingDirectory p) ≠ none := by
      rw [kind?, hnode]
      exact Option.some_ne_none _
    obtain ⟨last, hfind⟩ := exists_find_iff.2 ⟨hreaches, hthere⟩
    obtain ⟨hlocation, hInTree⟩ := find_eq_ok hfind
    rw [Place.InTree, hlocation, hnode] at hInTree
    exact ⟨last, by rw [hfind]; rfl, (Option.some.inj hInTree).symm⟩

/-- **Paths.**  A path exists if it reaches a place where something is. -/
theorem pathExists_iff {files : Files} {p : Path} :
    files.pathExists p = true ↔
      files.Reaches p ∧ files.kind? (resolve files.workingDirectory p) ≠ none := by
  rw [pathExists, Option.isSome_iff_exists]
  simp only [nodeOf?_eq_some_iff, exists_and_left, ← Option.isSome_iff_exists, kind?, Ne,
    Option.map_eq_none_iff, ← Option.isSome_iff_ne_none]

/-- It is a directory if it reaches one. -/
theorem isDirectory_iff {files : Files} {p : Path} :
    files.isDirectory p = true ↔
      files.Reaches p ∧ files.kind? (resolve files.workingDirectory p) = some .directory := by
  rw [kind?_eq_directory_iff, ← exists_and_left]
  simp only [← nodeOf?_eq_some_iff, isDirectory]
  constructor
  · intro h
    split at h
    · next entries hnode => exact ⟨entries, hnode⟩
    · cases h
  · rintro ⟨entries, hnode⟩
    rw [hnode]

/-- A directory exists. -/
theorem pathExists_of_isDirectory {files : Files} {p : Path} (h : files.isDirectory p = true) :
    files.pathExists p = true := by
  obtain ⟨hreaches, hdirectory⟩ := isDirectory_iff.1 h
  exact pathExists_iff.2 ⟨hreaches, ne_of_eq_of_ne hdirectory (Option.some_ne_none _)⟩

/-- Something is at every place on the way of a path. -/
def HasWay (files : Files) (p : Path) : Prop :=
  ∀ front, front <+: p.pieces → files.kind? (leadsTo (files.startOf p) front) ≠ none

/-- A path that exists has a way. -/
theorem hasWay_of_pathExists {files : Files} {p : Path} (h : files.pathExists p = true) : files.HasWay p := by
  obtain ⟨hreaches, hthere⟩ := pathExists_iff.1 h
  rw [Path.resolve_eq_leadsTo] at hthere
  intro front hfront
  exact hreaches.passable.kind?_ne_none hthere hfront

/-- All components of a path that has a way lead to something. -/
theorem HasWay.kind?_ne_none {files : Files} (hgrounded : files.Grounded) {p : Path} (hway : files.HasWay p)
    {front : List Path.Component} (h : front <+: p.components) :
    files.kind? (front.foldl Path.descend files.workingDirectory) ≠ none := by
  by_cases hne : front = []
  · rw [hne, List.foldl_nil]
    exact hgrounded.kind?_ne_none
  · obtain ⟨pieces, hpieces, -, hplace⟩ := Path.exists_pieces_of_front files.workingDirectory h hne
    rw [hplace]
    exact hway pieces hpieces

namespace Grows

variable {places : Location → Prop} {before after : Files}

/-- Pieces that were passable are so in a tree that has grown, for directories stay directories. -/
theorem passable (h : Grows places before after) {start : Location} {pieces : List Name}
    (hpassable : before.Passable start pieces) : after.Passable start pieces :=
  ⟨hpassable.lengths, fun front hfront hne => h.kind?_of_some (hpassable.directory front hfront hne)⟩

/-- What a path reaches, it still reaches in a tree that has grown. -/
theorem reaches (h : Grows places before after) {p : Path} (hreaches : before.Reaches p) : after.Reaches p := by
  have hstart : after.startOf p = before.startOf p := by rw [startOf, startOf, h.workingDirectory]
  refine ⟨hreaches.fault, ?_⟩
  rw [hstart]
  exact h.passable hreaches.passable

/-- A path that existed exists in a tree that has grown. -/
theorem pathExists (h : Grows places before after) {p : Path} (hexists : before.pathExists p = true) :
    after.pathExists p = true := by
  obtain ⟨hreaches, hthere⟩ := pathExists_iff.1 hexists
  refine pathExists_iff.2 ⟨h.reaches hreaches, ?_⟩
  rw [h.workingDirectory]
  exact h.kind?_ne_none hthere

/-- A directory stays one in a tree that has grown. -/
theorem isDirectory (h : Grows places before after) {p : Path} (hdirectory : before.isDirectory p = true) :
    after.isDirectory p = true := by
  obtain ⟨hreaches, hplace⟩ := isDirectory_iff.1 hdirectory
  refine isDirectory_iff.2 ⟨h.reaches hreaches, ?_⟩
  rw [h.workingDirectory]
  exact h.kind?_of_some hplace

end Grows

/-! ## What is to be made

  A path whose last piece is missing can still say where it would stand: in the directory that the pieces in
  front lead to.  Separators at the end do not count, and a dot or two at the end name nothing that is new.
-/

/-- The names of entries are the pieces that are components by their own name. -/
theorem isEntryName_iff {piece : Name} :
    isEntryName piece = true ↔ Path.Component.ofPiece? piece = some (.name piece) := by
  unfold isEntryName Path.Component.ofPiece?
  split
  · simp
  · split
    · simp
    · simp

/-- The directory of what is to be made is where the pieces in front of the last one lead, and they lead
    there through directories. -/
theorem destination_eq_ok {files : Files} {p : Path} {d : Destination}
    (h : files.destination p = .ok (some d)) :
    ∃ before blanks, p.pieces = before ++ d.last :: blanks ∧ (∀ piece ∈ blanks, piece = []) ∧
      d.parent = leadsTo (files.startOf p) before ∧ files.kind? d.parent = some .directory ∧
      files.Passable (files.startOf p) before ∧ pathFault? p = none := by
  unfold destination at h
  split at h
  · cases h
  · next hfault =>
    dsimp only at h
    split at h
    · cases h
    · next last before hback =>
      obtain ⟨parent, hfollow, h⟩ := bind_eq_ok_iff.1 h
      obtain ⟨hlocation, hInTree⟩ := follow_eq_ok hfollow
      obtain ⟨hpassable, -⟩ := exists_follow_iff.1 ⟨parent, hfollow⟩
      split at h
      · next entries hdirectory =>
        obtain rfl : _ = d := Option.some.inj (Except.ok.inj h)
        -- the pieces were read from the back, with the empty ones at the end put aside
        have hpieces : p.pieces =
            before.reverse ++ last :: (p.pieces.reverse.takeWhile (· = [])).reverse := by
          rw [← List.reverse_inj, List.reverse_append, List.reverse_cons, List.reverse_reverse,
            List.reverse_reverse, List.append_assoc, List.singleton_append, ← hback,
            List.takeWhile_append_dropWhile]
        refine ⟨before.reverse, _, hpieces, fun piece hpiece => ?_, hlocation, ?_, hpassable, hfault⟩
        · have hblank := List.mem_takeWhile_imp (List.mem_reverse.1 hpiece)
          exact of_decide_eq_true hblank
        · exact kind?_eq_directory_iff.2 ⟨entries, hInTree.trans (congrArg some hdirectory)⟩
      · cases h

/-- Empty pieces are no components. -/
theorem filterMap_blanks {blanks : List Name} (h : ∀ piece ∈ blanks, piece = []) :
    blanks.filterMap Path.Component.ofPiece? = [] :=
  List.filterMap_eq_nil_iff.2 fun piece hpiece => if_pos (.inl (h piece hpiece))

/-- Empty pieces lead nowhere else. -/
theorem leadsTo_blanks {blanks : List Name} (h : ∀ piece ∈ blanks, piece = []) (start : Location) :
    leadsTo start blanks = start := by
  rw [leadsTo, filterMap_blanks h, List.foldl_nil]

/-- A last piece that names an entry leads to that entry, whatever separators trail. -/
theorem leadsTo_last {before blanks : List Name} {last : Name} (hlast : isEntryName last = true)
    (hblanks : ∀ piece ∈ blanks, piece = []) (start : Location) :
    leadsTo start (before ++ last :: blanks) = last :: leadsTo start before := by
  rw [leadsTo_append, leadsTo_cons, leadsTo_of_some (isEntryName_iff.1 hlast), leadsTo_blanks hblanks]
  rfl

/-- What is to be made is at the place of the path. -/
theorem destination_location {files : Files} {p : Path} {d : Destination}
    (h : files.destination p = .ok (some d)) (hlast : isEntryName d.last = true) :
    d.last :: d.parent = resolve files.workingDirectory p := by
  obtain ⟨before, blanks, hpieces, hblanks, hparent, -, -⟩ := destination_eq_ok h
  rw [Path.resolve_eq_leadsTo, hpieces, leadsTo_last hlast hblanks, hparent]
  rfl

/-- The first pieces of a path that ends with `last` stay in front of it or take it in. -/
theorem front_of_last {front before blanks : List Name} {last : Name} (h : front <+: before ++ last :: blanks) :
    front <+: before ∨ ∃ others, others <+: blanks ∧ front = before ++ last :: others := by
  obtain ⟨rest, hrest⟩ := h
  rcases List.append_eq_append_iff.1 hrest with ⟨more, hbefore, -⟩ | ⟨more, hfront, hlast⟩
  · exact .inl ⟨more, hbefore.symm⟩
  · cases more with
    | nil =>
      rw [List.append_nil] at hfront
      exact .inl (hfront ▸ List.prefix_refl _)
    | cons piece others =>
      obtain ⟨rfl, hblanks⟩ := List.cons.inj hlast
      exact .inr ⟨others, ⟨rest, hblanks.symm⟩, hfront⟩

/-! ## Making directories

  Directories are made from the highest one that is missing down to the lowest.  Whatever stops this, the
  tree has grown only by directories on that line. -/

/-- What is put in the place of a path, is reached by the path: its way goes through directories that were
    there, and ends with the new one. -/
theorem isDirectory_put {files : Files} {p : Path} {d : Destination}
    (hdestination : files.destination p = .ok (some d)) (hlast : isEntryName d.last = true)
    (hlength : d.last.length ≤ 255) (hmissing : files.node? (d.last :: d.parent) = none) :
    (files.put (d.last :: d.parent) (.directory [])).isDirectory p = true := by
  obtain ⟨before, blanks, hpieces, hblanks, hparent, hdirectory, hpassable, hfault⟩ :=
    destination_eq_ok hdestination
  have hplace := destination_location hdestination hlast
  have hgrows := grows_put hdirectory hmissing
  have hnew : (files.put (d.last :: d.parent) (.directory [])).kind? (d.last :: d.parent) = some .directory := by
    rw [kind?_put_directory hdirectory hmissing, if_pos rfl]
  refine isDirectory_iff.2 ⟨⟨hfault, ?_, ?_⟩, ?_⟩
  · intro piece hpiece
    rw [hpieces] at hpiece
    rcases List.mem_append.1 hpiece with hpiece | hpiece
    · exact hpassable.lengths piece hpiece
    · rcases List.mem_cons.1 hpiece with rfl | hpiece
      · exact hlength
      · rw [hblanks piece hpiece]
        exact Nat.zero_le _
  · -- the way of the path: up to the new directory as before, and from there on nothing but empty pieces
    intro front hfront _
    show kind? _ (leadsTo (files.startOf p) front) = some .directory
    rw [hpieces] at hfront
    rcases front_of_last hfront with hfront | ⟨others, hothers, rfl⟩
    · refine hgrows.kind?_of_some ?_
      by_cases hwhole : front = before
      · rw [hwhole, ← hparent]
        exact hdirectory
      · exact hpassable.directory front hfront hwhole
    · rw [leadsTo_last hlast fun piece hpiece => hblanks piece (hothers.subset hpiece), ← hparent]
      exact hnew
  · show kind? _ (resolve files.workingDirectory p) = some .directory
    rw [← hplace]
    exact hnew

/-- **Making one directory** adds the place of the path, and nothing else; the path then is a directory. -/
theorem makeDirectory_eq_ok {files files' : Files} {p : Path} (h : files.makeDirectory p = .ok files') :
    Grows (· = resolve files.workingDirectory p) files files' ∧ files'.isDirectory p = true := by
  obtain ⟨found, hdestination, h⟩ := bind_eq_ok_iff.1 h
  cases found with
  | none => cases h
  | some d =>
    dsimp only at h
    split at h
    · cases h
    · next hentry =>
      have hlast : isEntryName d.last = true := by simpa using hentry
      split at h
      · cases h
      · next hlength =>
        split at h
        · cases h
        · next hmissing =>
          -- the one case in which a directory is put in the tree
          obtain rfl : _ = files' := Except.ok.inj h
          obtain ⟨-, -, -, -, -, hdirectory, -, -⟩ := destination_eq_ok hdestination
          have hmissing : files.node? (d.last :: d.parent) = none := Option.not_isSome_iff_eq_none.1 hmissing
          have hplace := destination_location hdestination hlast
          constructor
          · exact (grows_put hdirectory hmissing).imp fun location hlocation => hlocation.trans hplace
          · exact isDirectory_put hdestination hlast (Nat.not_lt.1 hlength) hmissing

/-- **Making a line of directories** adds only places of the line, whatever comes of it, and the paths of
    these are directories then. -/
theorem grows_makeLine (files : Files) (paths : List Path) :
    Grows (fun location => ∃ p ∈ paths, (files.makeLine paths).2.isDirectory p = true ∧
      location = resolve files.workingDirectory p) files (files.makeLine paths).2 := by
  -- on the line, which begins with its end: a path is made by itself if the ones above it are there, and
  -- else behind them
  induction paths with
  | nil => exact .refl files
  | cons p above ih =>
    have hone : ∀ {before after : Files}, before.workingDirectory = files.workingDirectory →
        before.makeDirectory p = .ok after →
        Grows (fun location => ∃ q ∈ p :: above, after.isDirectory q = true ∧
          location = resolve files.workingDirectory q) before after := by
      intro before after hdirectory hmade
      obtain ⟨hgrows, hthere⟩ := makeDirectory_eq_ok hmade
      refine hgrows.imp fun location hlocation => ?_
      exact ⟨p, List.mem_cons_self, hthere, hdirectory ▸ hlocation⟩
    have habove : ∀ {after : Files},
        (∀ q, (files.makeLine above).2.isDirectory q = true → after.isDirectory q = true) →
        Grows (fun location => ∃ q ∈ p :: above, after.isDirectory q = true ∧
          location = resolve files.workingDirectory q) files (files.makeLine above).2 := by
      intro after hstays
      refine ih.imp ?_
      rintro location ⟨q, hq, hthere, hlocation⟩
      exact ⟨q, List.mem_cons_of_mem p hq, hstays q hthere, hlocation⟩
    unfold makeLine
    split
    · next hmade => exact hone rfl hmade
    · split
      · next heq =>
        rw [heq] at habove
        exact habove fun q hq => hq
      · next heq =>
        rw [heq] at habove
        have hdirectory := (habove fun q hq => hq).workingDirectory
        split
        · next hmade =>
          have hlast := hone hdirectory hmade
          exact (habove fun q hq => hlast.isDirectory hq).trans hlast
        · split <;> exact habove fun q hq => hq
    · split <;> exact .refl files

/-- A line that is made ends with a directory. -/
theorem isDirectory_makeLine {files files' : Files} {p : Path} {above : List Path}
    (h : files.makeLine (p :: above) = (.ok (), files')) : files'.isDirectory p = true := by
  -- it counts as made if it was there already
  have hthere : ∀ {fault : Fault} {before : Files},
      (if fault = .alreadyExists ∧ before.isDirectory p = true then ((.ok (), before) : Except Fault Unit × Files)
        else (.error fault, before)) = (.ok (), files') → files'.isDirectory p = true := by
    intro fault before hresult
    split at hresult
    · next hdirectory =>
      obtain ⟨-, rfl⟩ := Prod.mk.inj hresult
      exact hdirectory.2
    · cases hresult
  unfold makeLine at h
  split at h
  · next hmade =>
    obtain ⟨-, rfl⟩ := Prod.mk.inj h
    exact (makeDirectory_eq_ok hmade).2
  · split at h
    · cases h
    · split at h
      · next hmade =>
        obtain ⟨-, rfl⟩ := Prod.mk.inj h
        exact (makeDirectory_eq_ok hmade).2
      · exact hthere h
  · exact hthere h

/-! ## Writing

  A write is the walk to a destination and one change of the tree; where it succeeds, the destination is
  known and was no directory. -/

/-- Only what has a destination is written, and it is no directory. -/
theorem write_eq_ok {files files' : Files} {p : Path} {change : Change} (h : files.write p change = .ok files') :
    ∃ d, files.destination p = .ok (some d) ∧ isEntryName d.last = true ∧
      files.kind? (d.last :: d.parent) ≠ some .directory := by
  obtain ⟨found, hdestination, hwrite⟩ := bind_eq_ok_iff.1 h
  cases found with
  | none => cases hwrite
  | some d =>
    dsimp only at hwrite
    split at hwrite
    · cases hwrite
    · next hentry =>
      -- a separator at the end would have been refused, so what is written to is the last piece itself
      have hlast : isEntryName d.last = true := by
        rw [Bool.or_eq_true, not_or] at hentry
        simpa using hentry.2
      refine ⟨d, hdestination, hlast, fun hdirectory => ?_⟩
      obtain ⟨entries, hnode⟩ := kind?_eq_directory_iff.1 hdirectory
      rw [hnode] at hwrite
      split at hwrite <;> cases hwrite

/-- **Nothing is written where a directory stands.** -/
theorem write_ne_ok_of_directory {files : Files} {p : Path}
    (h : files.kind? (resolve files.workingDirectory p) = some .directory) (change : Change) (files' : Files) :
    files.write p change ≠ .ok files' := by
  intro hwrite
  obtain ⟨d, hdestination, hlast, hne⟩ := write_eq_ok hwrite
  rw [← destination_location hdestination hlast] at h
  exact hne h

end Files
end BenchSweep
