/-
  The directory of a path, and those above it.

  `parent?` works on the spelling of a path: it takes the last piece off, with the separators and the `.` in
  front of it.  What it comes to is plain: the components without the last one.

  1. **How a path opens** (`exists_opens`).  With a separator, with a `.` in front of one, or with a piece that
     is a step (`Opens`).  The components are those of the opening and then the steps of the pieces behind it
     (`Opens.reading`), and taking pieces off the end does not disturb the opening (`Opens.of_prefix`).

  2. **The directory** (`components_of_parent?`).  It opens as the path does.  Nothing is left behind its last
     step, so where there is nothing above it, it is spelled in one of two ways
     (`eq_of_parent?_of_parent?_none`).

  3. **Those above it** (`prefix_of_mem_lineage`).  Each of the paths that are made for an output has the first
     components of that output.
-/
import BenchSweep.Files.Operations
import BenchSweep.Proofs.Spelling
import Mathlib.Data.List.TakeWhile

namespace BenchSweep
namespace Path

/-! ## Pieces that add nothing

  Between separators there may be nothing or a `.`.  Such pieces stand for no component, so they may be left
  out at the end of a path, which is what `parent?` does on both sides of the last step. -/

/-- What is dropped in front because it stands for nothing is not missed. -/
theorem filterMap_dropWhile_isNone {α β : Type} (f : α → Option β) (xs : List α) :
    (xs.dropWhile fun x => (f x).isNone).filterMap f = xs.filterMap f := by
  induction xs with
  | nil => rfl
  | cons x xs ih =>
    cases hx : f x with
    | none => rw [List.dropWhile_cons_of_pos (by rw [hx]; rfl), ih, List.filterMap_cons_none hx]
    | some y => rw [List.dropWhile_cons_of_neg (by rw [hx]; exact Bool.false_ne_true)]

/-- Pieces and the pieces without the empty end stand for the same steps. -/
theorem filterMap_trimEnd (ps : List Name) :
    (trimEnd ps).filterMap Component.ofPiece? = ps.filterMap Component.ofPiece? := by
  rw [trimEnd, List.filterMap_reverse, filterMap_dropWhile_isNone, List.filterMap_reverse, List.reverse_reverse]

/-- What is left of pieces are the first of them. -/
theorem trimEnd_front (ps : List Name) : trimEnd ps <+: ps := by
  rw [trimEnd, ← List.reverse_suffix, List.reverse_reverse]
  exact List.dropWhile_suffix _

/-- The pieces in front of the last step, without what adds nothing. -/
theorem trimEnd_front_of_reverse {ps before : List Name} {last : Name}
    (h : (trimEnd ps).reverse = last :: before) : trimEnd before.reverse <+: ps := by
  have hbefore : before.reverse <+: trimEnd ps := by
    rw [← List.reverse_reverse (trimEnd ps), h, List.reverse_cons]
    exact List.prefix_append _ _
  exact (trimEnd_front _).trans (hbefore.trans (trimEnd_front ps))

/-- Pieces without any step all go. -/
theorem trimEnd_of_filterMap_nil {ps : List Name} (h : ps.filterMap Component.ofPiece? = []) :
    trimEnd ps = [] := by
  rw [List.filterMap_eq_nil_iff] at h
  rw [trimEnd, List.reverse_eq_nil_iff, List.dropWhile_eq_nil_iff]
  intro piece hpiece
  rw [h piece (List.mem_reverse.1 hpiece)]
  rfl

/-- What is left of pieces ends with a step. -/
theorem exists_step_of_trimEnd {ps before : List Name} {last : Name} (h : (trimEnd ps).reverse = last :: before) :
    ∃ c, Component.ofPiece? last = some c := by
  rw [trimEnd, List.reverse_reverse] at h
  have hlast := List.head?_dropWhile_not (fun n => (Component.ofPiece? n).isNone) ps.reverse
  rw [h] at hlast
  exact Option.isSome_iff_exists.1 (by simpa using hlast)

/-- The steps of pieces are those in front of the last one left, and its own. -/
theorem filterMap_trimEnd_of_reverse {ps before : List Name} {last : Name}
    (h : (trimEnd ps).reverse = last :: before) :
    ∃ c, ps.filterMap Component.ofPiece? = before.reverse.filterMap Component.ofPiece? ++ [c] := by
  obtain ⟨c, hc⟩ := exists_step_of_trimEnd h
  have hps : trimEnd ps = before.reverse ++ [last] := by
    rw [← List.reverse_reverse (trimEnd ps), h, List.reverse_cons]
  refine ⟨c, ?_⟩
  rw [← filterMap_trimEnd, hps, List.filterMap_append, List.filterMap_cons_some hc, List.filterMap_nil]

/-! ## How a path opens

  A path is its opening and then its pieces.  The opening decides three things at once: what `parent?` keeps
  in front, with which component the path begins, and whether a leading `.` counts.  So one case split on
  `Opens` serves all of what follows. -/

/-- The bytes in front of the pieces of a path, and the component for which they stand. -/
inductive Opens : List UInt8 → List Component → List Name → Prop
  | root {ps : List Name} : Opens [slash] [.root] ps
  /-- Behind a `.` there is nothing or a separator. -/
  | here {ps : List Name} : (∀ piece ∈ ps.head?, piece = []) → Opens [dot] [.here] ps
  /-- The first piece is a step, if there is one. -/
  | relative {ps : List Name} : (∀ piece ∈ ps.head?, Component.ofPiece? piece ≠ none) → Opens [] [] ps

/-- No piece holds the separator. -/
def AreSlashFree (ps : List Name) : Prop := ∀ piece ∈ ps, slash ∉ piece

/-- The first of some pieces hold no separator if none of them does. -/
theorem AreSlashFree.of_prefix {ps qs : List Name} (h : AreSlashFree ps) (hqs : qs <+: ps) : AreSlashFree qs :=
  fun piece hpiece => h piece (hqs.subset hpiece)

/-- Pieces that are written and split again stand for the same steps, also if there are none. -/
theorem filterMap_splitOn_intercalate {ps : List Name} (h : AreSlashFree ps) :
    (List.splitOn slash (List.intercalate [slash] ps)).filterMap Component.ofPiece? =
      ps.filterMap Component.ofPiece? := by
  by_cases hps : ps = []
  · rw [hps]
    rfl
  · rw [List.splitOn_intercalate _ h hps]

/-- The bytes in front of the pieces, as `parent?` sees them. -/
def front (p : Path) : List UInt8 :=
  if p.isAbsolute then [slash] else if p.pieces.head? = some [dot] then [dot] else []

/-- A path that opens with a name is not absolute. -/
theorem isAbsolute_of_solid {piece : Name} (hpiece : IsSolid piece) (ps : List Name) :
    (⟨List.intercalate [slash] (piece :: ps)⟩ : Path).isAbsolute = false := by
  obtain ⟨b, piece, rfl⟩ := List.exists_cons_of_ne_nil hpiece.1
  have hb : b ≠ slash := fun h => hpiece.2 (h ▸ List.mem_cons_self)
  simp [isAbsolute, Text.intercalate_cons, hb]

/-- The front and the components of a path by its opening. -/
theorem Opens.reading {bytes : List UInt8} {opening : List Component} {ps : List Name}
    (h : Opens bytes opening ps) (hps : AreSlashFree ps) :
    front ⟨bytes ++ List.intercalate [slash] ps⟩ = bytes ∧
      components ⟨bytes ++ List.intercalate [slash] ps⟩ = opening ++ ps.filterMap Component.ofPiece? := by
  cases h with
  | root =>
    have hpieces : pieces ⟨[slash] ++ List.intercalate [slash] ps⟩ =
        [] :: List.splitOn slash (List.intercalate [slash] ps) := by
      rw [pieces, List.singleton_append, Text.splitOn_cons_self]
    have habsolute : isAbsolute ⟨[slash] ++ List.intercalate [slash] ps⟩ = true := rfl
    refine ⟨if_pos habsolute, ?_⟩
    rw [components, if_pos habsolute, hpieces, List.filterMap_cons_none rfl, filterMap_splitOn_intercalate hps]
    rfl
  | here hhead =>
    have habsolute : isAbsolute ⟨[dot] ++ List.intercalate [slash] ps⟩ = false := rfl
    -- behind the `.` there is nothing, or an empty piece that is the separator
    have hpieces : ∃ more, pieces ⟨[dot] ++ List.intercalate [slash] ps⟩ = [dot] :: more ∧
        more.filterMap Component.ofPiece? = ps.filterMap Component.ofPiece? := by
      cases ps with
      | nil => exact ⟨[], rfl, rfl⟩
      | cons piece more =>
        obtain rfl : piece = [] := hhead piece rfl
        cases more with
        | nil => exact ⟨[], rfl, rfl⟩
        | cons q more =>
          have hmore : AreSlashFree (q :: more) := fun piece hpiece => hps piece (List.mem_cons_of_mem _ hpiece)
          refine ⟨q :: more, ?_, rfl⟩
          rw [pieces]
          show List.splitOn slash ([dot] ++ slash :: List.intercalate [slash] (q :: more)) = _
          rw [List.splitOn_append_cons_self_of_not_mem (by decide),
            List.splitOn_intercalate _ hmore (List.cons_ne_nil _ _)]
    obtain ⟨more, hpieces, hmore⟩ := hpieces
    have hdot : (pieces ⟨[dot] ++ List.intercalate [slash] ps⟩).head? = some [dot] := by
      rw [hpieces, List.head?_cons]
    constructor
    · rw [front, if_neg (Bool.eq_false_iff.1 habsolute), if_pos hdot]
    · rw [components, if_neg (Bool.eq_false_iff.1 habsolute), if_pos hdot, hpieces,
        List.filterMap_cons_none rfl, hmore]
      rfl
  | relative hhead =>
    rw [List.nil_append, List.nil_append]
    cases ps with
    | nil => exact ⟨rfl, rfl⟩
    | cons piece more =>
      -- the first piece is a step, so it is neither empty nor a `.`
      have hstep : Component.ofPiece? piece ≠ none := hhead piece rfl
      have hsolid : IsSolid piece := by
        refine ⟨?_, hps piece List.mem_cons_self⟩
        rintro rfl
        exact hstep rfl
      have habsolute := isAbsolute_of_solid hsolid more
      have hpieces : pieces ⟨List.intercalate [slash] (piece :: more)⟩ = piece :: more :=
        List.splitOn_intercalate _ hps (List.cons_ne_nil _ _)
      have hdot : (pieces ⟨List.intercalate [slash] (piece :: more)⟩).head? ≠ some [dot] := by
        rw [hpieces, List.head?_cons]
        intro h
        exact hstep (by rw [Option.some.inj h]; rfl)
      constructor
      · rw [front, if_neg (Bool.eq_false_iff.1 habsolute), if_neg hdot]
      · rw [components, if_neg (Bool.eq_false_iff.1 habsolute), if_neg hdot, hpieces]

/-- Pieces from which the end is taken open in the same way. -/
theorem Opens.of_prefix {bytes : List UInt8} {opening : List Component} {ps qs : List Name}
    (h : Opens bytes opening ps) (hqs : qs <+: ps) : Opens bytes opening qs := by
  have hhead : ∀ piece ∈ qs.head?, piece ∈ ps.head? := by
    intro piece hpiece
    obtain ⟨rest, rfl⟩ := hqs
    rw [List.head?_append, hpiece]
    rfl
  cases h with
  | root => exact .root
  | here hps => exact .here fun piece hpiece => hps piece (hhead piece hpiece)
  | relative hps => exact .relative fun piece hpiece => hps piece (hhead piece hpiece)

/-- Every path opens in one of the three ways. -/
theorem exists_opens (p : Path) : ∃ bytes opening ps, p = ⟨bytes ++ List.intercalate [slash] ps⟩ ∧
    Opens bytes opening ps ∧ AreSlashFree ps ∧
      trimEnd (List.splitOn slash (p.bytes.drop bytes.length)) = trimEnd ps := by
  obtain ⟨b⟩ := p
  have hfree : ∀ r : List UInt8, AreSlashFree (List.splitOn slash r) := fun r piece hpiece =>
    Text.not_mem_of_mem_splitOn hpiece
  cases b with
  | nil =>
    refine ⟨[], [], [], rfl, .relative (fun piece hpiece => ?_), fun piece hpiece => ?_, rfl⟩
    · cases hpiece
    · cases hpiece
  | cons c r =>
    -- by the first byte: a separator, a `.` that stands alone, or the start of a name
    by_cases hroot : c = slash
    · refine ⟨[slash], [.root], List.splitOn slash r, ?_, .root, hfree r, rfl⟩
      rw [List.intercalate_splitOn, hroot]
      rfl
    · obtain ⟨piece, more, hpieces⟩ := List.exists_cons_of_ne_nil (List.splitOn_ne_nil slash r)
      by_cases hhere : c = dot ∧ piece = []
      · obtain ⟨rfl, rfl⟩ := hhere
        refine ⟨[dot], [.here], List.splitOn slash r, ?_, .here ?_, hfree r, rfl⟩
        · rw [List.intercalate_splitOn]
          rfl
        · rw [hpieces]
          exact fun first hfirst => (Option.some.inj hfirst).symm
      · have hsplit : List.splitOn slash (c :: r) = (c :: piece) :: more :=
          Text.splitOn_cons_of_ne hroot hpieces
        have hwhole : (⟨c :: r⟩ : Path) = ⟨[] ++ List.intercalate [slash] (List.splitOn slash (c :: r))⟩ := by
          rw [List.intercalate_splitOn]
          rfl
        refine ⟨[], [], List.splitOn slash (c :: r), hwhole, .relative ?_, hfree _, rfl⟩
        rw [hsplit]
        rintro first hfirst hnone
        obtain rfl : c :: piece = first := Option.some.inj hfirst
        -- a first piece that adds nothing would be a `.`
        unfold Component.ofPiece? at hnone
        split at hnone
        · next hblank =>
          rcases hblank with hblank | hblank
          · cases hblank
          · exact hhere (List.cons.inj hblank)
        · split at hnone <;> cases hnone

/-! ## The directory of a path

  Either no step is left at the end, and the opening alone decides, or there is a last step, and the
  directory is what stands in front of it, opened as before. -/

/-- A path without steps has a directory only if it opens with a `.`. -/
theorem parent?_of_nil {p : Path} {ps : List Name}
    (htrim : trimEnd (List.splitOn slash (p.bytes.drop p.front.length)) = trimEnd ps)
    (hback : (trimEnd ps).reverse = []) : p.parent? = if p.front = [dot] then some ⟨[]⟩ else none := by
  rw [parent?, ← front, htrim, hback]

/-- The directory of another path ends in front of the last step. -/
theorem parent?_of_cons {p : Path} {ps before : List Name} {last : Name}
    (htrim : trimEnd (List.splitOn slash (p.bytes.drop p.front.length)) = trimEnd ps)
    (hback : (trimEnd ps).reverse = last :: before) :
    p.parent? = some ⟨p.front ++ List.intercalate [slash] (trimEnd before.reverse)⟩ := by
  rw [parent?, ← front, htrim, hback]

/-- Pieces of which nothing is left have no step. -/
theorem filterMap_of_trimEnd_nil {ps : List Name} (h : (trimEnd ps).reverse = []) :
    ps.filterMap Component.ofPiece? = [] := by
  rw [← filterMap_trimEnd, List.reverse_eq_nil_iff.1 h, List.filterMap_nil]

/-- **The directory of a path** has its components without the last one. -/
theorem components_of_parent? {p q : Path} (h : p.parent? = some q) :
    ∃ c, p.components = q.components ++ [c] := by
  obtain ⟨bytes, opening, ps, hp, hopens, hfree, htrim⟩ := p.exists_opens
  obtain ⟨hfront, hcomponents⟩ := hopens.reading hfree
  rw [← hp] at hfront hcomponents
  rw [← hfront] at htrim
  cases hback : (trimEnd ps).reverse with
  | nil =>
    -- no step at all: only the opening `.` has a directory, and that is the empty path
    rw [parent?_of_nil htrim hback, hfront] at h
    cases hopens with
    | root => cases h
    | here _ =>
      obtain rfl : _ = q := Option.some.inj h
      exact ⟨.here, by rw [hcomponents, filterMap_of_trimEnd_nil hback]; rfl⟩
    | relative _ => cases h
  | cons last before =>
    rw [parent?_of_cons htrim hback, hfront] at h
    obtain rfl : _ = q := Option.some.inj h
    -- a last step: the directory opens as the path does
    have hleft := trimEnd_front_of_reverse hback
    obtain ⟨-, hq⟩ := (hopens.of_prefix hleft).reading (hfree.of_prefix hleft)
    obtain ⟨c, hc⟩ := filterMap_trimEnd_of_reverse hback
    exact ⟨c, by rw [hcomponents, hq, hc, filterMap_trimEnd, List.append_assoc]⟩

/-- Only the empty path and the root have no directory. -/
theorem components_of_parent?_none {p : Path} (h : p.parent? = none) :
    p.components = [] ∨ p.components = [.root] := by
  obtain ⟨bytes, opening, ps, hp, hopens, hfree, htrim⟩ := p.exists_opens
  obtain ⟨hfront, hcomponents⟩ := hopens.reading hfree
  rw [← hp] at hfront hcomponents
  rw [← hfront] at htrim
  cases hback : (trimEnd ps).reverse with
  | nil =>
    rw [parent?_of_nil htrim hback, hfront] at h
    rw [hcomponents, filterMap_of_trimEnd_nil hback]
    cases hopens with
    | root => exact .inr rfl
    | here _ => cases h
    | relative _ => exact .inl rfl
  | cons last before =>
    rw [parent?_of_cons htrim hback] at h
    cases h

/-- The directory of a path is spelled without anything behind its last step, so the working directory and the
    root have one spelling each. -/
theorem eq_of_parent?_of_parent?_none {p q : Path} (h : p.parent? = some q) (hq : q.parent? = none) :
    q = ⟨[]⟩ ∨ q = ⟨[slash]⟩ := by
  have hnone := components_of_parent?_none hq
  obtain ⟨bytes, opening, ps, hp, hopens, hfree, htrim⟩ := p.exists_opens
  obtain ⟨hfront, -⟩ := hopens.reading hfree
  rw [← hp] at hfront
  rw [← hfront] at htrim
  cases hback : (trimEnd ps).reverse with
  | nil =>
    rw [parent?_of_nil htrim hback] at h
    split at h
    · exact .inl (Option.some.inj h).symm
    · cases h
  | cons last before =>
    rw [parent?_of_cons htrim hback, hfront] at h
    obtain rfl : _ = q := Option.some.inj h
    have hleft := trimEnd_front_of_reverse hback
    have hleftFree : AreSlashFree (trimEnd before.reverse) := hfree.of_prefix hleft
    obtain ⟨-, hcomponents⟩ := (hopens.of_prefix hleft).reading hleftFree
    rw [hcomponents, filterMap_trimEnd] at hnone
    cases hopens with
    | root =>
      -- the root is all that there is, so no step is left
      have hsteps : before.reverse.filterMap Component.ofPiece? = [] := by
        rcases hnone with hnil | hroot
        · cases hnil
        · exact (List.cons.inj hroot).2
      rw [trimEnd_of_filterMap_nil hsteps]
      exact .inr rfl
    | here _ =>
      rcases hnone with hnil | hroot
      · cases hnil
      · cases hroot
    | relative _ =>
      have hsteps : before.reverse.filterMap Component.ofPiece? = [] := by
        rcases hnone with hnil | hroot
        · exact hnil
        · -- no piece stands for the root
          have hmem : Component.root ∈ (trimEnd before.reverse).filterMap Component.ofPiece? := by
            rw [filterMap_trimEnd, show before.reverse.filterMap Component.ofPiece? = [.root] from hroot]
            exact List.mem_singleton_self _
          obtain ⟨piece, hpiece, hsome⟩ := List.mem_filterMap.1 hmem
          exact (isStep_of_ofPiece? (hleftFree piece hpiece) hsome).elim
      rw [trimEnd_of_filterMap_nil hsteps]
      exact .inl rfl

/-- Every path in the line of directories has the first components of its lowest one. -/
theorem prefix_of_mem_lineage {fuel : Nat} {p q : Path} (h : q ∈ Files.lineage fuel p) :
    q.components <+: p.components := by
  induction fuel generalizing p with
  | zero => cases h
  | succ fuel ih =>
    rw [Files.lineage] at h
    split at h
    · cases h
    · next parent hparent =>
      split at h
      · cases h
      · rcases List.mem_cons.1 h with rfl | h
        · exact List.prefix_refl _
        · obtain ⟨c, hc⟩ := components_of_parent? hparent
          rw [hc]
          exact (ih h).trans (List.prefix_append _ _)

end Path
end BenchSweep
