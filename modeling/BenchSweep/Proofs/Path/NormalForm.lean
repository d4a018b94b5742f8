/-
  What a normal form looks like.

  The outputs of a plan are compared by their normal forms, so it matters that these are normal: that a place
  has one spelling that is like no other, and that writing it down again changes nothing.  `IsNormalForm` says
  what that spelling looks like, by its text and by the components that are read from it, and without
  `normalise`.

  1. **The text** (`isTidy_iff`).  Behind the root, a text without a `.`, without neighbouring separators and
     without one at its end has no piece that adds nothing.

  2. **The text follows from the way** (`IsNormalForm.ext`).  Each piece of such a text is a step, and each
     step has one piece, so two normal forms that read alike are the same bytes.

  3. **Writing** (`Target.IsNormal.isNormalForm_toPath`).  The path of a target is a normal form.

  4. **Reading and writing** (`normalise_isNormalForm`).  The steps of a normal form are those of its target,
     so `normalise` leaves it as it is, and it leaves no other path as it is.
-/
import BenchSweep.Proofs.Path.Nesting

namespace BenchSweep
namespace Path

/-- The one spelling of a place: names behind the root, or names behind any number of `..`, and nothing in
    the text that adds nothing. -/
structure IsNormalForm (p : Path) : Prop where
  /-- What is read from it: the root or not, so many times up if it is not, and ordinary names. -/
  way : ∃ (ups : Nat) (names : List Name), (∀ n ∈ names, IsOrdinary n) ∧ p.components =
    (if p.isAbsolute then [.root] else List.replicate ups .up) ++ names.map Component.name
  /-- No piece is a `.`. -/
  no_here : [dot] ∉ p.pieces
  /-- No piece is empty between two separators. -/
  no_gap : ¬ [slash, slash] <:+: p.bytes
  /-- No separator trails, unless it is the root itself. -/
  no_trailing : p.bytes.getLast? = some slash → p.bytes = [slash]

/-! ## The text behind the root

  A separator in front is the root, and all others separate.  So the text behind the root is looked at by
  itself: there an empty piece is always one too many. -/

/-- The bytes of a path behind the root, or all of them. -/
def behindRoot (p : Path) : List UInt8 := if p.isAbsolute then p.bytes.tail else p.bytes

/-- Every piece behind the root adds something, if there is anything behind it. -/
def IsTidy (p : Path) : Prop :=
  p.behindRoot ≠ [] → ∀ piece ∈ List.splitOn slash p.behindRoot, piece ≠ [] ∧ piece ≠ [dot]

/-- A path from the root begins with a separator. -/
theorem exists_of_isAbsolute {p : Path} (h : p.isAbsolute = true) : ∃ r, p = ⟨slash :: r⟩ := by
  obtain ⟨bytes⟩ := p
  have hhead : bytes.head? = some slash := by simpa [isAbsolute] using h
  obtain ⟨r, rfl⟩ := List.head?_eq_some_iff.1 hhead
  exact ⟨r, rfl⟩

/-- Another path does not begin with one. -/
theorem head?_ne_of_relative {p : Path} (h : p.isAbsolute = false) : p.bytes.head? ≠ some slash := by
  intro hhead
  rw [isAbsolute, hhead] at h
  exact absurd h (by decide)

/-- The pieces of a path are those behind the root, and an empty one in front of the root. -/
theorem mem_pieces_iff {p : Path} {piece : Name} (h : piece ≠ []) :
    piece ∈ p.pieces ↔ piece ∈ List.splitOn slash p.behindRoot := by
  cases ha : p.isAbsolute with
  | true =>
    obtain ⟨r, rfl⟩ := exists_of_isAbsolute ha
    have hbehind : behindRoot ⟨slash :: r⟩ = r := if_pos ha
    rw [hbehind, pieces, Text.splitOn_cons_self, List.mem_cons, or_iff_right h]
  | false =>
    rw [behindRoot, ha]
    exact Iff.rfl

/-- Separators that stand together or at the end are empty pieces behind the root. -/
theorem nil_mem_splitOn_behindRoot_iff {p : Path} (hne : p.behindRoot ≠ []) :
    [] ∈ List.splitOn slash p.behindRoot ↔
      [slash, slash] <:+: p.bytes ∨ p.bytes.getLast? = some slash ∧ p.bytes ≠ [slash] := by
  rw [Text.nil_mem_splitOn_iff, or_iff_right hne]
  cases ha : p.isAbsolute with
  | true =>
    obtain ⟨r, rfl⟩ := exists_of_isAbsolute ha
    have hbehind : behindRoot ⟨slash :: r⟩ = r := if_pos ha
    rw [hbehind] at hne ⊢
    obtain ⟨last, hlast⟩ := Option.ne_none_iff_exists'.1 (mt List.getLast?_eq_none_iff.1 hne)
    have hwhole : (slash :: r).getLast? = some last := by rw [List.getLast?_cons, hlast]; rfl
    have hgap : [slash, slash] <:+: slash :: r ↔ r.head? = some slash ∨ [slash, slash] <:+: r := by
      rw [List.infix_cons_iff, List.cons_prefix_cons, and_iff_right rfl, List.singleton_prefix_iff_head?_eq_some]
    have hmore : slash :: r ≠ [slash] := fun h => hne (List.cons.inj h).2
    show _ ↔ [slash, slash] <:+: slash :: r ∨ (slash :: r).getLast? = some slash ∧ slash :: r ≠ [slash]
    rw [hgap, hwhole, hlast, and_iff_left hmore]
    tauto
  | false =>
    have hbehind : p.behindRoot = p.bytes := by rw [behindRoot, ha]; rfl
    have hhead := head?_ne_of_relative ha
    have hmore : p.bytes ≠ [slash] := by
      intro h
      rw [h] at hhead
      exact hhead rfl
    rw [hbehind, or_iff_right hhead, and_iff_left hmore]
    exact or_comm

/-- Such a text has nothing in it that adds nothing. -/
theorem isTidy_iff {p : Path} : p.IsTidy ↔ [dot] ∉ p.pieces ∧ ¬ [slash, slash] <:+: p.bytes ∧
    (p.bytes.getLast? = some slash → p.bytes = [slash]) := by
  rw [mem_pieces_iff (by decide)]
  by_cases hne : p.behindRoot = []
  · -- the root alone, or nothing at all
    have hbytes : p.bytes = [] ∨ p.bytes = [slash] := by
      cases ha : p.isAbsolute with
      | true =>
        obtain ⟨r, rfl⟩ := exists_of_isAbsolute ha
        have hr : r = [] := (if_pos ha : behindRoot ⟨slash :: r⟩ = r).symm.trans hne
        exact .inr (congrArg (slash :: ·) hr)
      | false =>
        rw [behindRoot, ha] at hne
        exact .inl hne
    refine iff_of_true (fun h => absurd hne h) ⟨?_, ?_, ?_⟩
    · rw [hne]
      decide
    · intro hgap
      have hlength := hgap.length_le
      rcases hbytes with hbytes | hbytes
      · rw [hbytes] at hlength
        exact absurd hlength (by decide)
      · rw [hbytes] at hlength
        exact absurd hlength (by decide)
    · intro hlast
      rcases hbytes with hbytes | hbytes
      · rw [hbytes] at hlast
        cases hlast
      · exact hbytes
  · -- pieces that add nothing are dots and empty ones, and an empty one shows in the text
    have hempty := nil_mem_splitOn_behindRoot_iff hne
    constructor
    · intro h
      have htidy := h hne
      refine ⟨fun hdot => (htidy _ hdot).2 rfl, fun hgap => ?_, fun hlast => ?_⟩
      · exact (htidy _ (hempty.2 (.inl hgap))).1 rfl
      · by_contra hroot
        exact (htidy _ (hempty.2 (.inr ⟨hlast, hroot⟩))).1 rfl
    · rintro ⟨hdot, hgap, hlast⟩ - piece hpiece
      constructor
      · rintro rfl
        rcases hempty.1 hpiece with hbetween | ⟨htrails, hroot⟩
        · exact hgap hbetween
        · exact hroot (hlast htrails)
      · rintro rfl
        exact hdot hpiece

/-- The text of a normal form is tidy. -/
theorem IsNormalForm.isTidy {p : Path} (h : p.IsNormalForm) : p.IsTidy :=
  isTidy_iff.2 ⟨h.no_here, h.no_gap, h.no_trailing⟩

/-! ## The text follows from the way

  A tidy path has no piece too many, so its bytes are determined by its components and by whether it is
  absolute. -/

/-- The piece of a component. -/
def Component.piece : Component → Name
  | .root => []
  | .here => [dot]
  | .up => [dot, dot]
  | .name n => n

/-- Pieces that add something are the pieces of their components. -/
theorem map_piece_filterMap {ps : List Name} (h : ∀ piece ∈ ps, piece ≠ [] ∧ piece ≠ [dot]) :
    (ps.filterMap Component.ofPiece?).map Component.piece = ps := by
  induction ps with
  | nil => rfl
  | cons piece ps ih =>
    obtain ⟨⟨hnil, hdot⟩, hps⟩ := List.forall_mem_cons.1 h
    have hblank : ¬ (piece = [] ∨ piece = [dot]) := not_or.2 ⟨hnil, hdot⟩
    by_cases hup : piece = [dot, dot]
    · have hsome : Component.ofPiece? piece = some .up := by
        rw [Component.ofPiece?, if_neg hblank, if_pos hup]
      rw [List.filterMap_cons_some hsome, List.map_cons, ih hps, hup]
      rfl
    · have hsome : Component.ofPiece? piece = some (.name piece) := by
        rw [Component.ofPiece?, if_neg hblank, if_neg hup]
      rw [List.filterMap_cons_some hsome, List.map_cons, ih hps]
      rfl

/-- Without a dot among the pieces, the components are the root, if it is there, and those of the pieces
    behind. -/
theorem components_of_no_here {p : Path} (h : [dot] ∉ p.pieces) : p.components =
    (if p.isAbsolute then [.root] else []) ++ (List.splitOn slash p.behindRoot).filterMap Component.ofPiece? := by
  cases ha : p.isAbsolute with
  | true =>
    obtain ⟨r, rfl⟩ := exists_of_isAbsolute ha
    have hbehind : behindRoot ⟨slash :: r⟩ = r := if_pos ha
    have hpieces : pieces ⟨slash :: r⟩ = [] :: List.splitOn slash r := by rw [pieces, Text.splitOn_cons_self]
    rw [components, if_pos ha, hpieces, hbehind, List.filterMap_cons_none rfl]
    rfl
  | false =>
    have hbehind : p.behindRoot = p.bytes := by rw [behindRoot, ha]; rfl
    have hfirst : p.pieces.head? ≠ some [dot] := fun hhead => h (List.mem_of_head? hhead)
    rw [components, if_neg (Bool.eq_false_iff.1 ha), if_neg hfirst, hbehind]
    rfl

/-- The text behind the root is made of the pieces of its steps. -/
theorem IsTidy.behindRoot_eq {p : Path} (h : p.IsTidy) : p.behindRoot =
    List.intercalate [slash]
      (((List.splitOn slash p.behindRoot).filterMap Component.ofPiece?).map Component.piece) := by
  by_cases hne : p.behindRoot = []
  · rw [hne]
    rfl
  · rw [map_piece_filterMap (h hne), List.intercalate_splitOn]

/-- The bytes of a path are the root, if it is there, and the text behind it. -/
theorem bytes_eq (p : Path) : p.bytes = (if p.isAbsolute then [slash] else []) ++ p.behindRoot := by
  cases ha : p.isAbsolute with
  | true =>
    obtain ⟨r, rfl⟩ := exists_of_isAbsolute ha
    rfl
  | false =>
    rw [behindRoot, ha]
    rfl

/-- **The text follows from the way.**  Normal forms that read alike are equal. -/
theorem IsNormalForm.ext {p q : Path} (hp : p.IsNormalForm) (hq : q.IsNormalForm)
    (habsolute : p.isAbsolute = q.isAbsolute) (h : p.components = q.components) : p = q := by
  rw [components_of_no_here hp.no_here, components_of_no_here hq.no_here, habsolute] at h
  have hsteps := List.append_cancel_left h
  have hbehind : p.behindRoot = q.behindRoot := by rw [hp.isTidy.behindRoot_eq, hsteps, ← hq.isTidy.behindRoot_eq]
  have hbytes : p.bytes = q.bytes := by rw [bytes_eq p, bytes_eq q, habsolute, hbehind]
  exact congrArg Path.mk hbytes

/-! ## Writing

  What a target is written as is tidy, and reading it again gives the components of the target. -/

namespace Target

/-- The path of a normal target is from the root if the target is. -/
theorem IsNormal.isAbsolute_toPath {t : Target} (ht : t.IsNormal) : t.toPath.isAbsolute = t.absolute := by
  cases ha : t.absolute with
  | true =>
    rw [toPath_of_absolute ha]
    rfl
  | false =>
    rw [toPath_of_relative ha]
    rw [Bool.eq_false_iff]
    intro habsolute
    obtain ⟨r, hr⟩ := exists_of_isAbsolute habsolute
    exact join_ne_slash_cons ht.isSolid_pieces r (Path.mk.inj hr)

/-- Behind the root of its path stand the pieces of a normal target. -/
theorem IsNormal.behindRoot_toPath {t : Target} (ht : t.IsNormal) :
    t.toPath.behindRoot = List.intercalate [slash] t.pieces := by
  have habsolute := ht.isAbsolute_toPath
  cases ha : t.absolute with
  | true =>
    have hpieces : t.pieces = t.names.reverse := by
      rw [pieces, ht.ups_eq_zero ha]
      rfl
    rw [behindRoot, habsolute, ha, hpieces, toPath_of_absolute ha]
    rfl
  | false =>
    rw [behindRoot, habsolute, ha, toPath_of_relative ha]
    rfl

/-- The path of a normal target is tidy: its pieces are solid, and none of them is a dot. -/
theorem IsNormal.isTidy_toPath {t : Target} (ht : t.IsNormal) : t.toPath.IsTidy := by
  intro hne piece hpiece
  rw [ht.behindRoot_toPath] at hne hpiece
  have hsome : t.pieces ≠ [] := by
    intro hnil
    rw [hnil] at hne
    exact hne rfl
  rw [List.splitOn_intercalate _ (fun p hp => (ht.isSolid_pieces p hp).2) hsome] at hpiece
  refine ⟨(ht.isSolid_pieces piece hpiece).1, ?_⟩
  rintro rfl
  exact ht.ofPiece?_ne_none hpiece rfl

/-- **Writing.**  The path of a target is a normal form. -/
theorem IsNormal.isNormalForm_toPath {t : Target} (ht : t.IsNormal) : t.toPath.IsNormalForm := by
  obtain ⟨hhere, hgap, htrailing⟩ := isTidy_iff.1 ht.isTidy_toPath
  refine ⟨⟨t.ups, t.names.reverse, ?_, ?_⟩, hhere, hgap, htrailing⟩
  · intro n hn
    exact ht.ordinary n (List.mem_reverse.1 hn)
  · rw [ht.components_toPath, ht.isAbsolute_toPath, steps]
    cases ha : t.absolute with
    | true =>
      rw [ht.ups_eq_zero ha]
      rfl
    | false => rfl

/-! ## Reading

  A target is read from a path component by component, and each of them adds a step, takes one away, or has
  no effect.  In a normal form none is taken away. -/

/-- Going up again and again is counted, if nothing was entered. -/
theorem foldl_step_ups (k u : Nat) :
    (List.replicate k Component.up).foldl step ⟨false, u, []⟩ = ⟨false, u + k, []⟩ := by
  -- on how often, for every count that was reached before
  induction k generalizing u with
  | zero => rfl
  | succ k ih =>
    rw [List.replicate_succ, List.foldl_cons]
    show (List.replicate k Component.up).foldl step ⟨false, u + 1, []⟩ = _
    rw [ih, Nat.add_assoc, Nat.add_comm 1 k]

/-- One component adds one step at most. -/
theorem IsNormal.length_steps_step {t : Target} (ht : t.IsNormal) {c : Component} (hc : c.IsStep) :
    (t.step c).steps.length ≤ t.steps.length + 1 := by
  rcases ht.steps_step hc with hmore | hless
  · rw [hmore, List.length_append]
    exact Nat.le_refl _
  · exact Nat.le_succ_of_le hless.length_le

/-- Components add one step each at most. -/
theorem IsNormal.length_steps_foldl {t : Target} (ht : t.IsNormal) {cs : List Component}
    (hcs : ∀ c ∈ cs, c.IsStep) : (cs.foldl Target.step t).steps.length ≤ t.steps.length + cs.length := by
  induction cs generalizing t with
  | nil => exact Nat.le_refl _
  | cons c cs ih =>
    obtain ⟨hc, hothers⟩ := List.forall_mem_cons.1 hcs
    have hone := ht.length_steps_step hc
    have hrest := ih (ht.step hc) hothers
    rw [List.foldl_cons, List.length_cons]
    omega

end Target

/-- What a way comes to has no more steps than the way has components. -/
theorem IsWay.length_steps {cs : List Component} (h : IsWay cs) :
    (cs.foldl Target.step .start).steps.length ≤ cs.length := by
  have hway : IsWay cs := h
  obtain ⟨opening, others, rfl, hopening, hothers⟩ := h
  have hopened : (opening.foldl Target.step .start).IsNormal := (hway.of_prefix (List.prefix_append _ _)).isNormal
  have hlength : (opening.foldl Target.step .start).steps.length ≤ opening.length := by
    rcases hopening with rfl | rfl | rfl
    · exact Nat.le_refl _
    · exact Nat.zero_le _
    · exact Nat.le_refl _
  have hrest := hopened.length_steps_foldl hothers
  rw [List.foldl_append, List.length_append]
  omega

/-- The target of a path is from the root if the path is. -/
theorem absolute_target (p : Path) : p.target.absolute = p.isAbsolute := by
  have hsteps : ∀ c ∈ p.pieces.filterMap Component.ofPiece?, Component.IsStep c := by
    intro c hc
    obtain ⟨piece, hpiece, hsome⟩ := List.mem_filterMap.1 hc
    exact isStep_of_ofPiece? (Text.not_mem_of_mem_splitOn hpiece) hsome
  rw [target, components]
  cases ha : p.isAbsolute with
  | true =>
    rw [if_pos rfl, List.foldl_cons, Target.absolute_foldl hsteps]
    rfl
  | false =>
    rw [if_neg Bool.false_ne_true]
    split
    · rw [List.foldl_cons, Target.absolute_foldl hsteps]
      rfl
    · rw [Target.absolute_foldl hsteps]
      rfl

/-- The steps of a normal form are all of its components. -/
theorem IsNormalForm.steps_target {p : Path} (h : p.IsNormalForm) : p.target.steps = p.components := by
  obtain ⟨ups, names, hordinary, hway⟩ := h.way
  have hsteps : ∀ c ∈ names.map Component.name, c.IsStep := by
    intro c hc
    obtain ⟨n, hn, rfl⟩ := List.mem_map.1 hc
    exact hordinary n hn
  have hup : Component.up ∉ names.map Component.name := by
    intro hmem
    obtain ⟨n, -, hn⟩ := List.mem_map.1 hmem
    cases hn
  rw [target, hway, List.foldl_append, Target.steps_foldl hsteps hup]
  cases ha : p.isAbsolute with
  | true => rfl
  | false =>
    show ((List.replicate ups Component.up).foldl Target.step ⟨false, 0, []⟩).steps ++ _ = _
    rw [Target.foldl_step_ups, Nat.zero_add, Target.steps]
    simp

/-- The normal form of a path is from the root if the path is. -/
theorem isAbsolute_normalise (p : Path) : p.normalise.isAbsolute = p.isAbsolute :=
  p.target_isNormal.isAbsolute_toPath.trans p.absolute_target

/-- A normal form is left as it is: it and its own normal form are both normal and read alike. -/
theorem normalise_of_isNormalForm {p : Path} (h : p.IsNormalForm) : p.normalise = p := by
  refine p.target_isNormal.isNormalForm_toPath.ext h p.isAbsolute_normalise ?_
  rw [p.target_isNormal.components_toPath, h.steps_target]

/-- **What a normal form looks like.**  `normalise` gives a normal form, from the root exactly if the path is,
    with no more components than the path has.  Normalising once more changes nothing; and the paths that
    `normalise` leaves as they are, are the normal forms. -/
theorem normalise_isNormalForm (p : Path) :
    p.normalise.IsNormalForm ∧ p.normalise.isAbsolute = p.isAbsolute ∧
      p.normalise.components.length ≤ p.components.length ∧
      p.normalise.normalise = p.normalise ∧ (p.normalise = p ↔ p.IsNormalForm) := by
  have hnormal : p.normalise.IsNormalForm := p.target_isNormal.isNormalForm_toPath
  refine ⟨hnormal, p.isAbsolute_normalise, ?_, normalise_of_isNormalForm hnormal, ?_⟩
  · rw [components_normalise]
    exact p.components_isWay.length_steps
  · constructor
    · intro h
      rw [← h]
      exact hnormal
    · exact normalise_of_isNormalForm

end Path
end BenchSweep
