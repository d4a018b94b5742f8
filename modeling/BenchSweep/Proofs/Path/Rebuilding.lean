/-
  The normal form, written and read again.

  The program keeps its normal form as a path all along.  It pushes a name, and at a `..` it reads its own
  path again: if that ends with a name, the name is popped, behind the root nothing is done, and elsewhere
  the `..` is pushed.  `normalise` follows the components without writing anything until the end.  Both give
  one path (`rebuild_eq_normalise`), and the invariant that shows it is that the path so far is the path of
  the target so far.

  1. **Pushing** (`append_piece`).  A piece goes behind pieces with one separator in between, whether these
     stand below the root or not.

  2. **Reading** (`IsNormal.getLast?_components_toPath`).  The path of a normal target ends with the last name
     of the target, or with a `..`, or with the root, or it is empty.

  3. **Popping** (`IsNormal.parent?_toPath`).  Nothing trails in the path of a normal target, so its directory
     is the path without the last name.
-/
import BenchSweep.Proofs.Path.Nesting

namespace BenchSweep
namespace Path

/-! ## Pushing -/

/-- One more piece behind others stands behind a separator. -/
theorem intercalate_concat {ps : List Name} (hne : ps ≠ []) (piece : Name) :
    List.intercalate [slash] (ps ++ [piece]) = List.intercalate [slash] ps ++ slash :: piece := by
  obtain ⟨p, ps, rfl⟩ := List.exists_cons_of_ne_nil hne
  rw [List.cons_append, Text.intercalate_cons, Text.intercalate_cons, List.flatMap_append,
    List.flatMap_singleton, List.append_assoc]

/-- Solid pieces do not end with a separator. -/
theorem getLast?_intercalate_ne {ps : List Name} (h : ∀ p ∈ ps, IsSolid p) :
    (List.intercalate [slash] ps).getLast? ≠ some slash := by
  intro hlast
  rcases List.eq_nil_or_concat ps with rfl | ⟨front, last, rfl⟩
  · cases hlast
  · obtain ⟨hne, hslash⟩ := h last (by simp)
    -- the last byte is the last one of the last piece
    have hend : (List.intercalate [slash] (front ++ [last])).getLast? = last.getLast? := by
      by_cases hfront : front = []
      · rw [hfront, List.nil_append, List.intercalate_singleton]
      · rw [intercalate_concat hfront, List.getLast?_append_of_ne_nil _ (List.cons_ne_nil _ _)]
        exact List.getLast?_cons_of_ne_nil hne
    rw [List.concat_eq_append] at hlast
    exact hslash (List.mem_of_getLast? (hend.symm.trans hlast))

/-- **Pushing.**  A piece that is pushed goes behind the others, below the root or not. -/
theorem append_piece {ps : List Name} (h : ∀ p ∈ ps, IsSolid p) {piece : Name} (hpiece : IsSolid piece) :
    append ⟨List.intercalate [slash] ps⟩ ⟨piece⟩ = ⟨List.intercalate [slash] (ps ++ [piece])⟩ ∧
      append ⟨slash :: List.intercalate [slash] ps⟩ ⟨piece⟩ =
        ⟨slash :: List.intercalate [slash] (ps ++ [piece])⟩ := by
  have hrelative : isAbsolute ⟨piece⟩ = false := by
    rw [← isAbsolute_of_solid hpiece [], List.intercalate_singleton]
  rw [append, append, hrelative, if_neg Bool.false_ne_true, if_neg Bool.false_ne_true]
  by_cases hps : ps = []
  · subst hps
    rw [List.nil_append, List.intercalate_singleton]
    exact ⟨rfl, rfl⟩
  · have hne : List.intercalate [slash] ps ≠ [] := fun heq => hps ((join_eq_nil_iff h).1 heq)
    have hlast := getLast?_intercalate_ne h
    have hlast' : (slash :: List.intercalate [slash] ps).getLast? ≠ some slash := by
      rwa [List.getLast?_cons_of_ne_nil hne]
    rw [intercalate_concat hps]
    constructor
    · exact if_neg (by simp [isEmpty, hne, hlast])
    · exact if_neg (by simp [isEmpty, hlast'])

/-! ## Popping -/

/-- Where every piece is a step, nothing is taken off the end. -/
theorem trimEnd_eq_self {ps : List Name} (h : ∀ p ∈ ps, Component.ofPiece? p ≠ none) : trimEnd ps = ps := by
  have hkept : ps.reverse.dropWhile (fun n => (Component.ofPiece? n).isNone) = ps.reverse := by
    rw [List.dropWhile_eq_self_iff]
    intro hlength hnone
    exact h _ (List.mem_reverse.1 (List.getElem_mem hlength)) (Option.isNone_iff_eq_none.1 hnone)
  rw [trimEnd, hkept, List.reverse_reverse]

/-- **Popping.**  Where every piece is a step, the directory of a path is the path without the last piece. -/
theorem Opens.parent?_of_steps {bytes : List UInt8} {opening : List Component} {ps : List Name} {last : Name}
    (h : Opens bytes opening (ps ++ [last])) (hfree : AreSlashFree (ps ++ [last]))
    (hsteps : ∀ p ∈ ps ++ [last], Component.ofPiece? p ≠ none) :
    parent? ⟨bytes ++ List.intercalate [slash] (ps ++ [last])⟩ =
      some ⟨bytes ++ List.intercalate [slash] ps⟩ := by
  have hfront := (h.reading hfree).1
  have htrim : trimEnd (List.splitOn slash ((bytes ++ List.intercalate [slash] (ps ++ [last])).drop
      (front ⟨bytes ++ List.intercalate [slash] (ps ++ [last])⟩).length)) = trimEnd (ps ++ [last]) := by
    rw [hfront, List.drop_left, List.splitOn_intercalate _ hfree (by simp)]
  have hback : (trimEnd (ps ++ [last])).reverse = last :: ps.reverse := by
    rw [trimEnd_eq_self hsteps, List.reverse_concat]
  rw [parent?_of_cons htrim hback, hfront, List.reverse_reverse,
    trimEnd_eq_self fun p hp => hsteps p (List.mem_append_left _ hp)]

namespace Target

/-- The path of a normal target without its last name. -/
theorem IsNormal.parent?_toPath {absolute : Bool} {ups : Nat} {n : Name} {names : List Name}
    (ht : IsNormal ⟨absolute, ups, n :: names⟩) :
    (toPath ⟨absolute, ups, n :: names⟩).parent? = some (toPath ⟨absolute, ups, names⟩) := by
  cases absolute with
  | true =>
    have hnames : ∀ p ∈ names.reverse ++ [n], IsOrdinary p := fun p hp =>
      ht.ordinary p (List.mem_reverse.1 (by rwa [List.reverse_cons]))
    have hsteps : ∀ p ∈ names.reverse ++ [n], Component.ofPiece? p ≠ none := fun p hp =>
      ne_of_eq_of_ne (ofPiece?_of_isOrdinary (hnames p hp)) (Option.some_ne_none _)
    have hopens : Opens [slash] [.root] (names.reverse ++ [n]) := .root
    rw [toPath_of_absolute rfl, toPath_of_absolute rfl, List.reverse_cons]
    exact hopens.parent?_of_steps (fun p hp => (hnames p hp).2.2.2) hsteps
  | false =>
    have hpieces : pieces ⟨false, ups, n :: names⟩ = pieces ⟨false, ups, names⟩ ++ [n] := by
      rw [pieces, pieces, List.reverse_cons, List.append_assoc]
    have hsteps : ∀ p ∈ pieces ⟨false, ups, names⟩ ++ [n], Component.ofPiece? p ≠ none :=
      fun p hp => ht.ofPiece?_ne_none (hpieces ▸ hp)
    rw [toPath_of_relative rfl, toPath_of_relative rfl, hpieces]
    have hopens : Opens [] [] (pieces ⟨false, ups, names⟩ ++ [n]) :=
      .relative fun p hp => hsteps p (List.mem_of_head? hp)
    exact hopens.parent?_of_steps (fun p hp => (ht.isSolid_pieces p (hpieces ▸ hp)).2) hsteps

/-! ## One component further -/

/-- A name is pushed behind the path of a target. -/
theorem IsNormal.append_name {t : Target} (ht : t.IsNormal) {n : Name} (hn : IsOrdinary n) :
    t.toPath.append ⟨n⟩ = (t.step (.name n)).toPath := by
  have hsolid : IsSolid n := ⟨hn.1, hn.2.2.2⟩
  obtain ⟨absolute, ups, names⟩ := t
  cases absolute with
  | true =>
    rw [toPath_of_absolute rfl, (append_piece ht.isSolid_names hsolid).2]
    show _ = toPath ⟨true, ups, n :: names⟩
    rw [toPath_of_absolute rfl, List.reverse_cons]
  | false =>
    rw [toPath_of_relative rfl, (append_piece ht.isSolid_pieces hsolid).1, pieces, List.append_assoc,
      ← List.reverse_cons]
    rfl

/-- **One component further.**  What is put down behind the path of a normal target makes it the path of the
    next target. -/
theorem IsNormal.putDown_toPath {t : Target} (ht : t.IsNormal) {c : Component} (hc : c.IsStep) :
    t.toPath.putDown c = (t.step c).toPath := by
  cases c with
  | root => exact hc.elim
  | here => exact hc.elim
  | name n => exact ht.append_name hc
  | up =>
    rw [putDown, ht.components_toPath]
    obtain ⟨absolute, ups, names⟩ := t
    cases names with
    | cons n names =>
      -- a name at the end is popped
      have hlast : (steps ⟨absolute, ups, n :: names⟩).getLast? = some (.name n) := by
        rw [show (⟨absolute, ups, n :: names⟩ : Target) = Target.step ⟨absolute, ups, names⟩ (.name n) from rfl,
          steps_name, List.getLast?_concat]
      rw [hlast]
      dsimp only
      rw [ht.parent?_toPath, Option.getD_some]
      rfl
    | nil =>
      cases absolute with
      | true =>
        obtain rfl : ups = 0 := ht.ups_eq_zero rfl
        rfl
      | false =>
        -- there is nothing to pop, and what the path ends with is no name
        have hpush : append (toPath ⟨false, ups, []⟩) ⟨[dot, dot]⟩ = toPath ⟨false, ups + 1, []⟩ := by
          rw [toPath_of_relative rfl, (append_piece ht.isSolid_pieces ⟨by decide, by decide⟩).1, pieces,
            List.reverse_nil, List.append_nil, ← List.replicate_succ', toPath_of_relative rfl, pieces,
            List.reverse_nil, List.append_nil]
        cases ups with
        | zero => exact hpush
        | succ ups =>
          have hlast : (steps ⟨false, ups + 1, []⟩).getLast? = some .up := by
            show ([] ++ List.replicate (ups + 1) Component.up ++ []).getLast? = _
            rw [List.nil_append, List.append_nil, List.replicate_succ', List.getLast?_concat]
          rw [hlast]
          exact hpush

/-- The same for a whole way: the path so far is that of the target so far. -/
theorem IsNormal.foldl_putDown {cs : List Component} (hcs : ∀ c ∈ cs, c.IsStep) {t : Target} (ht : t.IsNormal) :
    cs.foldl putDown t.toPath = (cs.foldl Target.step t).toPath := by
  induction cs generalizing t with
  | nil => rfl
  | cons c cs ih =>
    have hc : c.IsStep := hcs c List.mem_cons_self
    rw [List.foldl_cons, List.foldl_cons, ht.putDown_toPath hc]
    exact ih (fun d hd => hcs d (List.mem_cons_of_mem c hd)) (ht.step hc)

end Target

/-- **The program's normal form** is that of the target. -/
theorem rebuild_eq_normalise (p : Path) : p.rebuild = p.normalise := by
  obtain ⟨opening, steps, heq, hopening, hsteps⟩ := p.components_isWay
  rw [rebuild, normalise, target, heq, List.foldl_append, List.foldl_append]
  -- the root is pushed onto nothing, and a `.` in front is passed over
  have hopened : opening.foldl putDown ⟨[]⟩ = (opening.foldl Target.step .start).toPath ∧
      (opening.foldl Target.step .start).IsNormal := by
    rcases hopening with rfl | rfl | rfl
    · exact ⟨rfl, Target.isNormal_start⟩
    · exact ⟨rfl, Target.isNormal_start⟩
    · exact ⟨rfl, fun _ => rfl, fun n hn => by cases hn⟩
  rw [hopened.1]
  exact hopened.2.foldl_putDown hsteps

example : (ofString "../a/./b/../../../c").rebuild = ofString "../../c" := by decide +kernel

end Path
end BenchSweep
