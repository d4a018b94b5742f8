/-
  A plan that is written is read back as it was.

  What is written is the document of the plan (`exists_toText?_read?`), and the document has the shape of the
  plan (`ofDocument_document`): every field has the type it is asked for, the numbers fit because they were
  words, the axes come in the order of their families, and a path that was a text has the bytes of that
  text.  Nothing of this asks for a valid plan.

  The one thing that cannot be written is a path whose bytes are no text.
-/
import BenchSweep.Matrix
import BenchSweep.Proofs.Plan.Document
import BenchSweep.Proofs.Utf8

namespace BenchSweep

/-- A table is known by its entries. -/
theorem Keyed.eq_of_entries_eq {α : Type} {s t : Keyed α} (h : s.entries = t.entries) : s = t := by
  cases s
  cases t
  obtain rfl : _ = _ := h
  rfl

namespace Plan
namespace Shape

open Toml (Value)

/-! ## Fields

  One lemma for each kind of field: what the document has for it is read as what was written.  The readers
  check types and ranges, and both hold because the values came from a plan. -/

/-- A word that was written as an integer is in the range that is read. -/
theorem word_wordValue (n : UInt32) : word (wordValue n) = .ok n := by
  have hrange : (0 : Int) ≤ n.toNat ∧ (n.toNat : Int) < UInt32.size :=
    ⟨Int.natCast_nonneg _, Int.ofNat_lt.2 n.toNat_lt_size⟩
  simp only [wordValue, word, if_pos hrange, Int.toNat_natCast, UInt32.ofNat_toNat]

/-- The levels of an axis are read back as they are, with no check of their own. -/
theorem axis_axisEntry (entry : String × Axis) : axis (axisEntry entry).2 = .ok entry.2 := by
  have hlevels := mapM_map_eq_ok fun n (_ : n ∈ entry.2.levels) => word_wordValue n
  simp only [axis, axisEntry, list, ok_bind, hlevels]
  rfl

/-- Axes that come in the order of their families are added at the end. -/
theorem foldlM_axes {es : List (String × Axis)} {t : Keyed Axis}
    (h : (t.entries ++ es).Pairwise fun a b => a.1 < b.1) :
    (es.map axisEntry).foldlM (fun t (key, v) => return t.insert key (← axis v)) t =
      .ok ⟨t.entries ++ es, h⟩ := by
  induction es generalizing t with
  | nil => exact congrArg Except.ok (Keyed.eq_of_entries_eq (List.append_nil _).symm)
  | cons e es ih =>
    -- each family comes after those that the table has, so it goes to the end
    have hlt : ∀ d ∈ t.entries, d.1 < e.1 := fun d hd =>
      (List.pairwise_append.1 h).2.2 d hd e List.mem_cons_self
    have hentries : (t.insert e.1 e.2).entries = t.entries ++ [e] := Keyed.place_of_all_lt hlt e.2
    have hrest : ((t.insert e.1 e.2).entries ++ es).Pairwise fun a b => a.1 < b.1 := by
      rw [hentries, List.append_assoc]
      exact h
    rw [List.map_cons, List.foldlM_cons]
    simp only [axis_axisEntry]
    -- the table that is reached is known by its entries
    refine (ih hrest).trans (congrArg Except.ok (Keyed.eq_of_entries_eq ?_))
    show (t.insert e.1 e.2).entries ++ es = t.entries ++ e :: es
    rw [hentries, List.append_assoc]
    rfl

/-- So the axes of a plan are read back, for their families ascend. -/
theorem axes_document (t : Keyed Axis) : axes (.table (t.entries.map axisEntry)) = .ok t :=
  foldlM_axes (t := .empty) t.ascending

/-- The settings of the harness are read back. -/
theorem harness_document (h : HarnessSettings) : harness (.table (harnessEntries h)) = .ok h := by
  simp only [harness, entries?, harnessEntries, List.foldlM_cons, List.foldlM_nil, harnessField,
    word_wordValue, text, flag, ok_bind, pure_bind]
  rfl

/-- An experiment is read back if its output could be written. -/
theorem experiment_document {e : Experiment} (h : e.output.text?.isSome = true) :
    experiment (.table (experimentEntries e)) = .ok e := by
  obtain ⟨output, ho⟩ := Option.isSome_iff_exists.1 h
  have hpath : Path.ofString (outputText e) = e.output := by
    rw [outputText, ho]
    exact Path.ofString_of_text? ho
  simp only [experiment, entries?, experimentEntries, List.foldlM_cons, List.foldlM_nil, experimentField,
    word_wordValue, text, flag, path, hpath, ok_bind, pure_bind, ExperimentDraft.finish, required]
  rfl

end Shape

/-! ## Whole plans

  A document is read field by field into a draft, and the draft is finished into a plan.  Nothing is left to
  its default, since every field is written. -/

/-- The document of a plan has the shape of the plan. -/
theorem ofDocument_document {plan : Plan} (h : ∀ e ∈ plan.experiments, e.output.text?.isSome = true) :
    ofDocument (document plan) = .ok plan := by
  -- the fields come in the order of the document; each puts its own part into the draft
  have hexperiments := mapM_map_eq_ok fun e he => Shape.experiment_document (h e he)
  have hnames := mapM_map_eq_ok (f := Shape.text) (g := Toml.Value.string)
    fun name (_ : name ∈ plan.subjects.names) => rfl
  simp only [ofDocument, document, List.foldlM_cons, List.foldlM_nil, Shape.field, Shape.axes_document,
    Shape.harness_document, Shape.word_wordValue, Shape.list, Shape.text, hexperiments, hnames, ok_bind,
    pure_bind, Shape.Draft.finish, Shape.required]
  rfl

/-- A path that cannot be written keeps the whole plan from being written. -/
theorem toText?_eq_none {plan : Plan} {e : Experiment} (he : e ∈ plan.experiments)
    (h : e.output.text? = none) : plan.toText? = none := by
  have hnone : Written.experiment e = none := by
    rw [Written.experiment, h]
    rfl
  rw [toText?, mapM_eq_none he hnone]
  rfl

/-- If the bytes of every output path are a text, the plan can be written, and what is written is read
    as the plan itself; if those of some output path are no text, it cannot be written. -/
theorem ofText_toText (plan : Plan) :
    ((∀ e ∈ plan.experiments, ∃ s : String, e.output.bytes = s.toByteArray.data.toList) →
      ∃ text, plan.toText? = some text ∧ ofText text = .ok plan) ∧
    ((∃ e ∈ plan.experiments, ∀ s : String, e.output.bytes ≠ s.toByteArray.data.toList) →
      plan.toText? = none) := by
  constructor
  · intro h
    have htexts : ∀ e ∈ plan.experiments, e.output.text?.isSome = true :=
      fun e he => Path.text?_isSome_iff.2 (h e he)
    obtain ⟨text, htext, hread⟩ := exists_toText?_read? htexts
    refine ⟨text, htext, ?_⟩
    rw [ofText, hread]
    show (ofDocument (document plan)).mapError TextFault.shape = _
    rw [ofDocument_document htexts]
    rfl
  · rintro ⟨e, he, hbytes⟩
    refine toText?_eq_none he (Option.not_isSome_iff_eq_none.1 fun hsome => ?_)
    obtain ⟨s, hs⟩ := Path.text?_isSome_iff.1 hsome
    exact hbytes s hs

/-- The built-in plan for the queue can be written and is read back; with a byte in an output path that
    no text has, it can no longer be written. -/
theorem ofText_toText_crturn :
    (∃ text, (Matrix.plan .crturn).toText? = some text ∧ ofText text = .ok (Matrix.plan .crturn)) ∧
      { Matrix.plan .crturn with
        experiments := [{ name := "queue", family := "queue", selector := 11, mode := 3,
                          output := ⟨[0xFF]⟩ }] }.toText? = none := by
  refine ⟨(ofText_toText _).1 fun e he => ?_, (ofText_toText _).2 ⟨_, List.mem_singleton.2 rfl, ?_⟩⟩
  · obtain ⟨_, -, rfl⟩ := List.mem_map.1 he
    exact ⟨_, Text.Utf8.encode_eq_toByteArray _⟩
  · intro s hs
    have htext : (⟨[0xFF]⟩ : Path).text?.isSome = true := Path.text?_isSome_iff.2 ⟨s, hs⟩
    exact absurd htext (by decide)

end Plan
end BenchSweep
