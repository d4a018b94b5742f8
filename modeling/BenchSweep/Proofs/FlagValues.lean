/-
  What is found behind a flag.

  `flagValue` and `metaArguments` look for a flag by what a word is and not by where it stands: every word
  that is equal to the flag is taken for it, also one that is a value or a free text.  Of the words of a
  request only the action can be taken for a flag.

  1. **Words** (`metaArguments_eq`, `flagValue_eq`).  Both look at the words behind a flag: `metaArguments`
     takes all of them, and `flagValue` the first one.

  2. **Items** (`wordsBehind_items`).  The words behind the action are words of their own and flags with a
     value.  If none of these ends in the flag, then the words behind the flag are its values.  Nothing is
     asked of the last value: no word stands behind it.

  3. **Texts** (`Parameters.text_not_mem_valueFlags`).  No item of a request ends in a flag that takes a
     value.  A number is made of digits, a definition starts with `-d`, the texts of the axis and of the
     subjects start with a letter; and the output, which may be any text, is the last value.

  4. **Requests** (`wordsBehind_of_axis`).  So each flag has its own values behind it, and the action, if
     it looks like the flag, puts the word `-i` in front of them.
-/
import BenchSweep.Proofs.Definitions
import BenchSweep.Proofs.MetaText

namespace BenchSweep
namespace Request

open Parameters (ofPlan switch)

/-! ## Words behind a flag -/

/-- The words that stand behind one that is the flag. -/
def wordsBehind (flag : String) (words : List String) : List String :=
  (words.zip words.tail).filterMap fun pair => if pair.1 = flag then some pair.2 else none

/-- Behind the flag stands the next word, and the search goes on with that word. -/
theorem wordsBehind_self (flag word : String) (rest : List String) :
    wordsBehind flag (flag :: word :: rest) = word :: wordsBehind flag (word :: rest) :=
  List.filterMap_cons_some (if_pos rfl)

/-- A word that is not the flag has nothing behind it that counts. -/
theorem wordsBehind_of_ne {flag word : String} (h : word ≠ flag) (rest : List String) :
    wordsBehind flag (word :: rest) = wordsBehind flag rest := by
  cases rest with
  | nil => rfl
  | cons next rest => exact List.filterMap_cons_none (if_neg h)

/-- The first of the words behind a flag stands behind the first word that is the flag. -/
theorem head?_wordsBehind (flag : String) (words : List String) :
    (wordsBehind flag words).head? = (words.dropWhile (· ≠ flag)).tail.head? := by
  -- on the words, up to the first that is the flag
  induction words with
  | nil => rfl
  | cons word rest ih =>
    by_cases h : word = flag
    · have hstop : (word :: rest).dropWhile (· ≠ flag) = word :: rest :=
        List.dropWhile_cons_of_neg fun hne => of_decide_eq_true hne h
      rw [hstop, h]
      cases rest with
      | nil => rfl
      | cons next rest => rw [wordsBehind_self, List.head?_cons, List.tail_cons, List.head?_cons]
    · have hpass : (word :: rest).dropWhile (· ≠ flag) = rest.dropWhile (· ≠ flag) :=
        List.dropWhile_cons_of_pos (decide_eq_true h)
      rw [hpass, wordsBehind_of_ne h, ih]

/-- The texts of a request are the words behind their flag. -/
theorem metaArguments_eq (request : Request) :
    request.metaArguments = wordsBehind "--meta" request.arguments := rfl

/-- The value of a flag is the first of the words behind it. -/
theorem flagValue_eq (request : Request) (flag : String) :
    request.flagValue flag = (wordsBehind flag request.arguments).head? :=
  (head?_wordsBehind flag request.arguments).symm

/-! ## Items

  An item is what was put on the command line together.  The search does not know of items, so it must be
  shown that no value of one is taken for a flag of another. -/

/-- What stands behind the action: a word of its own, or a flag with its value. -/
inductive Item where
  | word (text : String)
  | setting (flag value : String)

namespace Item

/-- The words of an item. -/
def words : Item → List String
  | word text => [text]
  | setting flag value => [flag, value]

/-- The word in which the item ends. -/
def text : Item → String
  | word text => text
  | setting _ value => value

/-- The value that the item gives a flag, if any. -/
def valuesOf (flag : String) : Item → List String
  | word _ => []
  | setting found value => if found = flag then [value] else []

end Item

section Items

variable {flag : String}

/-- A setting has its own value behind the flag; what is behind its value is another matter. -/
theorem wordsBehind_setting (found value : String) (rest : List String) :
    wordsBehind flag (found :: value :: rest) =
      (Item.setting found value).valuesOf flag ++ wordsBehind flag (value :: rest) := by
  by_cases hfound : found = flag
  · subst hfound
    rw [Item.valuesOf, if_pos rfl, List.singleton_append]
    exact wordsBehind_self found value rest
  · rw [Item.valuesOf, if_neg hfound, List.nil_append]
    exact wordsBehind_of_ne hfound (value :: rest)

/-- The value at the end may be the flag, because no word stands behind it. -/
theorem wordsBehind_last (found value : String) :
    wordsBehind flag (Item.setting found value).words = (Item.setting found value).valuesOf flag :=
  (wordsBehind_setting found value []).trans (List.append_nil _)

/-- Behind an item that does not end in the flag, the search goes on as if the item had not been there. -/
theorem wordsBehind_item {item : Item} (h : item.text ≠ flag) (rest : List String) :
    wordsBehind flag (item.words ++ rest) = item.valuesOf flag ++ wordsBehind flag rest := by
  cases item with
  | word text => exact wordsBehind_of_ne h rest
  | setting found value =>
    have hvalue : wordsBehind flag (value :: rest) = wordsBehind flag rest := wordsBehind_of_ne h rest
    rw [← hvalue]
    exact wordsBehind_setting found value rest

/-- If no item ends in the flag, the words behind the flag are its values in the items, one after the other.
    -/
theorem wordsBehind_items {items : List Item} (h : ∀ item ∈ items, item.text ≠ flag)
    (rest : List String) :
    wordsBehind flag (items.flatMap Item.words ++ rest) =
      items.flatMap (Item.valuesOf flag) ++ wordsBehind flag rest := by
  induction items with
  | nil => rfl
  | cons item items ih =>
    obtain ⟨htext, hitems⟩ := List.forall_mem_cons.1 h
    rw [List.flatMap_cons, List.append_assoc, wordsBehind_item htext, ih hitems, List.flatMap_cons,
      List.append_assoc]

end Items

/-! ## Texts that are no flags

  The flags with values are five words, each of which begins with a dash.  A text is told from them by its
  front, whatever stands behind that. -/

/-- A text is no flag if it starts as no flag does. -/
theorem not_mem_valueFlags_of_front {text : String} (front : List Char)
    (h : ∀ flag ∈ valueFlags, ¬ front <+: flag.toList) (htext : front <+: text.toList) :
    text ∉ valueFlags :=
  fun hmem => h text hmem htext

/-- A text with a front that no flag has is no flag. -/
theorem append_not_mem_valueFlags {front : String} (h : ∀ flag ∈ valueFlags, ¬ front.toList <+: flag.toList)
    (back : String) : front ++ back ∉ valueFlags := by
  refine not_mem_valueFlags_of_front front.toList h ?_
  rw [String.toList_append]
  exact List.prefix_append _ _

/-- A number is no flag, because there is a dash in every flag. -/
theorem toString_not_mem_valueFlags (n : Nat) : toString n ∉ valueFlags := by
  intro hmem
  have hdash : ∀ flag ∈ valueFlags, '-' ∈ flag.toList := by decide
  have hdigit : ('-' : Char).isDigit = true := Parameters.isDigit_of_mem_toString (hdash _ hmem)
  exact absurd hdigit (by decide)

/-- The text of an axis is no flag, as it begins with its marker. -/
theorem axisText_not_mem_valueFlags (axis : Axis) : axis.metaText ∉ valueFlags := by
  refine not_mem_valueFlags_of_front ['t'] (by decide) ?_
  rw [axis.toList_metaText, Text.intercalate_cons]
  exact List.prefix_append _ _

/-- The text of subjects is no flag, as it begins with their marker. -/
theorem subjectsText_not_mem_valueFlags (subjects : Subjects) : subjects.metaText ∉ valueFlags := by
  refine not_mem_valueFlags_of_front ['d'] (by decide) ?_
  rw [subjects.toList_metaText, Text.intercalate_cons]
  exact List.prefix_append _ _

/-! ## The items of an invocation -/

namespace Parameters

/-- What stands between the action and the output. -/
def items (p : Parameters) : List Item :=
  [.setting "-i" (toString p.iterations.toNat), .word ("-depochf=" ++ toString p.epochFreq.toNat),
      .word ("-demptyf=" ++ toString p.emptyFreq.toNat), .setting "-m" (toString p.mode.toNat)]
    ++ (switch p.verbose "-v").map .word ++ (switch p.countRetired "-c").map .word
    ++ [.setting "-r" (toString p.selector.toNat),
      .word ("-d" ++ p.runIdKey ++ "=" ++ toString p.repetition.toNat),
      .setting "--meta" p.axis, .setting "--meta" p.subjects]

/-- The values of the flags, in their order. -/
def values (p : Parameters) : List (String × String) :=
  [("-i", toString p.iterations.toNat), ("-m", toString p.mode.toNat), ("-r", toString p.selector.toNat),
    ("--meta", p.axis), ("--meta", p.subjects), ("-o", p.output)]

/-- The values of one flag. -/
def valuesOf (p : Parameters) (flag : String) : List String :=
  p.values.flatMap fun entry => if entry.1 = flag then [entry.2] else []

/-- The words of an invocation are the action and those of its items, of which the output is the last. -/
theorem words_eq_items (p : Parameters) :
    p.words = p.action :: (p.items.flatMap Item.words ++ (Item.setting "-o" p.output).words) := by
  rw [words, items]
  cases p.verbose <;> cases p.countRetired <;> rfl

/-- The values of a flag are those that the items give it. -/
theorem valuesOf_eq_items (p : Parameters) (flag : String) :
    p.valuesOf flag =
      p.items.flatMap (Item.valuesOf flag) ++ (Item.setting "-o" p.output).valuesOf flag := by
  rw [← List.flatMap_singleton (Item.valuesOf flag), ← List.flatMap_append, items, valuesOf, values]
  cases p.verbose <;> cases p.countRetired <;> rfl

/-- A flag without a value is not one that takes one. -/
theorem text_switch_not_mem_valueFlags {flag : String} (h : flag ∉ valueFlags) (on : Bool) :
    ∀ item ∈ (switch on flag).map Item.word, item.text ∉ valueFlags := by
  cases on with
  | true => exact List.forall_mem_singleton.2 h
  | false => exact List.forall_mem_nil _

/-- No item ends in a flag if the texts of the axis and of the subjects are none. -/
theorem text_not_mem_valueFlags {p : Parameters} (haxis : p.axis ∉ valueFlags)
    (hsubjects : p.subjects ∉ valueFlags) : ∀ item ∈ p.items, item.text ∉ valueFlags := by
  have hrun : "-d" ++ p.runIdKey ++ "=" ++ toString p.repetition.toNat ∉ valueFlags := by
    rw [String.append_assoc, String.append_assoc]
    exact append_not_mem_valueFlags (by decide) _
  simp only [items, List.forall_mem_append, List.forall_mem_cons]
  refine ⟨⟨⟨⟨?_, ?_, ?_, ?_, List.forall_mem_nil _⟩, ?_⟩, ?_⟩, ?_, ?_, ?_, ?_, List.forall_mem_nil _⟩
  · exact toString_not_mem_valueFlags _
  · exact append_not_mem_valueFlags (by decide) _
  · exact append_not_mem_valueFlags (by decide) _
  · exact toString_not_mem_valueFlags _
  · exact text_switch_not_mem_valueFlags (by decide) _
  · exact text_switch_not_mem_valueFlags (by decide) _
  · exact toString_not_mem_valueFlags _
  · exact hrun
  · exact haxis
  · exact hsubjects

/-- The words behind a flag are its values, with `-i` in front if the action looks like the flag. -/
theorem wordsBehind_words {p : Parameters} (haxis : p.axis ∉ valueFlags)
    (hsubjects : p.subjects ∉ valueFlags) {flag : String} (hflag : flag ∈ valueFlags) :
    wordsBehind flag p.words = (if p.action = flag then ["-i"] else []) ++ p.valuesOf flag := by
  have htexts : ∀ item ∈ p.items, item.text ≠ flag := fun item hitem heq =>
    text_not_mem_valueFlags haxis hsubjects item hitem (heq ▸ hflag)
  have hitems : wordsBehind flag (p.items.flatMap Item.words ++ (Item.setting "-o" p.output).words) =
      p.valuesOf flag := by
    rw [wordsBehind_items htexts, wordsBehind_last, valuesOf_eq_items]
  rw [words_eq_items, ← hitems]
  split
  · next haction =>
    rw [haction]
    exact wordsBehind_self flag "-i" _
  · next haction => exact wordsBehind_of_ne haction _

end Parameters

/-! ## The requests of a plan -/

/-- A request that finds its axis has the values of each flag behind that flag. -/
theorem wordsBehind_of_axis {plan : Plan} {e : Experiment} {axis : Axis} (h : plan.axisFor e = some axis)
    (repetition : UInt32) (k : Nat) : ∃ request, build plan repetition k e = some request ∧
      ∀ flag ∈ valueFlags, wordsBehind flag request.arguments =
        (if plan.harness.action = flag then ["-i"] else []) ++
          (ofPlan plan repetition e axis).valuesOf flag := by
  obtain ⟨request, hbuild, harguments⟩ := exists_build_words h repetition k
  refine ⟨request, hbuild, fun flag hflag => ?_⟩
  rw [harguments]
  exact Parameters.wordsBehind_words (axisText_not_mem_valueFlags axis)
    (subjectsText_not_mem_valueFlags plan.subjects) hflag

/-- An action that looks like a flag is taken for it. -/
example : (build { lookalikePlan with harness := { action := "-m" } } 0 0 lookalikeExperiment).map
    (fun request => wordsBehind "-m" request.arguments) = some ["-i", "3"] := by decide +kernel

/-- What is found behind the flags of a request, each unless the action is that flag. -/
structure FindsValues (plan : Plan) (e : Experiment) (axis : Axis) (request : Request) : Prop where
  iterations : plan.harness.action ≠ "-i" →
    request.flagValue "-i" = some (toString plan.harness.iterations.toNat)
  mode : plan.harness.action ≠ "-m" → request.flagValue "-m" = some (toString e.mode.toNat)
  selector : plan.harness.action ≠ "-r" → request.flagValue "-r" = some (toString e.selector.toNat)
  /-- The text of the output, in which what is no text is marked. -/
  output : plan.harness.action ≠ "-o" → request.flagValue "-o" = some e.output.display
  metaTexts : plan.harness.action ≠ "--meta" →
    request.metaArguments = [axis.metaText, plan.subjects.metaText]
  /-- The first of these texts. -/
  axisText : plan.harness.action ≠ "--meta" → request.flagValue "--meta" = some axis.metaText

/-- **A request finds its values behind its flags.**  Every experiment that has an axis has a request in
    every repetition.  Behind each flag that is not the action stands the value that belongs to it, whatever
    the key of the repetition, the subjects and the output look like. -/
theorem findsValues_of_axis {plan : Plan} {e : Experiment} {axis : Axis} (h : plan.axisFor e = some axis)
    (repetition : UInt32) (k : Nat) :
    ∃ request, build plan repetition k e = some request ∧ FindsValues plan e axis request := by
  obtain ⟨request, hbuild, hbehind⟩ := wordsBehind_of_axis h repetition k
  have hvalues : ∀ flag ∈ valueFlags, plan.harness.action ≠ flag →
      wordsBehind flag request.arguments = (ofPlan plan repetition e axis).valuesOf flag := by
    intro flag hflag haction
    rw [hbehind flag hflag, if_neg haction, List.nil_append]
  have hfirst : ∀ flag ∈ valueFlags, plan.harness.action ≠ flag →
      request.flagValue flag = ((ofPlan plan repetition e axis).valuesOf flag).head? := by
    intro flag hflag haction
    rw [flagValue_eq, hvalues flag hflag haction]
  refine ⟨request, hbuild, ?_⟩
  constructor
  case iterations => exact hfirst "-i" (by decide)
  case mode => exact hfirst "-m" (by decide)
  case selector => exact hfirst "-r" (by decide)
  case output => exact hfirst "-o" (by decide)
  case metaTexts =>
    rw [metaArguments_eq]
    exact hvalues "--meta" (by decide)
  case axisText => exact hfirst "--meta" (by decide)

/-- In a request whose action, key and output look like flags, each value is found, and `-r` is not looked
    for in the output. -/
theorem findsValues_of_axis_lookalike :
    ∃ request, lookalikePlan.axisFor lookalikeExperiment = some (Matrix.axis 16 96) ∧
      build lookalikePlan 1 0 lookalikeExperiment = some request ∧
      lookalikePlan.harness.action = "-v" ∧
      request.flagValue "-i" = some "10" ∧ request.flagValue "-m" = some "3" ∧
      request.flagValue "-r" = some "11" ∧ request.flagValue "-o" = some "-r" ∧
      request.metaArguments = [(Matrix.axis 16 96).metaText, lookalikePlan.subjects.metaText] ∧
      request.flagValue "--meta" = some (Matrix.axis 16 96).metaText := by
  have haxis : lookalikePlan.axisFor lookalikeExperiment = some (Matrix.axis 16 96) := by decide +kernel
  have hdisplay : lookalikeExperiment.output.display = "-r" := by decide +kernel
  obtain ⟨request, hbuild, hfinds⟩ := findsValues_of_axis haxis 1 0
  refine ⟨request, haxis, hbuild, rfl, hfinds.iterations (by decide), hfinds.mode (by decide),
    hfinds.selector (by decide), ?_, hfinds.metaTexts (by decide), hfinds.axisText (by decide)⟩
  rw [← hdisplay]
  exact hfinds.output (by decide)

end Request
end BenchSweep
