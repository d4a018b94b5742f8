/-
  Argument lists are read back.

  The arguments of a request are a list of words, and three things could make it ambiguous: two words are
  there or not, which moves all that follow; three words share the front `-d`; and some words are free
  texts, which may look like any flag.

  1. **The list.**  `Parameters` is what an invocation is about, thirteen values in all, and
     `Parameters.words` lists them.  The arguments of a request are the words of its parameters, whatever
     the plan (`argumentsFor_eq_words`).

  2. **The reader.**  `Parameters.ofWords?` goes by places, never by looking for a flag: free texts stand
     where a text is due, and what they look like does not matter.  A switch is looked for only where the
     next word, if the switch is off, is another fixed word.  The word of the repetition is cut at its last
     `=`, for a number has none, but the name in front may have some.

  3. **Both together.**  Reading what was listed gives it back (`ofWords?_words`), so the list says neither
     more nor less than its thirteen values.
-/
import BenchSweep.Matrix
import BenchSweep.Proofs.Requests

namespace BenchSweep
namespace Request

/-! ## What an invocation is about -/

/-- The values that the arguments of a request show. -/
structure Parameters where
  action : String
  iterations : UInt32
  epochFreq : UInt32
  emptyFreq : UInt32
  mode : UInt32
  verbose : Bool
  countRetired : Bool
  selector : UInt32
  runIdKey : String
  repetition : UInt32
  /-- The text of the axis. -/
  axis : String
  /-- The text of the subjects. -/
  subjects : String
  /-- The text of the output path, in which what is no text is marked. -/
  output : String
deriving DecidableEq, Repr

namespace Parameters

/-- The values for one repetition of an experiment that scans `axis`. -/
def ofPlan (plan : Plan) (repetition : UInt32) (experiment : Experiment) (axis : Axis) : Parameters :=
  { action := plan.harness.action, iterations := plan.harness.iterations
    epochFreq := plan.harness.epochFreq, emptyFreq := plan.harness.emptyFreq, mode := experiment.mode
    verbose := plan.harness.verbose, countRetired := experiment.countRetired
    selector := experiment.selector, runIdKey := plan.harness.runIdKey, repetition
    axis := axis.metaText, subjects := plan.subjects.metaText, output := experiment.output.display }

/-- The word of a switch, if it is on. -/
def switch (on : Bool) (flag : String) : List String := if on then [flag] else []

/-- The values as words. -/
def words (p : Parameters) : List String :=
  [p.action, "-i", toString p.iterations.toNat, "-depochf=" ++ toString p.epochFreq.toNat,
      "-demptyf=" ++ toString p.emptyFreq.toNat, "-m", toString p.mode.toNat]
    ++ switch p.verbose "-v" ++ switch p.countRetired "-c"
    ++ ["-r", toString p.selector.toNat, "-d" ++ p.runIdKey ++ "=" ++ toString p.repetition.toNat,
      "--meta", p.axis, "--meta", p.subjects, "-o", p.output]

/-! ## Reading words -/

/-- The number that a word of digits spells. -/
def number? (word : String) : Option UInt32 :=
  if word.toList ≠ [] ∧ word.toList.all Char.isDigit then
    some (UInt32.ofNat (Nat.ofDigitChars 10 word.toList 0))
  else none

/-- What a word says behind a fixed front. -/
def behind? (front word : String) : Option String :=
  if front.toList.isPrefixOf word.toList then some (String.ofList (word.toList.drop front.toList.length))
  else none

/-- What stands in front of the last sign of equality in a word, and what behind it. -/
def cutAtLast? (word : String) : Option (String × String) :=
  let back := word.toList.reverse
  match back.dropWhile (· ≠ '=') with
  | [] => none
  | _ :: front => some (String.ofList front.reverse, String.ofList (back.takeWhile (· ≠ '=')).reverse)

/-- Whether the next word is a switch, and the words behind it. -/
def takeSwitch (flag : String) : List String → Bool × List String
  | [] => (false, [])
  | word :: rest => if word = flag then (true, rest) else (false, word :: rest)

/-- The values behind the switches, with those that stand in front of them. -/
def rest? (front : Parameters) : List String → Option Parameters
  | ["-r", selector, run, "--meta", axis, "--meta", subjects, "-o", output] => do
    let selector ← number? selector
    let (runIdKey, repetition) ← cutAtLast? (← behind? "-d" run)
    let repetition ← number? repetition
    return { front with selector, runIdKey, repetition, axis, subjects, output }
  | _ => none

/-- The values that words show. -/
def ofWords? : List String → Option Parameters
  | action :: "-i" :: iterations :: epoch :: empty :: "-m" :: mode :: rest => do
    let iterations ← number? iterations
    let epochFreq ← number? (← behind? "-depochf=" epoch)
    let emptyFreq ← number? (← behind? "-demptyf=" empty)
    let mode ← number? mode
    let (verbose, rest) := takeSwitch "-v" rest
    let (countRetired, rest) := takeSwitch "-c" rest
    rest?
      { action, iterations, epochFreq, emptyFreq, mode, verbose, countRetired
        selector := 0, runIdKey := "", repetition := 0, axis := "", subjects := "", output := "" } rest
  | _ => none

/-! ## Every part is read back

  Each kind of word has its own small reader, and each reader undoes its writer whatever stands behind.  For
  the switches this needs that the word behind them cannot be one, and there that word is `-c` or `-r`. -/

/-- A number is spelled with digits alone. -/
theorem isDigit_of_mem_toString {n : Nat} {c : Char} (h : c ∈ (toString n).toList) : c.isDigit = true := by
  rw [Nat.toString_eq_repr, Nat.toList_repr] at h
  exact Nat.isDigit_of_mem_toDigits (by decide) (by decide) h

/-- A number is read back from its word. -/
theorem number?_toString (n : UInt32) : number? (toString n.toNat) = some n := by
  have hdigits : (toString n.toNat).toList = Nat.toDigits 10 n.toNat := by
    rw [Nat.toString_eq_repr, Nat.toList_repr]
  have hne : (toString n.toNat).toList ≠ [] := by
    rw [hdigits]
    exact Nat.toDigits_ne_nil
  have hall : (toString n.toNat).toList.all Char.isDigit = true :=
    List.all_eq_true.2 fun c hc => isDigit_of_mem_toString hc
  rw [number?, if_pos ⟨hne, hall⟩, hdigits, Nat.ofDigitChars_ten_toDigits, UInt32.ofNat_toNat]

/-- What was put behind a front is read behind it. -/
theorem behind?_append (front back : String) : behind? front (front ++ back) = some back := by
  have hfront : front.toList.isPrefixOf (front.toList ++ back.toList) = true :=
    List.isPrefixOf_iff_prefix.2 (List.prefix_append _ _)
  rw [behind?, String.toList_append, if_pos hfront, List.drop_left, String.ofList_toList]

/-- A sign of equality in the name does no harm as long as there is none behind the last one. -/
theorem cutAtLast?_append {back : String} (h : '=' ∉ back.toList) (front : String) :
    cutAtLast? (front ++ "=" ++ back) = some (front, back) := by
  have hback : ∀ c ∈ back.toList.reverse, decide (c ≠ '=') = true := by
    intro c hc
    refine decide_eq_true ?_
    rintro rfl
    exact h (List.mem_reverse.1 hc)
  have hreverse : (front ++ "=" ++ back).toList.reverse =
      back.toList.reverse ++ '=' :: front.toList.reverse := by
    rw [String.toList_append, String.toList_append, List.reverse_append, List.reverse_append]
    rfl
  have hdrop : (back.toList.reverse ++ '=' :: front.toList.reverse).dropWhile (· ≠ '=') =
      '=' :: front.toList.reverse := by
    rw [List.dropWhile_append_of_pos hback]
    rfl
  have htake : (back.toList.reverse ++ '=' :: front.toList.reverse).takeWhile (· ≠ '=') =
      back.toList.reverse := by
    rw [List.takeWhile_append_of_pos hback, List.takeWhile_cons_of_neg (by decide), List.append_nil]
  simp only [cutAtLast?, hreverse, hdrop, htake, List.reverse_reverse, String.ofList_toList]

/-- The word of a number has no sign of equality. -/
theorem eq_sign_not_mem_toString (n : Nat) : '=' ∉ (toString n).toList := by
  intro hmem
  have hdigit : ('=' : Char).isDigit = true := isDigit_of_mem_toString hmem
  exact absurd hdigit (by decide)

/-- A switch is read as what it is if the word behind it cannot be taken for it. -/
theorem takeSwitch_switch {flag next : String} (h : next ≠ flag) (on : Bool) (rest : List String) :
    takeSwitch flag (switch on flag ++ next :: rest) = (on, next :: rest) := by
  cases on with
  | true => exact if_pos rfl
  | false => exact if_neg h

/-- Two switches one after the other, the second of which is not the first. -/
theorem takeSwitch_switches {flag other next : String} (h : next ≠ flag) (hother : other ≠ flag) (on on' : Bool)
    (rest : List String) :
    takeSwitch flag (switch on flag ++ (switch on' other ++ next :: rest)) =
      (on, switch on' other ++ next :: rest) := by
  cases on' with
  | true => exact takeSwitch_switch hother on (next :: rest)
  | false => exact takeSwitch_switch h on rest

/-- The words behind the switches are read back, the name of the repetition with whatever signs it holds. -/
theorem rest?_words (front : Parameters) (selector repetition : UInt32)
    (runIdKey axis subjects output : String) :
    rest? front ["-r", toString selector.toNat, "-d" ++ runIdKey ++ "=" ++ toString repetition.toNat,
        "--meta", axis, "--meta", subjects, "-o", output] =
      some { front with selector, runIdKey, repetition, axis, subjects, output } := by
  have hrun : behind? "-d" ("-d" ++ runIdKey ++ "=" ++ toString repetition.toNat) =
      some (runIdKey ++ "=" ++ toString repetition.toNat) := by
    rw [String.append_assoc, String.append_assoc, behind?_append, String.append_assoc]
  -- the last sign is the one in front of the repetition, which is a number
  have hcut : cutAtLast? (runIdKey ++ "=" ++ toString repetition.toNat) =
      some (runIdKey, toString repetition.toNat) :=
    cutAtLast?_append (eq_sign_not_mem_toString _) runIdKey
  rw [rest?, number?_toString, hrun]
  simp only [Option.bind_eq_bind, Option.bind_some, hcut, number?_toString]
  rfl

/-- What is listed is read back. -/
theorem ofWords?_words (p : Parameters) : ofWords? p.words = some p := by
  have hwords : p.words = p.action :: "-i" :: toString p.iterations.toNat ::
      ("-depochf=" ++ toString p.epochFreq.toNat) :: ("-demptyf=" ++ toString p.emptyFreq.toNat) ::
      "-m" :: toString p.mode.toNat :: (switch p.verbose "-v" ++ (switch p.countRetired "-c" ++
        ["-r", toString p.selector.toNat, "-d" ++ p.runIdKey ++ "=" ++ toString p.repetition.toNat,
          "--meta", p.axis, "--meta", p.subjects, "-o", p.output])) := by
    rw [words, List.append_assoc, List.append_assoc]
    rfl
  rw [hwords, ofWords?]
  simp only [number?_toString, behind?_append, Option.bind_eq_bind, Option.bind_some]
  -- the first switch is followed by the second one or by `-r`, the second by `-r`
  rw [takeSwitch_switches (by decide) (by decide)]
  simp only
  rw [takeSwitch_switch (by decide)]
  simp only
  rw [rest?_words]

end Parameters

/-! ## The arguments of a request

  The words of the parameters are what a request is given, whatever the plan, so what was proved of words
  holds of requests. -/

open Parameters (ofPlan ofWords? ofWords?_words)

/-- The arguments are the words of the parameters. -/
theorem argumentsFor_eq_words (plan : Plan) (repetition : UInt32) (e : Experiment) (axis : Axis) :
    argumentsFor plan repetition e axis = (ofPlan plan repetition e axis).words := by
  have hrun : s!"-d{plan.harness.runIdKey}={repetition.toNat}" =
      "-d" ++ plan.harness.runIdKey ++ "=" ++ toString repetition.toNat := rfl
  rw [argumentsFor, hrun]
  rfl

/-- A request is built if there is an axis, and then its arguments are the words of its parameters. -/
theorem exists_build_words {plan : Plan} {e : Experiment} {axis : Axis} (h : plan.axisFor e = some axis)
    (repetition : UInt32) (k : Nat) : ∃ request, build plan repetition k e = some request ∧
      request.arguments = (ofPlan plan repetition e axis).words :=
  ⟨_, build_of_axis h repetition k, argumentsFor_eq_words plan repetition e axis⟩

/-- A request that was built has an axis, and the words of its parameters as its arguments. -/
theorem arguments_of_build {plan : Plan} {repetition : UInt32} {k : Nat} {e : Experiment} {request : Request}
    (h : build plan repetition k e = some request) : ∃ axis, plan.axisFor e = some axis ∧
      request.arguments = (ofPlan plan repetition e axis).words := by
  obtain ⟨axis, haxis, rfl⟩ := Option.map_eq_some_iff.1 h
  exact ⟨axis, haxis, argumentsFor_eq_words plan repetition e axis⟩

/-- Equal lists of words show equal parameters. -/
theorem Parameters.words_injective {p q : Parameters} (h : p.words = q.words) : p = q := by
  have hread : ofWords? p.words = ofWords? q.words := congrArg ofWords? h
  rw [ofWords?_words, ofWords?_words] at hread
  exact Option.some.inj hread

/-- **The arguments are a lossless encoding of an invocation.**  One reader of word lists gives back the
    parameters of every request, whatever texts the plan holds; so two requests have the same arguments
    exactly when their parameters agree, and in one plan never for two repetitions. -/
theorem ofWords?_arguments :
    (∀ (plan : Plan) (repetition : UInt32) (k : Nat) (e : Experiment) (axis : Axis),
      plan.axisFor e = some axis → ∃ request, build plan repetition k e = some request ∧
        ofWords? request.arguments = some (ofPlan plan repetition e axis)) ∧
    (∀ (plan plan' : Plan) (repetition repetition' : UInt32) (k k' : Nat) (e e' : Experiment)
      (axis axis' : Axis) (request request' : Request),
      plan.axisFor e = some axis → plan'.axisFor e' = some axis' →
      build plan repetition k e = some request → build plan' repetition' k' e' = some request' →
      (request.arguments = request'.arguments ↔
        ofPlan plan repetition e axis = ofPlan plan' repetition' e' axis')) ∧
    ∀ (plan : Plan) (repetition repetition' : UInt32) (k k' : Nat) (e e' : Experiment)
      (request request' : Request),
      build plan repetition k e = some request → build plan repetition' k' e' = some request' →
      repetition ≠ repetition' → request.arguments ≠ request'.arguments := by
  refine ⟨?_, ?_, ?_⟩
  · intro plan repetition k e axis haxis
    obtain ⟨request, hbuild, harguments⟩ := exists_build_words haxis repetition k
    exact ⟨request, hbuild, by rw [harguments, ofWords?_words]⟩
  · intro plan plan' repetition repetition' k k' e e' axis axis' request request' haxis haxis' h h'
    obtain ⟨found, hfound, harguments⟩ := arguments_of_build h
    obtain ⟨found', hfound', harguments'⟩ := arguments_of_build h'
    obtain rfl : axis = found := Option.some.inj (haxis.symm.trans hfound)
    obtain rfl : axis' = found' := Option.some.inj (haxis'.symm.trans hfound')
    rw [harguments, harguments']
    exact ⟨Parameters.words_injective, congrArg Parameters.words⟩
  · intro plan repetition repetition' k k' e e' request request' h h' hne hequal
    obtain ⟨axis, -, harguments⟩ := arguments_of_build h
    obtain ⟨axis', -, harguments'⟩ := arguments_of_build h'
    -- equal words would show equal parameters, and the repetition is one of them
    rw [harguments, harguments'] at hequal
    exact hne (congrArg Parameters.repetition (Parameters.words_injective hequal))

/-- A plan whose texts look like flags: the action is a switch, and the name of the repetition starts like
    another parameter and has a sign of equality in it. -/
def lookalikePlan : Plan :=
  { Matrix.plan .crturn with harness := { action := "-v", verbose := false, runIdKey := "epochf=1" } }

/-- An experiment whose output looks like a flag. -/
def lookalikeExperiment : Experiment :=
  { name := "-c", family := "queue", selector := 11, mode := 3, output := .ofString "-r" }

/-- Texts that look like flags are read back, and the next repetition has other arguments. -/
theorem ofWords?_arguments_lookalike :
    ∃ axis request request', lookalikePlan.axisFor lookalikeExperiment = some axis ∧
      build lookalikePlan 0 0 lookalikeExperiment = some request ∧
      build lookalikePlan 1 0 lookalikeExperiment = some request' ∧
      ofWords? request.arguments = some (ofPlan lookalikePlan 0 lookalikeExperiment axis) ∧
      (request.arguments = request'.arguments ↔
        ofPlan lookalikePlan 0 lookalikeExperiment axis = ofPlan lookalikePlan 1 lookalikeExperiment axis) ∧
      (0 : UInt32) ≠ 1 ∧ request.arguments ≠ request'.arguments := by
  have haxis : lookalikePlan.axisFor lookalikeExperiment = some (Matrix.axis 16 96) := by decide +kernel
  have hne : (0 : UInt32) ≠ 1 := by decide
  obtain ⟨hread, hequal, hother⟩ := ofWords?_arguments
  obtain ⟨request, hbuild, hwords⟩ := hread lookalikePlan 0 0 lookalikeExperiment _ haxis
  obtain ⟨request', hbuild', -⟩ := hread lookalikePlan 1 0 lookalikeExperiment _ haxis
  exact ⟨_, request, request', haxis, hbuild, hbuild', hwords,
    hequal _ _ _ _ _ _ _ _ _ _ request request' haxis haxis hbuild hbuild', hne,
    hother _ _ _ _ _ _ _ request request' hbuild hbuild' hne⟩

end Request
end BenchSweep
