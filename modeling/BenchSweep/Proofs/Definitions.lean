/-
  What the flags of an invocation define.

  A word `-dkey=value` gives a parameter of the harness its value, and of two words with one key the later
  one counts.  Two keys are fixed, and the third is a text of the plan.

  1. **The reader** (`definitions`).  It passes over the action and over the value of each flag that takes
     one, cuts what stands behind `-d` at its first sign of equality, and knows no key beforehand.  In the
     words of a request it finds three definitions, whatever the texts of the plan are
     (`definitions_words`): an action, an axis or an output that looks like a definition stands where it is
     passed over.

  2. **The table.**  The repetition comes last, so it is what its key has; any other key has what is fixed
     for it (`get?_settings_words`).  No definition is lost exactly if the three keys are different ones
     (`length_settings_words_iff`).

  3. **Plans** (`Plan.definesEach_iff`).  The repetition stands in the place of another parameter exactly if
     its key is one of the fixed two.  The validation does not keep it from that
     (`Plan.not_definesEach_epochPlan`).
-/
import BenchSweep.Proofs.Arguments
import BenchSweep.Proofs.Enumeration

namespace BenchSweep
namespace Request

open Parameters (behind? behind?_append switch)

/-! ## Reading definitions

  The reader goes along the words with the one question whether the word that it is at takes the next one
  with it.  So there is one lemma for each kind of word: a flag with a value, a definition, a switch. -/

/-- The flags whose value is the next word. -/
def valueFlags : List String := ["-i", "-m", "-r", "--meta", "-o"]

/-- The words that are flags, without the values of those that take one. -/
def flagWords : List String → List String
  | [] => []
  | [word] => [word]
  | word :: value :: rest =>
    if word ∈ valueFlags then word :: flagWords rest else word :: flagWords (value :: rest)

/-- What stands in front of the first sign of equality in a word, and what behind it. -/
def cutAtFirst? (word : String) : Option (String × String) :=
  match word.toList.dropWhile (· ≠ '=') with
  | [] => none
  | _ :: value => some (String.ofList (word.toList.takeWhile (· ≠ '=')), String.ofList value)

/-- The key and the value of a word that defines a parameter. -/
def definition? (word : String) : Option (String × String) := (behind? "-d" word).bind cutAtFirst?

/-- The definitions behind the action, in their order. -/
def definitions (arguments : List String) : List (String × String) :=
  (flagWords arguments.tail).filterMap definition?

/-- The parameters that arguments define; the last definition of a key counts. -/
def settings (arguments : List String) : Keyed String := .ofList (definitions arguments)

/-- A flag that takes a value takes the next word with it. -/
theorem flagWords_of_mem {flag : String} (h : flag ∈ valueFlags) (value : String) (rest : List String) :
    flagWords (flag :: value :: rest) = flag :: flagWords rest :=
  if_pos h

/-- Any other word takes none. -/
theorem flagWords_of_not_mem {word : String} (h : word ∉ valueFlags) (rest : List String) :
    flagWords (word :: rest) = word :: flagWords rest := by
  cases rest with
  | nil => rfl
  | cons value rest => exact if_neg h

/-- A switch takes no word with it, be it on or off. -/
theorem flagWords_switch {flag : String} (h : flag ∉ valueFlags) (on : Bool) (rest : List String) :
    flagWords (switch on flag ++ rest) = switch on flag ++ flagWords rest := by
  cases on with
  | true => exact flagWords_of_not_mem h rest
  | false => rfl

/-- A switch that is no definition adds none. -/
theorem filterMap_switch {flag : String} (h : definition? flag = none) (on : Bool) :
    (switch on flag).filterMap definition? = [] := by
  cases on with
  | true => exact List.filterMap_cons_none h
  | false => rfl

/-- A key has no sign of equality, and the value may have some. -/
theorem cutAtFirst?_append {key : String} (h : '=' ∉ key.toList) (value : String) :
    cutAtFirst? (key ++ "=" ++ value) = some (key, value) := by
  have hkey : ∀ c ∈ key.toList, decide (c ≠ '=') = true := fun c hc =>
    decide_eq_true fun heq => h (heq ▸ hc)
  have hlist : (key ++ "=" ++ value).toList = key.toList ++ '=' :: value.toList := by
    rw [String.toList_append, String.toList_append, List.append_assoc]
    rfl
  -- the key has no such sign, so the first one is the one behind it
  have hdrop : (key.toList ++ '=' :: value.toList).dropWhile (· ≠ '=') = '=' :: value.toList := by
    rw [List.dropWhile_append_of_pos hkey]
    rfl
  have htake : (key.toList ++ '=' :: value.toList).takeWhile (· ≠ '=') = key.toList := by
    rw [List.takeWhile_append_of_pos hkey, List.takeWhile_cons_of_neg (by decide), List.append_nil]
  simp only [cutAtFirst?, hlist, hdrop, htake, String.ofList_toList]

/-- A word made of a key and a value is the definition of that key, if the key has no sign of equality. -/
theorem definition?_append {key : String} (h : '=' ∉ key.toList) (value : String) :
    definition? ("-d" ++ key ++ "=" ++ value) = some (key, value) := by
  rw [definition?, String.append_assoc, String.append_assoc, behind?_append, ← String.append_assoc]
  exact cutAtFirst?_append h value

/-- The flags with values are no definitions. -/
theorem definition?_eq_none_of_mem {flag : String} (h : flag ∈ valueFlags) : definition? flag = none := by
  have hall : ∀ flag ∈ valueFlags, definition? flag = none := by decide
  exact hall flag h

/-- A flag that takes a value defines nothing, so the words behind it are flags again. -/
theorem definitions_of_mem {flag : String} (h : flag ∈ valueFlags) (value : String) (rest : List String) :
    (flagWords (flag :: value :: rest)).filterMap definition? = (flagWords rest).filterMap definition? := by
  rw [flagWords_of_mem h, List.filterMap_cons_none (definition?_eq_none_of_mem h)]

/-- A definition takes no other word with it. -/
theorem definitions_of_some {word : String} {entry : String × String} (h : definition? word = some entry)
    (rest : List String) :
    (flagWords (word :: rest)).filterMap definition? = entry :: (flagWords rest).filterMap definition? := by
  have hmem : word ∉ valueFlags := fun hmem => by
    rw [definition?_eq_none_of_mem hmem] at h
    cases h
  rw [flagWords_of_not_mem hmem, List.filterMap_cons_some h]

/-- A switch defines nothing and takes no other word with it. -/
theorem definitions_of_switch {flag : String} (h : flag ∉ valueFlags) (hnone : definition? flag = none)
    (on : Bool) (rest : List String) :
    (flagWords (switch on flag ++ rest)).filterMap definition? = (flagWords rest).filterMap definition? := by
  rw [flagWords_switch h, List.filterMap_append, filterMap_switch hnone, List.nil_append]

/-! ## The definitions of a request

  The words of an invocation are of these kinds, one after the other, so reading them is a chain of rewrites
  and no induction. -/

namespace Parameters

/-- The parameters with fixed keys. -/
def fixedSettings (epochFreq emptyFreq : UInt32) : List (String × String) :=
  [("epochf", toString epochFreq.toNat), ("emptyf", toString emptyFreq.toNat)]

/-- The words of an invocation define three parameters, the repetition last. -/
theorem definitions_words (p : Parameters) (h : '=' ∉ p.runIdKey.toList) :
    definitions p.words =
      fixedSettings p.epochFreq p.emptyFreq ++ [(p.runIdKey, toString p.repetition.toNat)] := by
  have hepoch : definition? ("-depochf=" ++ toString p.epochFreq.toNat) =
      some ("epochf", toString p.epochFreq.toNat) := by
    rw [show "-depochf=" = "-d" ++ "epochf" ++ "=" from by decide]
    exact definition?_append (by decide) _
  have hempty : definition? ("-demptyf=" ++ toString p.emptyFreq.toNat) =
      some ("emptyf", toString p.emptyFreq.toNat) := by
    rw [show "-demptyf=" = "-d" ++ "emptyf" ++ "=" from by decide]
    exact definition?_append (by decide) _
  have htail : p.words.tail = "-i" :: toString p.iterations.toNat ::
      ("-depochf=" ++ toString p.epochFreq.toNat) :: ("-demptyf=" ++ toString p.emptyFreq.toNat) ::
      "-m" :: toString p.mode.toNat :: (switch p.verbose "-v" ++ (switch p.countRetired "-c" ++
        ["-r", toString p.selector.toNat, "-d" ++ p.runIdKey ++ "=" ++ toString p.repetition.toNat,
          "--meta", p.axis, "--meta", p.subjects, "-o", p.output])) := by
    rw [words, List.append_assoc, List.append_assoc]
    rfl
  -- word by word, the action left out and `-v` and `-c` there or not
  rw [definitions, htail, definitions_of_mem (by decide), definitions_of_some hepoch,
    definitions_of_some hempty, definitions_of_mem (by decide), definitions_of_switch (by decide) (by decide),
    definitions_of_switch (by decide) (by decide), definitions_of_mem (by decide),
    definitions_of_some (definition?_append h _), definitions_of_mem (by decide),
    definitions_of_mem (by decide), definitions_of_mem (by decide)]
  rfl

/-- The repetition is what its key has, and any other key has what is fixed for it. -/
theorem get?_settings_words (p : Parameters) (h : '=' ∉ p.runIdKey.toList) (key : String) :
    (settings p.words).get? key = if key = p.runIdKey then some (toString p.repetition.toNat)
      else (fixedSettings p.epochFreq p.emptyFreq).lookup key := by
  -- the two fixed keys differ, so it does not matter which is looked at first
  have hfixed : (fixedSettings p.epochFreq p.emptyFreq).reverse.lookup key =
      (fixedSettings p.epochFreq p.emptyFreq).lookup key := by
    have hne : "epochf" ≠ "emptyf" := by decide
    simp only [fixedSettings, List.reverse_cons, List.reverse_nil, List.nil_append, List.cons_append,
      Keyed.lookup_cons_eq_ite]
    grind
  rw [settings, definitions_words p h, Keyed.get?_ofList, List.reverse_append, List.reverse_singleton,
    List.singleton_append, Keyed.lookup_cons_eq_ite, hfixed]

/-- No definition is lost exactly if the key of the repetition is none of the fixed ones. -/
theorem length_settings_words_iff (p : Parameters) (h : '=' ∉ p.runIdKey.toList) :
    (settings p.words).entries.length = 3 ↔ p.runIdKey ≠ "epochf" ∧ p.runIdKey ≠ "emptyf" := by
  have hlength : (definitions p.words).length = 3 := by
    rw [definitions_words p h]
    rfl
  rw [settings, ← hlength, Keyed.length_ofList_eq_iff, definitions_words p h]
  simp only [fixedSettings, List.map_cons, List.map_nil, List.cons_append, List.nil_append, List.nodup_cons,
    List.mem_cons, List.not_mem_nil, or_false, not_or, not_false_eq_true, List.nodup_nil, and_true,
    eq_comm (b := p.runIdKey)]
  exact ⟨fun hne => ⟨hne.1.2, hne.2⟩, fun hne => ⟨⟨by decide, hne.1⟩, hne.2⟩⟩

end Parameters
end Request

namespace Plan

open Request (definitions settings)
open Request.Parameters (fixedSettings)

/-- The arguments of a request define three parameters, each with a value of its own. -/
structure DefinesEach (plan : Plan) (request : Request) : Prop where
  count : (settings request.arguments).entries.length = 3
  epochFreq : (settings request.arguments).get? "epochf" = some (toString plan.harness.epochFreq.toNat)
  emptyFreq : (settings request.arguments).get? "emptyf" = some (toString plan.harness.emptyFreq.toNat)
  repetition : (settings request.arguments).get? plan.harness.runIdKey =
    some (toString request.repetition.toNat)

/-- The arguments of a request in a valid plan are words of which the plan and the request know these. -/
theorem Valid.exists_parameters {plan : Plan} (h : plan.Valid) {request : Request}
    (hrequest : request ∈ plan.rounds) : ∃ p : Request.Parameters, request.arguments = p.words ∧
      '=' ∉ p.runIdKey.toList ∧ p.runIdKey = plan.harness.runIdKey ∧ p.repetition = request.repetition ∧
      p.epochFreq = plan.harness.epochFreq ∧ p.emptyFreq = plan.harness.emptyFreq := by
  obtain ⟨_, hbuild⟩ := build_of_mem_rounds hrequest
  obtain ⟨axis, -, harguments⟩ := Request.arguments_of_build hbuild
  exact ⟨_, harguments, h.runIdKey.2, rfl, rfl, rfl, rfl⟩

/-- In a valid plan a request defines each parameter exactly if the key of the repetition is not fixed. -/
theorem Valid.definesEach_rounds_iff {plan : Plan} (h : plan.Valid) {request : Request}
    (hrequest : request ∈ plan.rounds) : plan.DefinesEach request ↔
      plan.harness.runIdKey ≠ "epochf" ∧ plan.harness.runIdKey ≠ "emptyf" := by
  obtain ⟨p, harguments, hkey, hrunIdKey, hrepetition, hepochFreq, hemptyFreq⟩ := h.exists_parameters hrequest
  rw [← hrunIdKey]
  constructor
  · intro hdefines
    rw [← p.length_settings_words_iff hkey, ← harguments]
    exact hdefines.count
  · intro hne
    -- neither fixed key is that of the repetition, so each is looked up behind it
    have hget := p.get?_settings_words hkey
    rw [← harguments] at hget
    refine ⟨?_, ?_, ?_, ?_⟩
    · rw [harguments]
      exact (p.length_settings_words_iff hkey).2 hne
    · rw [hget, if_neg hne.1.symm, ← hepochFreq]
      rfl
    · rw [hget, if_neg hne.2.symm, ← hemptyFreq]
      rfl
    · rw [hget, hrunIdKey, if_pos rfl, hrepetition]

/-- **What the invocations of a plan define.**  Each request defines the two fixed parameters and then the
    repetition, under the key of the plan.  The repetition always gets through, and any other key has what
    is fixed for it; so each of the three has its own value exactly if the key is none of the fixed ones. -/
theorem definesEach_iff {plan : Plan} (h : plan.validate = .ok ()) :
    ∃ requests, plan.requests = .ok requests ∧ ∀ request ∈ requests,
      definitions request.arguments = fixedSettings plan.harness.epochFreq plan.harness.emptyFreq ++
        [(plan.harness.runIdKey, toString request.repetition.toNat)] ∧
      (∀ key, (settings request.arguments).get? key =
        if key = plan.harness.runIdKey then some (toString request.repetition.toNat)
        else (fixedSettings plan.harness.epochFreq plan.harness.emptyFreq).lookup key) ∧
      (plan.DefinesEach request ↔
        plan.harness.runIdKey ≠ "epochf" ∧ plan.harness.runIdKey ≠ "emptyf") := by
  have hvalid : plan.Valid := (validate_eq_ok_iff plan).1 h
  refine ⟨plan.rounds, requests_of_valid hvalid, fun request hrequest => ?_⟩
  obtain ⟨p, harguments, hkey, hrunIdKey, hrepetition, hepochFreq, hemptyFreq⟩ :=
    hvalid.exists_parameters hrequest
  refine ⟨?_, fun key => ?_, hvalid.definesEach_rounds_iff hrequest⟩
  · rw [harguments, p.definitions_words hkey, hrunIdKey, hrepetition, hepochFreq, hemptyFreq]
  · rw [harguments, p.get?_settings_words hkey, hrunIdKey, hrepetition, hepochFreq, hemptyFreq]

/-- In the built-in plan for the queue, every request defines three parameters. -/
theorem definesEach_crturn :
    (Matrix.plan .crturn).validate = .ok () ∧ (Matrix.plan .crturn).harness.runIdKey ≠ "epochf" ∧
      (Matrix.plan .crturn).harness.runIdKey ≠ "emptyf" ∧
      ∃ requests, (Matrix.plan .crturn).requests = .ok requests ∧
        ∀ request ∈ requests, (Matrix.plan .crturn).DefinesEach request := by
  have hvalid : (Matrix.plan .crturn).validate = .ok () := by decide +kernel
  have hepoch : (Matrix.plan .crturn).harness.runIdKey ≠ "epochf" := by decide
  have hempty : (Matrix.plan .crturn).harness.runIdKey ≠ "emptyf" := by decide
  obtain ⟨requests, hrequests, hdefines⟩ := definesEach_iff hvalid
  refine ⟨hvalid, hepoch, hempty, requests, hrequests, fun request hrequest => ?_⟩
  obtain ⟨-, -, hiff⟩ := hdefines request hrequest
  exact hiff.2 ⟨hepoch, hempty⟩

/-- Two repetitions that are counted in the parameter for the epoch. -/
def epochPlan : Plan :=
  { name := "p", repetitions := 2, subjects := ⟨["NIL"]⟩, harness := { runIdKey := "epochf" }
    axes := .ofList [("g", ⟨[1]⟩)]
    experiments := [{ name := "k", family := "g", selector := 1, mode := 2, output := .ofString "o.csv" }] }

/-- The plan is valid, but its requests define two parameters, and the epoch advances every `0` or `1` times
    instead of every `110`. -/
theorem not_definesEach_epochPlan :
    epochPlan.validate = .ok () ∧ epochPlan.harness.epochFreq = 110 ∧
      ∃ requests, epochPlan.requests = .ok requests ∧
        requests.map (fun request => (settings request.arguments).entries) =
          [[("emptyf", "120"), ("epochf", "0")], [("emptyf", "120"), ("epochf", "1")]] ∧
        ∀ request ∈ requests, ¬ epochPlan.DefinesEach request := by
  have hvalid : epochPlan.validate = .ok () := by decide +kernel
  have hplan : epochPlan.Valid := (validate_eq_ok_iff _).1 hvalid
  refine ⟨hvalid, rfl, epochPlan.rounds, requests_of_valid hplan, by decide +kernel, ?_⟩
  intro request hrequest hdefines
  exact ((hplan.definesEach_rounds_iff hrequest).1 hdefines).1 rfl

end Plan
end BenchSweep
