/-
  Where the harness is told to append.

  A sweep knows the output of an experiment by its bytes: the outputs are compared by them, and the
  directories are made for them.  The harness knows it by a word of its arguments, and a word is a text.
  This file says how far the two agree.

  1. **The word** (`Request.destination?`).  It is the last one and stands behind the last `-o`, so a free
     text in front that looks like the flag does no harm.  It is the text of the output in which what is
     no character is marked (`Valid.destination?_of_mem`).

  2. **What marking keeps** (`ofString_display_iff`).  The word has the bytes of the path exactly when the
     path is UTF-8; paths that are not are told apart only by what is left of them.

  3. **What a plan tells** (`destinations_of_valid`).  If all outputs are UTF-8, every experiment is sent
     to its own file, the one whose directory is made.  If one is not, the harness appends to another file,
     which may be the file of another experiment (`destinations_unreadablePlan`).
-/
import BenchSweep.Proofs.Arguments
import BenchSweep.Proofs.Enumeration
import BenchSweep.Proofs.Utf8

namespace BenchSweep

/-! ## What marking keeps

  Marking puts one character in the place of what begins none.  It leaves texts alone, and nothing that it
  returns fails to be a text, so the texts are all that it keeps. -/

namespace Text.Utf8

/-- Nothing is marked in bytes that are a text. -/
theorem lossy_encode (s : List Char) : lossy (encode s) = s := by
  rw [lossy, scan_encode, List.map_map]
  exact List.map_id s

end Text.Utf8

namespace Path

/-- The path of a text is shown as the text. -/
theorem display_ofString (s : String) : (ofString s).display = s := by
  rw [display, ofString, Text.Utf8.lossy_encode, String.ofList_toList]

/-- The shown text is the path again exactly when the path has a text. -/
theorem ofString_display_iff {p : Path} : ofString p.display = p ↔ p.text?.isSome = true := by
  constructor
  · intro h
    rw [← h, text?_ofString, Option.isSome_some]
  · intro h
    obtain ⟨s, hs⟩ := Option.isSome_iff_exists.1 h
    have hp : ofString s = p := ofString_of_text? hs
    rw [← hp, display_ofString]

/-- The bytes of a text are those of the path that it names. -/
theorem bytes_ofString (s : String) : (ofString s).bytes = s.toByteArray.data.toList :=
  Text.Utf8.encode_eq_toByteArray s

/-- A text has the bytes of a path exactly if it names the path. -/
theorem eq_ofString_iff {p : Path} {s : String} : s.toByteArray.data.toList = p.bytes ↔ ofString s = p := by
  rw [← bytes_ofString, mk.injEq]

/-- Two paths are shown alike exactly if nothing but what is marked tells them apart. -/
theorem display_eq_iff {p q : Path} :
    p.display = q.display ↔ Text.Utf8.lossy p.bytes = Text.Utf8.lossy q.bytes :=
  String.ofList_inj

end Path

/-! ## The word of the output

  The arguments end with `-o` and the shown output.  So the word is found from the end, and no free text in
  front of it is ever looked at. -/

namespace Request

/-- The file that the arguments name: the word behind the last `-o`, if that is the last but one. -/
def destination? (request : Request) : Option String :=
  match request.arguments.reverse with
  | text :: "-o" :: _ => some text
  | _ => none

/-- The arguments name the output by its bytes. -/
def NamesOutput (request : Request) : Prop :=
  ∃ text, request.destination? = some text ∧ text.toByteArray.data.toList = request.output.bytes

/-- A request that was built names its output as it is shown. -/
theorem destination?_of_build {plan : Plan} {repetition : UInt32} {k : Nat} {e : Experiment}
    {request : Request} (h : build plan repetition k e = some request) :
    request.destination? = some request.output.display := by
  obtain ⟨axis, -, harguments⟩ := arguments_of_build h
  obtain ⟨-, -, -, houtput⟩ := fields_of_build h
  rw [destination?, harguments, houtput, Parameters.words, List.reverse_append]
  rfl

/-- A destination that is the shown text has the bytes of the output if there is nothing to mark. -/
theorem namesOutput_iff {request : Request} (h : request.destination? = some request.output.display) :
    request.NamesOutput ↔ request.output.text?.isSome = true := by
  rw [← Path.ofString_display_iff, NamesOutput, h]
  simp only [Option.some.injEq, exists_eq_left', Path.eq_ofString_iff]

end Request

/-! ## The outputs of a plan

  Requests have the outputs of their experiments, and the outputs of a valid plan differ.  Whether their
  shown texts differ as well is the question here. -/

namespace Plan

/-- So does every request of a plan. -/
theorem destination?_of_mem_rounds {plan : Plan} {request : Request} (h : request ∈ plan.rounds) :
    request.destination? = some request.output.display := by
  obtain ⟨_, hbuild⟩ := build_of_mem_rounds h
  exact Request.destination?_of_build hbuild

/-- Every experiment of a valid plan has a request with its output. -/
theorem Valid.exists_mem_rounds {plan : Plan} (h : plan.Valid) {e : Experiment} (he : e ∈ plan.experiments) :
    ∃ request ∈ plan.rounds, request.output = e.output := by
  obtain ⟨request, hrequest, repetition, k, hbuild⟩ := h.exists_build_mem_rounds he
  obtain ⟨-, -, -, houtput⟩ := Request.fields_of_build hbuild
  exact ⟨request, hrequest, houtput⟩

/-- Requests of different experiments have different outputs. -/
theorem Valid.output_ne {plan : Plan} (h : plan.Valid) {request other : Request}
    (hrequest : request ∈ plan.rounds) (hother : other ∈ plan.rounds)
    (hne : request.kindIndex ≠ other.kindIndex) : request.output ≠ other.output := by
  obtain ⟨hk, houtput⟩ := output_of_mem_rounds hother
  intro heq
  refine hne (h.kindIndex_eq hrequest hk ?_)
  rw [heq, houtput]

/-- What the requests of a plan tell the harness about the outputs. -/
structure TellsOutputs (plan : Plan) (requests : List Request) : Prop where
  /-- The destination is the text of the output, with marks for what is none. -/
  told : ∀ request ∈ requests, request.destination? = some request.output.display
  /-- It names the output of a request exactly when that is UTF-8. -/
  named : ∀ request ∈ requests, (request.NamesOutput ↔
    ∃ s : String, request.output.bytes = s.toByteArray.data.toList)
  /-- Two requests are sent to one file exactly when the marked texts of their outputs are the same. -/
  alike : ∀ request ∈ requests, ∀ other ∈ requests, (request.destination? = other.destination? ↔
    Text.Utf8.lossy request.output.bytes = Text.Utf8.lossy other.output.bytes)
  /-- The destinations of all requests are exact if and only if all outputs of the plan are UTF-8. -/
  all : (∀ request ∈ requests, request.NamesOutput) ↔
    ∀ e ∈ plan.experiments, ∃ s : String, e.output.bytes = s.toByteArray.data.toList
  /-- Exact destinations of different experiments are different. -/
  apart : ∀ request ∈ requests, ∀ other ∈ requests, request.NamesOutput → other.NamesOutput →
    request.kindIndex ≠ other.kindIndex → request.destination? ≠ other.destination?
  /-- An exact destination is, as a path, the output of the experiment for which a directory is made. -/
  prepared : ∀ request ∈ requests, request.NamesOutput → ∃ hk : request.kindIndex < plan.experiments.length,
    request.destination?.map Path.ofString = some plan.experiments[request.kindIndex].output

/-- The requests of a valid plan tell its outputs, as far as marking keeps them. -/
theorem Valid.tellsOutputs_rounds {plan : Plan} (h : plan.Valid) : plan.TellsOutputs plan.rounds := by
  have htold : ∀ request ∈ plan.rounds, request.destination? = some request.output.display :=
    fun request hrequest => destination?_of_mem_rounds hrequest
  have hnamed : ∀ request ∈ plan.rounds, (request.NamesOutput ↔
      ∃ s : String, request.output.bytes = s.toByteArray.data.toList) := by
    intro request hrequest
    rw [Request.namesOutput_iff (htold request hrequest), Path.text?_isSome_iff]
  -- where the output is named by its bytes, the word is the path itself
  have hpath : ∀ request ∈ plan.rounds, request.NamesOutput →
      Path.ofString request.output.display = request.output := fun request hrequest hnames =>
    Path.ofString_display_iff.2 ((Request.namesOutput_iff (htold request hrequest)).1 hnames)
  refine ⟨htold, hnamed, ?_, ?_, ?_, ?_⟩
  · intro request hrequest other hother
    rw [htold request hrequest, htold other hother, Option.some.injEq, Path.display_eq_iff]
  · constructor
    · intro hall e he
      obtain ⟨request, hrequest, houtput⟩ := h.exists_mem_rounds he
      rw [← houtput]
      exact (hnamed request hrequest).1 (hall request hrequest)
    · intro hall request hrequest
      obtain ⟨hk, houtput⟩ := output_of_mem_rounds hrequest
      refine (hnamed request hrequest).2 ?_
      rw [houtput]
      exact hall _ (List.getElem_mem hk)
  · intro request hrequest other hother hnames hnames' hne hequal
    -- from equal texts the outputs themselves are read back, and these differ
    rw [htold request hrequest, htold other hother, Option.some.injEq] at hequal
    refine h.output_ne hrequest hother hne ?_
    rw [← hpath request hrequest hnames, hequal, hpath other hother hnames']
  · intro request hrequest hnames
    obtain ⟨hk, houtput⟩ := output_of_mem_rounds hrequest
    refine ⟨hk, ?_⟩
    rw [htold request hrequest, Option.map_some, hpath request hrequest hnames, houtput]

/-- **What a plan tells about its outputs.**  A valid plan has requests; each names a file, by the bytes of
    its output exactly when these are UTF-8.  Where they are, different experiments are sent to different
    files, and each to the file whose directory is made. -/
theorem destinations_of_valid {plan : Plan} (h : plan.validate = .ok ()) :
    ∃ requests, plan.requests = .ok requests ∧ plan.TellsOutputs requests :=
  have hvalid : plan.Valid := (validate_eq_ok_iff plan).1 h
  ⟨plan.rounds, requests_of_valid hvalid, hvalid.tellsOutputs_rounds⟩

/-- The built-in plan for the queue: its outputs are UTF-8, so all destinations are exact. -/
theorem destinations_of_valid_crturn :
    (Matrix.plan .crturn).validate = .ok () ∧ ∃ requests, (Matrix.plan .crturn).requests = .ok requests ∧
      (Matrix.plan .crturn).TellsOutputs requests ∧ ∀ request ∈ requests, request.NamesOutput := by
  have hvalid : (Matrix.plan .crturn).validate = .ok () := by decide +kernel
  have htexts : ∀ e ∈ (Matrix.plan .crturn).experiments, e.output.text?.isSome = true := by decide +kernel
  obtain ⟨requests, hrequests, htells⟩ := destinations_of_valid hvalid
  exact ⟨hvalid, requests, hrequests, htells,
    htells.all.2 fun e he => Path.text?_isSome_iff.1 (htexts e he)⟩

/-- Two experiments whose outputs are one byte each that begins no character. -/
def unreadablePlan : Plan :=
  { name := "p", repetitions := 1, subjects := ⟨["NIL"]⟩, axes := .ofList [("g", ⟨[1]⟩)]
    experiments :=
      [{ name := "a", family := "g", selector := 1, mode := 2, output := ⟨[0xFF]⟩ },
        { name := "b", family := "g", selector := 1, mode := 2, output := ⟨[0xFE]⟩ }] }

/-- The plan is valid, for its outputs differ, but both experiments are sent to one file that is neither. -/
theorem destinations_unreadablePlan :
    unreadablePlan.validate = .ok () ∧ ∃ requests, unreadablePlan.requests = .ok requests ∧
      requests.map Request.kindIndex = [0, 1] ∧
      requests.map Request.output = [⟨[0xFF]⟩, ⟨[0xFE]⟩] ∧
      requests.map Request.destination? = [some "\uFFFD", some "\uFFFD"] ∧
      ∀ request ∈ requests, ¬ request.NamesOutput := by
  have hvalid : unreadablePlan.validate = .ok () := by decide +kernel
  have hplan : unreadablePlan.Valid := (validate_eq_ok_iff _).1 hvalid
  have hnotext : ∀ request ∈ unreadablePlan.rounds, request.output.text?.isSome = false := by
    decide +kernel
  refine ⟨hvalid, unreadablePlan.rounds, requests_of_valid hplan, by decide +kernel, by decide +kernel,
    by decide +kernel, fun request hrequest hnames => ?_⟩
  rw [Request.namesOutput_iff (destination?_of_mem_rounds hrequest), hnotext request hrequest] at hnames
  exact Bool.false_ne_true hnames

end Plan
end BenchSweep
