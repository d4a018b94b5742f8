/-
  A dry run is read back line by line.

  A dry run writes each request on a line, and a reader of its text cuts it at the line feeds and each line
  into words.  Two things can go wrong: a text of the plan has a line feed, which the line shows as it is,
  or the program, which is shown without quotes, is not one word.  This file says that nothing else can.

  1. **Lines** (`Text.linesOf_flatMap`).  Texts that were written with a line feed behind each are cut into
     the pieces of all of them, so there are as many lines as texts exactly if no text has a line feed.

  2. **One request** (`Request.newline_mem_display_iff`).  Quotes add no line feed and take none away, and
     of the words of a request only the free ones can have one: numbers, flags and the texts of usable axes
     and subjects have no blanks.

  3. **The whole text** (`Sweep.dryRun_reads_back_iff`).  With a command of one word, and no line feed in
     the command, the action, the name of the repetition and the outputs, every line is read as its request;
     without that the reader counts wrong or finds other words.
-/
import BenchSweep.Proofs.Arguments
import BenchSweep.Proofs.Display
import BenchSweep.Proofs.MetaText
import BenchSweep.Proofs.Transcript

namespace BenchSweep

/-! ## Lines

  A reader cannot know where one text ended and the next began; it only sees line feeds.  So it finds the
  texts again exactly if none of them has one. -/

namespace Text

/-- The pieces of a text between its line feeds, without the empty one behind a line feed at the end. -/
def linesOf (text : List Char) : List (List Char) :=
  let pieces := List.splitOn '\n' text
  if pieces.getLast? = some [] then pieces.dropLast else pieces

/-- The pieces of texts with a line feed behind each are the pieces of each, and an empty one at the end. -/
theorem splitOn_flatMap (texts : List (List Char)) :
    List.splitOn '\n' (texts.flatMap (· ++ ['\n'])) = texts.flatMap (List.splitOn '\n') ++ [[]] := by
  -- on the texts: the line feed behind the first one is where splitting starts anew
  induction texts with
  | nil => rfl
  | cons text texts ih =>
    rw [List.flatMap_cons, List.append_assoc, List.singleton_append, List.splitOn_append_cons_self, ih,
      List.flatMap_cons, List.append_assoc]

/-- The lines of such texts are the pieces of each, so a text without a line feed is one line. -/
theorem linesOf_flatMap (texts : List (List Char)) :
    linesOf (texts.flatMap (· ++ ['\n'])) = texts.flatMap (List.splitOn '\n') := by
  rw [linesOf, splitOn_flatMap]
  simp only [List.getLast?_concat, List.dropLast_concat, if_true]

end Text

/-! ## One request -/

namespace Request

/-- Between quotes a text has the line feeds that it had. -/
theorem newline_mem_quotedBody_iff (argument : List Char) : '\n' ∈ quotedBody argument ↔ '\n' ∈ argument := by
  rw [quotedBody, List.mem_flatMap]
  constructor
  · rintro ⟨c, hc, hmem⟩
    by_cases hquote : c = '\''
    · rw [if_pos hquote] at hmem
      exact absurd hmem (by decide)
    · rw [if_neg hquote, List.mem_singleton] at hmem
      rwa [hmem]
  · exact fun hmem => ⟨'\n', hmem, by decide⟩

/-- A word has line feeds on the line exactly if it has any itself. -/
theorem newline_mem_shown_iff (argument : List Char) : '\n' ∈ shown argument ↔ '\n' ∈ argument := by
  rw [shown]
  split
  · simp only [List.cons_append, List.mem_cons, List.mem_append, newline_mem_quotedBody_iff,
      List.not_mem_nil, or_false]
    simp
  · exact Iff.rfl

/-- A line has a line feed exactly if its program or one of its arguments has. -/
theorem newline_mem_line_iff (program : List Char) (arguments : List (List Char)) :
    '\n' ∈ line program arguments ↔ '\n' ∈ program ∨ ∃ argument ∈ arguments, '\n' ∈ argument := by
  have hspace : ¬ '\n' = ' ' := by decide
  simp only [line, List.mem_append, List.mem_flatMap, List.mem_cons, newline_mem_shown_iff, hspace, false_or]

/-- A number has no line feed. -/
theorem newline_not_mem_toString (n : Nat) : '\n' ∉ (toString n).toList := by
  intro hmem
  have hdigit : ('\n' : Char).isDigit = true := Parameters.isDigit_of_mem_toString hmem
  exact absurd hdigit (by decide)

/-- A flag that is given or not has no line feed. -/
theorem newline_not_mem_switch (flag : String) (h : '\n' ∉ flag.toList) (on : Bool) :
    ¬ ∃ word ∈ Parameters.switch on flag, '\n' ∈ word.toList := by
  rintro ⟨word, hword, hmem⟩
  cases on with
  | true => exact h (List.mem_singleton.1 hword ▸ hmem)
  | false => cases hword

/-- A line feed among the words of a request is one of its five texts. -/
theorem newline_mem_words_iff (p : Parameters) : (∃ word ∈ p.words, '\n' ∈ word.toList) ↔
    '\n' ∈ p.action.toList ∨ '\n' ∈ p.runIdKey.toList ∨ '\n' ∈ p.axis.toList ∨ '\n' ∈ p.subjects.toList ∨
      '\n' ∈ p.output.toList := by
  have hflags : '\n' ∉ "-i".toList ∧ '\n' ∉ "-depochf=".toList ∧ '\n' ∉ "-demptyf=".toList ∧
      '\n' ∉ "-m".toList ∧ '\n' ∉ "-r".toList ∧ '\n' ∉ "-d".toList ∧ '\n' ∉ "=".toList ∧
      '\n' ∉ "--meta".toList ∧ '\n' ∉ "-o".toList := by decide
  have hverbose := newline_not_mem_switch "-v" (by decide) p.verbose
  have hcount := newline_not_mem_switch "-c" (by decide) p.countRetired
  simp only [Parameters.words, List.mem_append, or_and_right, exists_or, hverbose, hcount, List.mem_cons,
    List.not_mem_nil, or_false, false_or, exists_eq_left, String.toList_append, newline_not_mem_toString,
    hflags, or_assoc]

/-- The text of a path has a line feed exactly if the path has its byte, also where it is no text otherwise.
    -/
theorem newline_mem_display_path_iff (p : Path) : '\n' ∈ p.display.toList ↔ 0x0A ∈ p.bytes := by
  have hmem := Text.Utf8.mem_lossy_iff (n := 0x0A) (by decide) p.bytes
  rw [Path.display, String.toList_ofList]
  refine hmem.trans ⟨?_, fun h => ⟨0x0A, h, rfl⟩⟩
  rintro ⟨b, hb, hn⟩
  rwa [← show b = 0x0A from UInt8.toNat_inj.1 hn]

/-- The line of a request has a line feed exactly if one of four texts has one. -/
theorem newline_mem_display_iff {plan : Plan} (h : plan.Valid) {repetition : UInt32} {k : Nat}
    {e : Experiment} {request : Request} (hbuild : build plan repetition k e = some request) :
    '\n' ∈ request.display.toList ↔ '\n' ∈ plan.harness.command.toList ∨
      '\n' ∈ plan.harness.action.toList ∨ '\n' ∈ plan.harness.runIdKey.toList ∨ 0x0A ∈ e.output.bytes := by
  obtain ⟨axis, -, rfl⟩ := Option.map_eq_some_iff.1 hbuild
  have hblank : Text.isBlank '\n' = true := by decide
  -- the texts of the axis and of the subjects have no blank, and a line feed is one
  have haxisText : '\n' ∉ axis.metaText.toList := fun hmem => by
    rw [Axis.isBlank_of_mem_metaText hmem] at hblank
    cases hblank
  have hsubjectsText : '\n' ∉ plan.subjects.metaText.toList := fun hmem => by
    rw [Subjects.isBlank_of_mem_metaText (fun name hname c hc => ((h.names name hname).2 c hc).2) hmem] at hblank
    cases hblank
  rw [display, String.toList_ofList, newline_mem_line_iff, argumentsFor_eq_words]
  simp only [List.mem_map, exists_exists_and_eq_and]
  rw [newline_mem_words_iff]
  simp only [Parameters.ofPlan, haxisText, hsubjectsText, false_or, newline_mem_display_path_iff]

end Request

/-! ## The whole text -/

namespace Plan

/-- No text of the plan breaks the line of a request. -/
structure OneLine (plan : Plan) : Prop where
  command : '\n' ∉ plan.harness.command.toList
  action : '\n' ∉ plan.harness.action.toList
  runIdKey : '\n' ∉ plan.harness.runIdKey.toList
  /-- No output has the byte of a line feed. -/
  outputs : ∀ e ∈ plan.experiments, 0x0A ∉ e.output.bytes

/-- A text has a line for each invocation of the plan, and the words of a line are the program and the
    arguments of the request at its place. -/
structure ReadsBack (plan : Plan) (requests : List Request) (text : List Char) : Prop where
  count : (Text.linesOf text).length = plan.invocationCount
  words : ∀ (i : Nat) (request : Request) (line : List Char), requests[i]? = some request →
    (Text.linesOf text)[i]? = some line →
      Request.textWords (String.ofList line) = request.program :: request.arguments

/-- The lines of all requests are whole exactly if no text of the plan breaks one. -/
theorem Valid.forall_newline_not_mem_display_iff {plan : Plan} (h : plan.Valid) :
    (∀ request ∈ plan.rounds, '\n' ∉ request.display.toList) ↔ plan.OneLine := by
  constructor
  · intro hlines
    have hwhole : ∀ e ∈ plan.experiments, ¬ ('\n' ∈ plan.harness.command.toList ∨
        '\n' ∈ plan.harness.action.toList ∨ '\n' ∈ plan.harness.runIdKey.toList ∨ 0x0A ∈ e.output.bytes) := by
      intro e he
      obtain ⟨request, hrequest, repetition, k, hbuild⟩ := h.exists_build_mem_rounds he
      rw [← Request.newline_mem_display_iff h hbuild]
      exact hlines request hrequest
    -- three of the four texts are the same in all requests, so one experiment is enough for them
    obtain ⟨first, hfirst⟩ := List.exists_mem_of_ne_nil plan.experiments h.experiments
    have hshared := hwhole first hfirst
    simp only [not_or] at hshared hwhole
    exact ⟨hshared.1, hshared.2.1, hshared.2.2.1, fun e he => (hwhole e he).2.2.2⟩
  · intro hone request hrequest
    obtain ⟨hk, hbuild⟩ := build_of_mem_rounds hrequest
    rw [Request.newline_mem_display_iff h hbuild]
    simp only [not_or]
    exact ⟨hone.command, hone.action, hone.runIdKey, hone.outputs _ (List.getElem_mem hk)⟩

/-- The lines of requests as a text. -/
def printed (requests : List Request) : List Char :=
  (requests.map fun request => request.display.toList).flatMap (· ++ ['\n'])

/-- What a dry run writes are the bytes of the lines. -/
theorem transcript_eq_encode (requests : List Request) :
    Harness.DryRun.transcript requests = Text.Utf8.encode (printed requests) := by
  induction requests with
  | nil => rfl
  | cons request rest ih =>
    have hprinted : printed (request :: rest) = request.display.toList ++ ['\n'] ++ printed rest := by
      rw [printed, List.map_cons, List.flatMap_cons]
      rfl
    rw [Harness.DryRun.transcript_cons, ih, hprinted]
    exact List.flatMap_append.symm

/-- There are as many lines as invocations exactly if no text of the plan breaks a line. -/
theorem Valid.length_linesOf_iff {plan : Plan} (h : plan.Valid) :
    (Text.linesOf (printed plan.rounds)).length = plan.invocationCount ↔ plan.OneLine := by
  have hcount : plan.invocationCount = (plan.rounds.map fun request => request.display.toList).length := by
    rw [List.length_map]
    exact h.enumerates_rounds.count.symm
  rw [hcount, printed, Text.linesOf_flatMap, Text.length_flatMap_splitOn_iff, List.forall_mem_map]
  exact h.forall_newline_not_mem_display_iff

/-- If none does, the lines are those of the requests. -/
theorem Valid.linesOf_printed {plan : Plan} (h : plan.Valid) (hone : plan.OneLine) :
    Text.linesOf (printed plan.rounds) = plan.rounds.map fun request => request.display.toList := by
  rw [printed, Text.linesOf_flatMap, Text.flatMap_splitOn_of_not_mem]
  exact List.forall_mem_map.2 (h.forall_newline_not_mem_display_iff.2 hone)

/-- The line of a request is read as its program and arguments exactly if the command is plain. -/
theorem words_display_of_build {plan : Plan} {repetition : UInt32} {k : Nat} {e : Experiment}
    {request : Request} (h : Request.build plan repetition k e = some request) :
    Request.textWords request.display = request.program :: request.arguments ↔
      Request.IsPlain plan.harness.command.toList := by
  obtain ⟨axis, -, rfl⟩ := Option.map_eq_some_iff.1 h
  exact Request.textWords_display_iff (List.cons_ne_nil _ _)

/-- **The whole text.**  It is read back exactly if there are no line feeds and the command is plain. -/
theorem Valid.readsBack_iff {plan : Plan} (h : plan.Valid) :
    plan.ReadsBack plan.rounds (printed plan.rounds) ↔
      plan.OneLine ∧ Request.IsPlain plan.harness.command.toList := by
  constructor
  · intro hreads
    have hone : plan.OneLine := h.length_linesOf_iff.1 hreads.count
    refine ⟨hone, ?_⟩
    -- one request is enough to see that the command is plain, and a valid plan has one
    obtain ⟨e, he⟩ := List.exists_mem_of_ne_nil plan.experiments h.experiments
    obtain ⟨request, hrequest, repetition, k, hbuild⟩ := h.exists_build_mem_rounds he
    obtain ⟨i, hi⟩ := List.mem_iff_getElem?.1 hrequest
    have hline : (Text.linesOf (printed plan.rounds))[i]? = some request.display.toList := by
      rw [h.linesOf_printed hone, List.getElem?_map, hi, Option.map_some]
    have hwords := hreads.words i request _ hi hline
    rw [String.ofList_toList] at hwords
    exact (words_display_of_build hbuild).1 hwords
  · rintro ⟨hone, hplain⟩
    refine ⟨h.length_linesOf_iff.2 hone, fun i request line hi hline => ?_⟩
    rw [h.linesOf_printed hone, List.getElem?_map, hi, Option.map_some, Option.some.injEq] at hline
    rw [← hline, String.ofList_toList]
    obtain ⟨_, hbuild⟩ := build_of_mem_rounds (List.mem_of_getElem? hi)
    exact (words_display_of_build hbuild).2 hplain

end Plan

namespace Sweep

open Harness.DryRun (Writer)

/-- With its directories, a dry run without a limit writes the lines of all requests. -/
theorem decode?_written_dryRun {plan : Plan} (h : plan.Valid) {makeDirectories : Bool} {world : World Writer}
    (hstate : world.state = ⟨[], none⟩) (hprepared : Prepared makeDirectories plan world.files) :
    Text.Utf8.decode? (run Harness.dryRun makeDirectories plan world).world.state.written =
      some (Plan.printed plan.rounds) := by
  obtain ⟨files, hrun⟩ := exists_run_eq_launchPlan Harness.dryRun (Plan.requests_of_valid h) hprepared
  have htranscribes : Transcribes none plan.rounds
      (launchPlan Harness.dryRun plan plan.rounds { world with files }) :=
    launchPlan_transcribes plan plan.rounds hstate
  have hwritten : (run Harness.dryRun makeDirectories plan world).world.state.written =
      Harness.DryRun.transcript plan.rounds := by
    rw [hrun]
    exact htranscribes.written
  rw [hwritten, Plan.transcript_eq_encode, Text.Utf8.decode?_encode]

/-- **A dry run is read back line by line** exactly if the texts of the plan let it: there is a line for each
    invocation if and only if the command, the action, the name of the repetition and the outputs are free of
    line feeds, and each line has the program and the arguments of its request as its words if and only if
    the command has no space and no quote besides.  Any other text of a valid plan does no harm. -/
theorem dryRun_reads_back_iff {plan : Plan} (h : plan.validate = .ok ()) (makeDirectories : Bool)
    (world : World Writer) (hstate : world.state = ⟨[], none⟩)
    (hprepared : Prepared makeDirectories plan world.files) :
    ∃ requests text, plan.requests = .ok requests ∧
      Text.Utf8.decode? (run Harness.dryRun makeDirectories plan world).world.state.written = some text ∧
      ((Text.linesOf text).length = plan.invocationCount ↔ plan.OneLine) ∧
      (plan.ReadsBack requests text ↔ plan.OneLine ∧ Request.IsPlain plan.harness.command.toList) := by
  have hvalid : plan.Valid := (Plan.validate_eq_ok_iff plan).1 h
  exact ⟨plan.rounds, Plan.printed plan.rounds, Plan.requests_of_valid hvalid,
    decode?_written_dryRun hvalid hstate hprepared, hvalid.length_linesOf_iff, hvalid.readsBack_iff⟩

/-- Nothing written, no limit, and an empty tree. -/
def blankWorld : World Writer := ⟨⟨.directory [], []⟩, default, ⟨[], none⟩⟩

/-- Where no directories are asked for, nothing is missing. -/
theorem prepared_false (plan : Plan) (files : Files) : Prepared false plan files :=
  fun h => absurd h Bool.false_ne_true

/-- The dry run of the built-in plan for the queue is read back. -/
theorem dryRun_reads_back_crturn :
    (Matrix.plan .crturn).validate = .ok () ∧ blankWorld.state = ⟨[], none⟩ ∧
      Prepared false (Matrix.plan .crturn) blankWorld.files ∧
      ∃ requests text, (Matrix.plan .crturn).requests = .ok requests ∧
        Text.Utf8.decode? (run Harness.dryRun false (Matrix.plan .crturn) blankWorld).world.state.written =
          some text ∧
        (Matrix.plan .crturn).ReadsBack requests text := by
  have hvalid : (Matrix.plan .crturn).validate = .ok () := by decide +kernel
  have hprepared := prepared_false (Matrix.plan .crturn) blankWorld.files
  have hone : (Matrix.plan .crturn).OneLine :=
    { command := by decide, action := by decide, runIdKey := by decide, outputs := by decide +kernel }
  have hplain : Request.IsPlain (Matrix.plan .crturn).harness.command.toList := by decide
  obtain ⟨requests, text, hrequests, htext, -, hreads⟩ :=
    dryRun_reads_back_iff hvalid false blankWorld rfl hprepared
  exact ⟨hvalid, rfl, hprepared, requests, text, hrequests, htext, hreads.2 ⟨hone, hplain⟩⟩

/-- One invocation of an action with a line feed. -/
def brokenPlan : Plan :=
  { name := "p", repetitions := 1, subjects := ⟨["NIL"]⟩, harness := { action := "main\nmore" }
    axes := .ofList [("g", ⟨[1]⟩)]
    experiments := [{ name := "k", family := "g", selector := 1, mode := 2, output := .ofString "o.csv" }] }

/-- The same with a usual action and a command of two words. -/
def spacedPlan : Plan := { brokenPlan with harness := { command := "my harness" } }

/-- Both plans are valid, and neither is read back: one has two lines for its invocation, and the line of the
    other starts with a word that is not the program. -/
theorem not_readsBack_brokenPlan :
    (brokenPlan.validate = .ok () ∧ brokenPlan.invocationCount = 1 ∧ ∃ requests text,
      brokenPlan.requests = .ok requests ∧
      Text.Utf8.decode? (run Harness.dryRun false brokenPlan blankWorld).world.state.written = some text ∧
      (Text.linesOf text).length = 2 ∧ ¬ brokenPlan.ReadsBack requests text) ∧
    (spacedPlan.validate = .ok () ∧ ∃ requests text, spacedPlan.requests = .ok requests ∧
      Text.Utf8.decode? (run Harness.dryRun false spacedPlan blankWorld).world.state.written = some text ∧
      (Text.linesOf text).map (fun line => (Request.textWords (String.ofList line)).head?) = [some "my"] ∧
      ¬ spacedPlan.ReadsBack requests text) := by
  have hbroken : brokenPlan.validate = .ok () := by decide +kernel
  have hspaced : spacedPlan.validate = .ok () := by decide +kernel
  have hbrokenValid : brokenPlan.Valid := (Plan.validate_eq_ok_iff _).1 hbroken
  have hspacedValid : spacedPlan.Valid := (Plan.validate_eq_ok_iff _).1 hspaced
  refine ⟨⟨hbroken, by decide, _, _, Plan.requests_of_valid hbrokenValid,
      decode?_written_dryRun hbrokenValid rfl (prepared_false _ _), by decide +kernel, fun hreads => ?_⟩,
    hspaced, _, _, Plan.requests_of_valid hspacedValid,
      decode?_written_dryRun hspacedValid rfl (prepared_false _ _), by decide +kernel, fun hreads => ?_⟩
  · exact (hbrokenValid.readsBack_iff.1 hreads).1.action (by decide)
  · exact absurd (hspacedValid.readsBack_iff.1 hreads).2 (by decide)

end Sweep
end BenchSweep
