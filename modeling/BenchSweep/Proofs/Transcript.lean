/-
  What a dry run writes.

  A dry run hands each request to a writer as a line.  The writer may have room for so many bytes only; it
  then takes the part of a line that fits, the line counts as refused, and the sweep ends.

  1. **One write** (`Writer.write_eq`).  What is left out of a write depends on the bytes alone, not on how
     they were cut into writes before: two writes are one (`Writer.after_append`), and a writer that was too
     small once has no room for more (`Writer.after_append_of_not_fits`).

  2. **All requests** (`launch_dryRun`).  By induction on the requests the writer ends up as after one write
     of the whole `transcript`, whether the sweep came to its end or not.  It does so exactly if the
     transcript fits; else it ends at the request with whose line the transcript first does not.

  3. **The sweep** (`dryRun_transcribes`).  With room for `n` bytes a writer holds the first `n` bytes of the
     transcript, and the requests shown are those that any harness gets which launches them all.
-/
import BenchSweep.Harness.DryRun
import BenchSweep.Proofs.Selection
import BenchSweep.Proofs.Utf8

namespace BenchSweep
namespace Harness.DryRun

/-! ## The transcript

  The transcript is what a writer without a limit would hold.  Everything later is said by its length and
  its front parts. -/

/-- The lines of requests one after the other, each with a line feed behind it. -/
def transcript (requests : List Request) : List UInt8 :=
  requests.flatMap fun request => request.display.toByteArray.data.toList ++ [0x0A]

/-- A line is the text of its request and a line feed. -/
theorem lineOf_eq (request : Request) :
    lineOf request = request.display.toByteArray.data.toList ++ [0x0A] := by
  rw [lineOf, Text.Utf8.encode, List.flatMap_append, ← Text.Utf8.encode, Text.Utf8.encode_eq_toByteArray]
  rfl

/-- No request shows nothing. -/
theorem transcript_nil : transcript [] = [] := rfl

/-- The first request shows first. -/
theorem transcript_cons (request : Request) (rest : List Request) :
    transcript (request :: rest) = lineOf request ++ transcript rest := by
  rw [lineOf_eq, transcript, List.flatMap_cons]
  rfl

/-- Requests one after the other show one after the other. -/
theorem transcript_append (a b : List Request) : transcript (a ++ b) = transcript a ++ transcript b :=
  List.flatMap_append

/-- Every request shows, be it only by its line feed. -/
theorem length_le_length_transcript (requests : List Request) :
    requests.length ≤ (transcript requests).length := by
  induction requests with
  | nil => exact Nat.le_refl 0
  | cons request rest ih =>
    rw [transcript_cons, lineOf_eq]
    simp only [List.length_cons, List.length_append]
    omega

/-! ## One write

  A write is told by `after`, the writer behind it, and by `Fits`, whether it was whole.  Both are laws
  about appended bytes, so that the induction over the requests never looks at a single byte. -/

namespace Writer

/-- The bytes fit into what room there is. -/
def Fits (writer : Writer) (bytes : List UInt8) : Prop := ∀ room ∈ writer.room, bytes.length ≤ room

/-- The part of the bytes that fits. -/
def fitting (writer : Writer) (bytes : List UInt8) : List UInt8 :=
  match writer.room with
  | none => bytes
  | some room => bytes.take room

/-- The writer behind a write. -/
def after (writer : Writer) (bytes : List UInt8) : Writer :=
  { written := writer.written ++ writer.fitting bytes, room := writer.room.map (· - bytes.length) }

/-- A write takes what fits, and is whole exactly if that is everything. -/
theorem write_eq (writer : Writer) (bytes : List UInt8) :
    (writer.write bytes).2 = writer.after bytes ∧ ((writer.write bytes).1 = true ↔ writer.Fits bytes) := by
  obtain ⟨written, room⟩ := writer
  cases room with
  | none => exact ⟨rfl, by simp [write, Fits]⟩
  | some room =>
    have hlength : (bytes.take room).length = min room bytes.length := List.length_take
    constructor
    · -- what was written and what was given leave the same room, for room cannot fall below zero
      have hleft : room - (bytes.take room).length = room - bytes.length := by omega
      show Writer.mk _ _ = Writer.mk _ _
      rw [hleft]
      rfl
    · show ((bytes.take room).length == bytes.length) = true ↔ _
      simp only [Fits, beq_iff_eq, hlength, Option.mem_some_iff, forall_eq']
      omega

/-- Writing nothing changes nothing. -/
theorem after_nil (writer : Writer) : writer.after [] = writer := by
  obtain ⟨written, room⟩ := writer
  cases room <;> simp [after, fitting]

/-- Nothing always fits. -/
theorem fits_nil (writer : Writer) : writer.Fits [] := fun room _ => Nat.zero_le room

/-- Two writes are one write of both. -/
theorem after_append (writer : Writer) (a b : List UInt8) :
    writer.after (a ++ b) = (writer.after a).after b := by
  obtain ⟨written, room⟩ := writer
  cases room with
  | none => simp [after, fitting]
  | some room => simp [after, fitting, List.take_append, Nat.sub_sub]

/-- Both of two writes are whole exactly if one write of both is. -/
theorem fits_append {writer : Writer} {a b : List UInt8} :
    writer.Fits (a ++ b) ↔ writer.Fits a ∧ (writer.after a).Fits b := by
  obtain ⟨written, room⟩ := writer
  cases room with
  | none => simp [Fits, after]
  | some room =>
    simp only [Fits, after, Option.mem_some_iff, forall_eq', Option.map_some, List.length_append]
    omega

/-- Behind a write that does not fit, nothing more is taken. -/
theorem after_append_of_not_fits {writer : Writer} {a : List UInt8} (h : ¬ writer.Fits a)
    (b : List UInt8) : (writer.after (a ++ b)) = writer.after a := by
  obtain ⟨written, room⟩ := writer
  cases room with
  | none => exact absurd (fun _ hr => by cases hr) h
  | some room =>
    simp only [Fits, Option.mem_some_iff, forall_eq'] at h
    -- no room is left behind what did not fit
    have hnone : room - a.length = 0 := by omega
    rw [after_append]
    simp [after, fitting, hnone]

end Writer
end Harness.DryRun

namespace Sweep

open Harness.DryRun (Writer transcript transcript_nil transcript_cons transcript_append lineOf)
open CommandLine (blockedPlan blockedFiles)

variable {σ ε : Type}

/-! ## All requests

  The harness of a dry run answers with success as long as its lines fit, so the sweep goes on exactly so
  long.  `EndsBy` says in which of the two ways it ends and is what the induction carries. -/

/-- One request is one write of its line. -/
theorem dryRun_eq (request : Request) (world : World Writer) :
    (Harness.dryRun request world).2 = { world with state := world.state.after (lineOf request) } ∧
      ((Harness.dryRun request world).1 = .ok .succeeded ∧ world.state.Fits (lineOf request) ∨
        (Harness.dryRun request world).1 = .error .full ∧ ¬ world.state.Fits (lineOf request)) := by
  obtain ⟨hafter, hwhole⟩ := world.state.write_eq (lineOf request)
  refine ⟨?_, ?_⟩
  · rw [← hafter]
    rfl
  · rw [← hwhole]
    cases hw : (world.state.write (lineOf request)).1 with
    | true => exact Or.inl ⟨by simp only [Harness.dryRun, hw]; rfl, rfl⟩
    | false => exact Or.inr ⟨by simp only [Harness.dryRun, hw]; rfl, Bool.false_ne_true⟩

/-- How launches with a writer end: it took all lines, or one request is the first with whose line they do
    not fit. -/
def EndsBy (writer : Writer) (clock : Moment) (requests : List Request) :
    Except (Fault Harness.DryRun.Fault) (List Outcome) → Prop
  | .ok outcomes => writer.Fits (transcript requests) ∧
      outcomes = requests.map fun request => outcomeOf request .succeeded clock clock
  | .error fault => ∃ before last rest, requests = before ++ last :: rest ∧
      writer.Fits (transcript before) ∧ ¬ writer.Fits (transcript (before ++ [last])) ∧
      fault = .aborted last.repetition last.experiment .full

/-- One more request in front, the line of which fits. -/
theorem EndsBy.cons {writer : Writer} {clock : Moment} {request : Request} {rest : List Request}
    {result : Except (Fault Harness.DryRun.Fault) (List Outcome)} (hfits : writer.Fits (lineOf request))
    (h : EndsBy (writer.after (lineOf request)) clock rest result) :
    EndsBy writer clock (request :: rest)
      (result.map (outcomeOf request .succeeded clock clock :: ·)) := by
  -- a transcript with one more line fits if the rest fits behind that line
  have hcons : ∀ requests, writer.Fits (transcript (request :: requests)) ↔
      (writer.after (lineOf request)).Fits (transcript requests) := fun requests => by
    rw [transcript_cons, Writer.fits_append, and_iff_right hfits]
  cases result with
  | ok outcomes =>
    obtain ⟨hrest, rfl⟩ := h
    exact ⟨(hcons rest).2 hrest, rfl⟩
  | error fault =>
    obtain ⟨before, last, behind, rfl, hbefore, hlast, hfault⟩ := h
    exact ⟨request :: before, last, behind, rfl, (hcons before).2 hbefore,
      fun hall => hlast ((hcons (before ++ [last])).1 hall), hfault⟩

/-- Launches that end at a request leave some of the transcript out. -/
theorem EndsBy.not_fits {writer : Writer} {clock : Moment} {requests : List Request}
    {fault : Fault Harness.DryRun.Fault} (h : EndsBy writer clock requests (.error fault)) :
    ¬ writer.Fits (transcript requests) := by
  obtain ⟨before, last, rest, rfl, -, hlast, -⟩ := h
  have hsplit : transcript (before ++ last :: rest) = transcript (before ++ [last]) ++ transcript rest := by
    rw [← transcript_append, List.append_assoc]
    rfl
  rw [hsplit, Writer.fits_append]
  exact fun hall => hlast hall.1

/-- **All requests.**  Behind the launches the writer is as behind one write of the whole transcript, and the
    launches end by what fits. -/
theorem launch_dryRun (total : Nat) (requests : List Request) (done : Nat) (world : World Writer) :
    (launch Harness.dryRun total done requests world).world =
        { world with state := world.state.after (transcript requests) } ∧
      EndsBy world.state world.clock requests (launch Harness.dryRun total done requests world).result := by
  induction requests generalizing done world with
  | nil => exact ⟨by rw [transcript_nil, Writer.after_nil]; rfl, Writer.fits_nil _, rfl⟩
  | cons request rest ih =>
    obtain ⟨hworld, hanswer⟩ := dryRun_eq request world
    rw [launch]
    cases hrun : Harness.dryRun request world with
    | mk answer behind =>
      rw [hrun] at hworld hanswer
      obtain rfl : behind = _ := hworld
      obtain ⟨rfl, hfits⟩ | ⟨rfl, hfits⟩ := hanswer
      · -- the line fits, and the rest of the requests meets the writer behind it
        obtain ⟨hrest, hends⟩ := ih (done + 1) { world with state := world.state.after (lineOf request) }
        refine ⟨?_, hends.cons hfits⟩
        rw [transcript_cons, Writer.after_append]
        exact hrest
      · -- the line was cut off, and nothing of those behind it would be taken
        refine ⟨?_, [], request, rest, rfl, Writer.fits_nil _, ?_, rfl⟩
        · rw [transcript_cons, Writer.after_append_of_not_fits hfits]
        · rwa [List.nil_append, transcript_cons, transcript_nil, List.append_nil]

/-! ## The sweep

  The launches start with a fresh writer, and the report of a plan is put behind them.  Only the directories
  of the outputs can come in between, so they are named as a condition of their own. -/

/-- What a sweep over a writer with room for `limit` bytes comes to; none is no limit. -/
structure Transcribes (limit : Option Nat) (requests : List Request)
    (run : Run Writer (Fault Harness.DryRun.Fault) Report) : Prop where
  /-- The writer holds so many bytes of the transcript, whatever is behind them. -/
  written : run.world.state.written =
    match limit with
    | none => transcript requests
    | some n => (transcript requests).take (min n (transcript requests).length)
  succeeds : (∃ report, run.result = .ok report) ↔ ∀ n, limit = some n → (transcript requests).length ≤ n
  /-- Every request has an outcome, in order, and all succeeded. -/
  outcomes : ∀ report, run.result = .ok report →
    (report.outcomes.map fun o => (o.repetition, o.experiment, o.output, o.status)) =
      requests.map fun r => (r.repetition, r.experiment, r.output, Status.succeeded)
  /-- Otherwise it ends at the first request with a line that goes beyond the limit. -/
  aborts : ∀ fault, run.result = .error fault → ∃ n before last rest, limit = some n ∧
    requests = before ++ last :: rest ∧ (transcript before).length ≤ n ∧
    n < (transcript (before ++ [last])).length ∧
    fault = .aborted last.repetition last.experiment .full

/-- Behind one write of everything, a fresh writer holds what there is room for. -/
theorem written_after_fresh (limit : Option Nat) (bytes : List UInt8) :
    (Writer.after ⟨[], limit⟩ bytes).written =
      match limit with
      | none => bytes
      | some n => bytes.take (min n bytes.length) := by
  cases limit with
  | none => rfl
  | some n => exact List.take_eq_take_min

/-- The launches of a plan transcribe its requests. -/
theorem launchPlan_transcribes (plan : Plan) (requests : List Request) {limit : Option Nat}
    {world : World Writer} (hstate : world.state = ⟨[], limit⟩) :
    Transcribes limit requests (launchPlan Harness.dryRun plan requests world) := by
  obtain ⟨hlaunched, hends⟩ := launch_dryRun requests.length requests 0 world
  obtain ⟨hworld, hreport⟩ := launchPlan_eq Harness.dryRun plan requests world
  have hwritten := written_after_fresh limit (transcript requests)
  rw [hlaunched] at hworld
  rw [← hstate, ← congrArg (fun w => w.state.written) hworld] at hwritten
  have hfits : ∀ bytes, world.state.Fits bytes ↔ ∀ n, limit = some n → bytes.length ≤ n := by
    intro bytes
    rw [hstate]
    rfl
  cases hresult : (launch Harness.dryRun requests.length 0 requests world).result with
  | error fault =>
    rw [hresult] at hends hreport
    have hnot := hends.not_fits
    obtain ⟨before, last, rest, hrequests, hbefore, hlast, hfault⟩ := hends
    rw [hfits] at hbefore hlast hnot
    -- there is a limit, for otherwise everything would fit
    obtain ⟨n, hn, hlong⟩ : ∃ n, limit = some n ∧ n < (transcript (before ++ [last])).length := by
      simpa using hlast
    refine ⟨hwritten, ⟨fun ⟨report, h⟩ => ?_, fun hall => absurd hall hnot⟩, fun report h => ?_,
      fun other h => ?_⟩
    · rw [hreport] at h
      cases h
    · rw [hreport] at h
      cases h
    · rw [hreport] at h
      obtain rfl : fault = other := Except.error.inj h
      exact ⟨n, before, last, rest, hn, hrequests, hbefore n hn, hlong, hfault⟩
  | ok outcomes =>
    rw [hresult] at hends hreport
    obtain ⟨hall, rfl⟩ := hends
    refine ⟨hwritten, ⟨fun _ => (hfits _).1 hall, fun _ => ⟨_, hreport⟩⟩, fun report h => ?_,
      fun fault h => ?_⟩
    · rw [hreport] at h
      obtain rfl := Except.ok.inj h
      simp only [List.map_map]
      rfl
    · rw [hreport] at h
      cases h

/-- The directories of the outputs are there or can be made, if they are to be made. -/
def Prepared (makeDirectories : Bool) (plan : Plan) (files : Files) : Prop :=
  makeDirectories = true →
    (makeOutputDirectories files (plan.experiments.map Experiment.output)).1 = .ok ()

/-- With its directories a run is its launches, in the world that has them. -/
theorem exists_run_eq_launchPlan (harness : Harness σ ε) {makeDirectories : Bool} {plan : Plan}
    {requests : List Request} (hrequests : plan.requests = .ok requests) {world : World σ}
    (h : Prepared makeDirectories plan world.files) :
    ∃ files, run harness makeDirectories plan world =
      launchPlan harness plan requests { world with files } := by
  simp only [run, hrequests]
  cases makeDirectories with
  | false => exact ⟨world.files, rfl⟩
  | true =>
    have hmade := h rfl
    cases hmk : makeOutputDirectories world.files (plan.experiments.map Experiment.output) with
    | mk made files =>
      rw [hmk] at hmade
      obtain rfl : made = .ok () := hmade
      exact ⟨files, rfl⟩

/-- With its directories a plan is due for all its requests. -/
theorem requestsDue_of_prepared {makeDirectories : Bool} {plan : Plan} {requests : List Request}
    (hrequests : plan.requests = .ok requests) {files : Files} (h : Prepared makeDirectories plan files) :
    requestsDue makeDirectories plan files = requests := by
  simp only [requestsDue, hrequests]
  cases makeDirectories with
  | false => rfl
  | true =>
    have hmade := h rfl
    cases hmk : makeOutputDirectories files (plan.experiments.map Experiment.output) with
    | mk made files =>
      rw [hmk] at hmade
      obtain rfl : made = .ok () := hmade
      rfl

/-- A harness that launches everything gets all requests of one plan. -/
theorem map_request_calls_singleton {harness : Harness σ ε} (h : NeverRefuses harness)
    {makeDirectories : Bool} {plan : Plan} {requests : List Request}
    (hrequests : plan.requests = .ok requests) {world : World σ}
    (hprepared : Prepared makeDirectories plan world.files) :
    (calls harness makeDirectories [plan] world).map Call.request = requests := by
  rw [calls_singleton, callsOf_of_neverRefuses h, requestsDue_of_prepared hrequests hprepared]

/-- **A dry run shows the requests.**  On a plan that is not valid nothing is written, nor is it without the
    directories.  On a valid plan the writer gets the lines of all requests, or the front of them for which
    there is room; and these are the requests that every harness gets which launches them all. -/
theorem dryRun_transcribes (makeDirectories : Bool) (plan : Plan) (limit : Option Nat)
    (world : World Writer) (hstate : world.state = ⟨[], limit⟩) :
    (∀ fault, plan.validate = .error fault →
      (run Harness.dryRun makeDirectories plan world).result = .error (.invalid fault) ∧
        (run Harness.dryRun makeDirectories plan world).world = world) ∧
    (∀ p fault, plan.validate = .ok () → makeDirectories = true →
      (makeOutputDirectories world.files (plan.experiments.map Experiment.output)).1 = .error (p, fault) →
      (run Harness.dryRun makeDirectories plan world).result = .error (.directory p fault) ∧
        (run Harness.dryRun makeDirectories plan world).world.state = world.state) ∧
    (plan.validate = .ok () → ∃ requests, plan.requests = .ok requests ∧
      (Prepared makeDirectories plan world.files →
        Transcribes limit requests (run Harness.dryRun makeDirectories plan world)) ∧
      ∀ {σ ε : Type} (other : Harness σ ε) (world' : World σ), NeverRefuses other →
        Prepared makeDirectories plan world'.files →
        (calls other makeDirectories [plan] world').map Call.request = requests) := by
  have hpromise := runsInOrder_callsOf Harness.dryRun makeDirectories plan world
  refine ⟨fun fault hfault => ?_, fun p fault hvalid hmake hdirectory => ?_, fun hvalid => ?_⟩
  · obtain ⟨hresult, -, hworld⟩ := hpromise.invalid fault hfault
    exact ⟨hresult, hworld⟩
  · obtain ⟨hresult, -, hkept⟩ := hpromise.noDirectory p fault hvalid hmake hdirectory
    exact ⟨hresult, hkept⟩
  · have hrequests := Plan.requests_of_valid ((Plan.validate_eq_ok_iff plan).1 hvalid)
    refine ⟨plan.rounds, hrequests, fun hprepared => ?_, fun other world' hnever hprepared' => ?_⟩
    · -- making directories leaves the writer as it is, so the launches begin with a fresh one
      obtain ⟨files, hrun⟩ := exists_run_eq_launchPlan Harness.dryRun hrequests hprepared
      rw [hrun]
      exact launchPlan_transcribes plan plan.rounds hstate
    · exact map_request_calls_singleton hnever hrequests hprepared'

/-- The built-in plan for the queue on a writer that is full in front of the third line feed, and the same
    plan with a harness whose invocations all fail. -/
theorem dryRun_transcribes_crturn :
    (Matrix.plan .crturn).validate = .ok () ∧
      ∃ requests, (Matrix.plan .crturn).requests = .ok requests ∧
        Transcribes (some 862) requests
          (run Harness.dryRun false (Matrix.plan .crturn) ⟨⟨.directory [], []⟩, default, ⟨[], some 862⟩⟩) ∧
        (calls (fun _ world => (.ok (.failed none), world) : Harness Unit String) false
          [Matrix.plan .crturn] ⟨⟨.directory [], []⟩, default, ()⟩).map Call.request = requests := by
  have hvalid : (Matrix.plan .crturn).validate = .ok () := by decide +kernel
  have hprepared : ∀ files, Prepared false (Matrix.plan .crturn) files :=
    fun _ h => absurd h Bool.false_ne_true
  obtain ⟨-, -, hshown⟩ := dryRun_transcribes false (Matrix.plan .crturn) (some 862)
    ⟨⟨.directory [], []⟩, default, ⟨[], some 862⟩⟩ rfl
  obtain ⟨requests, hrequests, htranscribes, hcalls⟩ := hshown hvalid
  exact ⟨hvalid, requests, hrequests, htranscribes (hprepared _),
    hcalls _ _ (fun _ _ => ⟨_, rfl⟩) (hprepared _)⟩

/-- A valid plan whose output directory cannot be made: there is no limit, but nothing is written. -/
theorem not_transcribes_blockedPlan : blockedPlan.validate = .ok () ∧
    ¬ ∃ requests, blockedPlan.requests = .ok requests ∧ Transcribes none requests
      (run Harness.dryRun true blockedPlan ⟨blockedFiles, default, ⟨[], none⟩⟩) := by
  have hvalid : blockedPlan.validate = .ok () := by decide +kernel
  refine ⟨hvalid, fun ⟨requests, hrequests, htranscribes⟩ => ?_⟩
  obtain ⟨-, rfl⟩ := (Plan.requests_eq_ok_iff _ requests).1 hrequests
  have hwritten := congrArg List.length htranscribes.written
  have hsilent : (run Harness.dryRun true blockedPlan
      ⟨blockedFiles, default, ⟨[], none⟩⟩).world.state.written.length = 0 := by decide +kernel
  have hrounds : 0 < blockedPlan.rounds.length := by decide +kernel
  have hline : 0 < (transcript blockedPlan.rounds).length :=
    Nat.lt_of_lt_of_le hrounds (Harness.DryRun.length_le_length_transcript _)
  rw [hsilent] at hwritten
  exact absurd hwritten (Nat.ne_of_lt hline)

end Sweep
end BenchSweep
