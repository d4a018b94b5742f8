/-
  The calls that a harness gets.

  A harness is any function that answers a request and may change the world, so a sweep can depend on it
  in every way.  This file says which calls it gets all the same.

  1. **Observation.**  `journaled` is a harness that does what another one does and notes every call with
     its answer.  Noting changes nothing else (`launch_journaled`, `run_journaled`), so what the journal
     gains in a run are the calls of that run.

  2. **One launch after the other.**  `conversation` is what the journal gains while requests are handed
     over.  By induction on the requests it is the list of requests, cut off behind the first one whose
     launch is refused (`cutOff_conversation`), and the launches come to an error exactly in that case
     (`launch_result`).

  3. **One run after the other.**  `calls` is the journal behind a sequence of runs; each run appends its
     own calls (`calls_concat`), which start only when the plan is valid and its directories are there.

  4. **Two harnesses.**  If both launch everything, then all that can tell their calls apart is whether the
     directories could be made (`requestsDue_congr`), and an induction on the plans needs no more than that
     they fare alike plan by plan (`PreparedAlike`).
-/
import BenchSweep.Matrix
import BenchSweep.Proofs.Requests
import BenchSweep.Sweep.Basic

namespace BenchSweep

/-! ## Observing a harness

  The calls are noted by a harness of its own, which asks the one that is observed.  The observed one gets
  the world without the journal, so it cannot tell that it is observed. -/

/-- A call of a harness. -/
structure Call (ε : Type) where
  request : Request
  answer : Except ε Status

namespace Call

variable {ε : Type}

/-- The request was launched, whatever became of it. -/
def Launched (call : Call ε) : Prop := ∃ status, call.answer = .ok status

end Call

namespace World

variable {σ τ : Type}

/-- The world of a harness that keeps a journal besides its own state. -/
def withJournal (world : World σ) (journal : τ) : World (σ × τ) :=
  { files := world.files, clock := world.clock, state := (world.state, journal) }

end World

namespace Harness

variable {σ ε : Type}

/-- A harness that does what another one does and keeps every call, the last one in front. -/
def journaled (harness : Harness σ ε) : Harness (σ × List (Call ε)) ε :=
  fun request world =>
    let (answer, after) := harness request { world with state := world.state.1 }
    (answer, after.withJournal (⟨request, answer⟩ :: world.state.2))

/-- A call with a journal is the same call, and the journal gains it. -/
theorem journaled_withJournal (harness : Harness σ ε) (request : Request) (world : World σ)
    (journal : List (Call ε)) : harness.journaled request (world.withJournal journal) =
      ((harness request world).1,
        (harness request world).2.withJournal (⟨request, (harness request world).1⟩ :: journal)) :=
  rfl

end Harness

namespace Sweep

variable {σ ε : Type}

/-- The run of a harness that keeps a journal: the same run, and a journal behind it. -/
def Run.withJournal {τ α : Type} (run : Run σ ε α) (journal : τ) : Run (σ × τ) ε α :=
  { result := run.result, world := run.world.withJournal journal, log := run.log }

/-! ## One launch after the other

  Requests are handed over one by one, each in the world that the one before it has left.  The first refusal
  ends this, and the call for it is the last one. -/

/-- The calls that come about when requests are handed to a harness, up to the first refusal. -/
def conversation (harness : Harness σ ε) : List Request → World σ → List (Call ε)
  | [], _ => []
  | request :: rest, world =>
    match harness request world with
    | (.error cause, _) => [⟨request, .error cause⟩]
    | (.ok status, after) => ⟨request, .ok status⟩ :: conversation harness rest after

/-- Launches with a journal are the same launches, and the journal gains their calls. -/
theorem launch_journaled (harness : Harness σ ε) (total : Nat) :
    ∀ (requests : List Request) (done : Nat) (world : World σ) (journal : List (Call ε)),
      launch harness.journaled total done requests (world.withJournal journal) =
        (launch harness total done requests world).withJournal
          ((conversation harness requests world).reverse ++ journal) := by
  intro requests
  -- on the requests, for every world and journal that a launch may leave to the next one
  induction requests with
  | nil => intro done world journal; rfl
  | cons request rest ih =>
    intro done world journal
    rw [launch, launch, conversation, Harness.journaled_withJournal]
    obtain ⟨answer, after⟩ := harness request world
    cases answer with
    | error cause => rfl
    | ok status =>
      simp only [ih, List.reverse_cons, List.append_assoc]
      rfl

/-- Requests, cut off behind the first one whose launch is refused. -/
inductive CutOff : List Request → List (Call ε) → Prop
  | finished : CutOff [] []
  | refused (request : Request) (rest : List Request) (cause : ε) :
      CutOff (request :: rest) [⟨request, .error cause⟩]
  | launched (request : Request) (status : Status) {rest : List Request} {calls : List (Call ε)} :
      CutOff rest calls → CutOff (request :: rest) (⟨request, .ok status⟩ :: calls)

/-- The calls are for the requests up to the first refusal. -/
theorem cutOff_conversation (harness : Harness σ ε) (requests : List Request) (world : World σ) :
    CutOff requests (conversation harness requests world) := by
  induction requests generalizing world with
  | nil => exact .finished
  | cons request rest ih =>
    rw [conversation]
    obtain ⟨answer, after⟩ := harness request world
    cases answer with
    | error cause => exact .refused request rest cause
    | ok status => exact .launched request status (ih after)

/-- When nothing was refused, the calls are for the requests, all of them. -/
theorem CutOff.map_request {requests : List Request} {calls : List (Call ε)} (h : CutOff requests calls)
    (hall : ∀ call ∈ calls, call.Launched) : calls.map Call.request = requests := by
  induction h with
  | finished => rfl
  | refused request rest cause =>
    obtain ⟨status, hstatus⟩ := hall _ (List.mem_singleton.2 rfl)
    cases hstatus
  | launched request status _ ih =>
    have hrest := ih fun call hc => hall call (List.mem_cons_of_mem _ hc)
    rw [List.map_cons, hrest]

/-- How launches end follows from the answers alone: with outcomes when none is a refusal, else with an
    abortion that names the request that was refused. -/
theorem launch_result (harness : Harness σ ε) (total : Nat) (requests : List Request) (done : Nat)
    (world : World σ) :
    (∃ outcomes, (launch harness total done requests world).result = .ok outcomes ∧
      ∀ call ∈ conversation harness requests world, call.Launched) ∨
    ∃ before last cause, conversation harness requests world = before ++ [⟨last, .error cause⟩] ∧
      (launch harness total done requests world).result =
        .error (.aborted last.repetition last.experiment cause) := by
  -- on the requests: the first one is refused, or the rest decides
  induction requests generalizing done world with
  | nil => exact Or.inl ⟨[], rfl, fun call hc => absurd hc List.not_mem_nil⟩
  | cons request rest ih =>
    rw [launch, conversation]
    obtain ⟨answer, after⟩ := harness request world
    cases answer with
    | error cause => exact Or.inr ⟨[], request, cause, rfl, rfl⟩
    | ok status =>
      rcases ih (done + 1) after with ⟨outcomes, hresult, hall⟩ | ⟨before, last, cause, hmade, hresult⟩
      · refine Or.inl ⟨_, by simp only [hresult]; rfl, fun call hc => ?_⟩
        rcases List.mem_cons.1 hc with rfl | hc
        · exact ⟨status, rfl⟩
        · exact hall call hc
      · refine Or.inr ⟨⟨request, .ok status⟩ :: before, last, cause, by simp only [hmade]; rfl, ?_⟩
        simp only [hresult]
        rfl

/-! ## One run

  In front of the launches stand the check of the plan and the directories of its outputs.  Either may end
  the run, and then there are no calls. -/

/-- The calls of one run: none, or the conversation over its requests in the world with the directories. -/
def callsOf (harness : Harness σ ε) (makeDirectories : Bool) (plan : Plan) (world : World σ) :
    List (Call ε) :=
  match plan.requests with
  | .error _ => []
  | .ok requests =>
    if makeDirectories then
      match makeOutputDirectories world.files (plan.experiments.map Experiment.output) with
      | (.error _, _) => []
      | (.ok (), files) => conversation harness requests { world with files }
    else conversation harness requests world

/-- The launches of a plan with a journal are the same launches, and the journal gains their calls. -/
theorem launchPlan_journaled (harness : Harness σ ε) (plan : Plan) (requests : List Request)
    (world : World σ) (journal : List (Call ε)) :
    launchPlan harness.journaled plan requests (world.withJournal journal) =
      (launchPlan harness plan requests world).withJournal
        ((conversation harness requests world).reverse ++ journal) := by
  -- the report is made of the result alone, which the journal is no part of
  have hresult : ∀ (made : Run σ (Fault ε) (List Outcome)) (calls : List (Call ε)),
      (made.withJournal calls).result = made.result := fun _ _ => rfl
  simp only [launchPlan, launch_journaled, hresult]
  cases (launch harness requests.length 0 requests world).result with
  | error fault => rfl
  | ok outcomes => rfl

/-- **Observation is transparent.**  A run with a journal is the same run, and the journal gains its
    calls. -/
theorem run_journaled (harness : Harness σ ε) (makeDirectories : Bool) (plan : Plan) (world : World σ)
    (journal : List (Call ε)) :
    run harness.journaled makeDirectories plan (world.withJournal journal) =
      (run harness makeDirectories plan world).withJournal
        ((callsOf harness makeDirectories plan world).reverse ++ journal) := by
  unfold run callsOf
  cases plan.requests with
  | error fault => rfl
  | ok requests =>
    cases makeDirectories with
    | false => exact launchPlan_journaled harness plan requests world journal
    | true =>
      have hfiles : (world.withJournal journal).files = world.files := rfl
      simp only [if_true, hfiles]
      obtain ⟨made, files⟩ := makeOutputDirectories world.files (plan.experiments.map Experiment.output)
      cases made with
      | error fault => rfl
      | ok _ => exact launchPlan_journaled harness plan requests { world with files } journal

/-- What is said when a request of a plan is not launched. -/
def abortText (plan : Plan) (request : Request) : String :=
  s!"sweep '{plan.name}' aborted at repetition {request.repetition.toNat} experiment '{request.experiment}'"

/-- What is promised of one run: the calls that it makes, and its result in terms of them. -/
structure RunsInOrder (harness : Harness σ ε) (makeDirectories : Bool) (plan : Plan) (before : World σ)
    (made : List (Call ε)) : Prop where
  /-- A plan that is not valid is refused, and nothing changes. -/
  invalid : ∀ fault, plan.validate = .error fault →
    (run harness makeDirectories plan before).result = .error (.invalid fault) ∧ made = [] ∧
      (run harness makeDirectories plan before).world = before
  /-- Without its directories a valid plan is given up before the first call. -/
  noDirectory : ∀ p fault, plan.validate = .ok () → makeDirectories = true →
    (makeOutputDirectories before.files (plan.experiments.map Experiment.output)).1 = .error (p, fault) →
    (run harness makeDirectories plan before).result = .error (.directory p fault) ∧ made = [] ∧
      (run harness makeDirectories plan before).world.state = before.state
  /-- Otherwise the calls are the requests of the plan up to the first refusal. -/
  cutOff : plan.validate = .ok () → (makeDirectories = true →
      (makeOutputDirectories before.files (plan.experiments.map Experiment.output)).1 = .ok ()) →
    ∃ requests, plan.requests = .ok requests ∧ CutOff requests made ∧
      ((∃ report, (run harness makeDirectories plan before).result = .ok report) ↔
        ∀ call ∈ made, call.Launched) ∧
      ∀ fault, (run harness makeDirectories plan before).result = .error fault →
        ∃ launched last cause, made = launched ++ [⟨last, .error cause⟩] ∧
          fault = .aborted last.repetition last.experiment cause ∧
          ∀ causes : ε → List String, fault.causes causes plan.name =
            abortText plan last :: causes cause

/-- The launches of a plan end in the world of its launches, with a report on their outcomes. -/
theorem launchPlan_eq (harness : Harness σ ε) (plan : Plan) (requests : List Request)
    (world : World σ) :
    (launchPlan harness plan requests world).world =
        (launch harness requests.length 0 requests world).world ∧
      (launchPlan harness plan requests world).result =
        (launch harness requests.length 0 requests world).result.map fun outcomes =>
          { plan := plan.name, startedAt := world.clock
            finishedAt := some (launch harness requests.length 0 requests world).world.clock, outcomes } := by
  unfold launchPlan
  cases hresult : (launch harness requests.length 0 requests world).result with
  | error fault => simp only [hresult]; exact ⟨trivial, rfl⟩
  | ok outcomes => simp only [hresult]; exact ⟨trivial, rfl⟩

/-- How the launches of a plan end follows from the answers alone, as for launches at large. -/
theorem launchPlan_result (harness : Harness σ ε) (plan : Plan) (requests : List Request)
    (world : World σ) :
    (∃ report, (launchPlan harness plan requests world).result = .ok report ∧
      ∀ call ∈ conversation harness requests world, call.Launched) ∨
    ∃ before last cause, conversation harness requests world = before ++ [⟨last, .error cause⟩] ∧
      (launchPlan harness plan requests world).result =
        .error (.aborted last.repetition last.experiment cause) := by
  obtain ⟨-, hreport⟩ := launchPlan_eq harness plan requests world
  rcases launch_result harness requests.length requests 0 world with
    ⟨outcomes, hresult, hall⟩ | ⟨before, last, cause, hmade, hresult⟩
  · rw [hresult] at hreport
    exact Or.inl ⟨_, hreport, hall⟩
  · rw [hresult] at hreport
    exact Or.inr ⟨before, last, cause, hmade, hreport⟩

/-- What every call keeps of the world, or lets grow, all launches together keep or let grow. -/
theorem launch_world_of_step {harness : Harness σ ε} {R : World σ → World σ → Prop} (hrefl : ∀ world, R world world)
    (htrans : ∀ {first second third}, R first second → R second third → R first third)
    (hstep : ∀ request world, R world (harness request world).2) (total : Nat) (requests : List Request)
    (done : Nat) (world : World σ) : R world (launch harness total done requests world).world := by
  induction requests generalizing done world with
  | nil => exact hrefl world
  | cons request rest ih =>
    have hfirst := hstep request world
    rw [launch]
    cases hanswer : harness request world with
    | mk answer after =>
      rw [hanswer] at hfirst
      cases answer with
      | error cause => exact hfirst
      | ok status => exact htrans hfirst (ih (done + 1) after)

/-- What every call keeps of the world, or lets grow, the launches of a plan keep or let grow. -/
theorem launchPlan_world_of_step {harness : Harness σ ε} {R : World σ → World σ → Prop}
    (hrefl : ∀ world, R world world)
    (htrans : ∀ {first second third}, R first second → R second third → R first third)
    (hstep : ∀ request world, R world (harness request world).2) (plan : Plan) (requests : List Request)
    (world : World σ) : R world (launchPlan harness plan requests world).world := by
  rw [(launchPlan_eq harness plan requests world).1]
  exact launch_world_of_step hrefl htrans hstep requests.length requests 0 world

/-- The launches of a run keep the promise, from whatever world they start. -/
theorem launchPlan_in_order (harness : Harness σ ε) (plan : Plan) (requests : List Request)
    (world : World σ) :
    CutOff requests (conversation harness requests world) ∧
      ((∃ report, (launchPlan harness plan requests world).result = .ok report) ↔
        ∀ call ∈ conversation harness requests world, call.Launched) ∧
      ∀ fault, (launchPlan harness plan requests world).result = .error fault →
        ∃ launched last cause,
          conversation harness requests world = launched ++ [⟨last, .error cause⟩] ∧
          fault = .aborted last.repetition last.experiment cause ∧
          ∀ causes : ε → List String, fault.causes causes plan.name =
            abortText plan last :: causes cause := by
  refine ⟨cutOff_conversation harness requests world, ?_⟩
  rcases launchPlan_result harness plan requests world with
    ⟨report, hresult, hall⟩ | ⟨before, last, cause, hmade, hresult⟩
  · refine ⟨⟨fun _ => hall, fun _ => ⟨report, hresult⟩⟩, fun fault hfault => ?_⟩
    rw [hresult] at hfault
    cases hfault
  · refine ⟨⟨fun ⟨report, hreport⟩ => ?_, fun hall => ?_⟩, fun fault hfault => ?_⟩
    · rw [hresult] at hreport
      cases hreport
    · -- the refused call is among them, and it was not launched
      obtain ⟨status, hstatus⟩ := hall ⟨last, .error cause⟩ (by rw [hmade]; simp)
      cases hstatus
    · rw [hresult] at hfault
      cases hfault
      exact ⟨before, last, cause, hmade, rfl, fun causes => rfl⟩

/-- **One run.**  Whatever the harness does, the calls of a run keep the promise. -/
theorem runsInOrder_callsOf (harness : Harness σ ε) (makeDirectories : Bool) (plan : Plan)
    (before : World σ) :
    RunsInOrder harness makeDirectories plan before (callsOf harness makeDirectories plan before) := by
  refine ⟨fun fault hfault => ?_, fun p fault hvalid hmake hdirectory => ?_, fun hvalid hmade => ?_⟩
  · have hrequests := Plan.requests_of_fault hfault
    simp only [run, callsOf, hrequests, and_self]
  · have hrequests := Plan.requests_of_valid ((Plan.validate_eq_ok_iff plan).1 hvalid)
    cases hmk : makeOutputDirectories before.files (plan.experiments.map Experiment.output) with
    | mk made files =>
      rw [hmk] at hdirectory
      obtain rfl : made = .error (p, fault) := hdirectory
      simp only [run, callsOf, hrequests, hmake, hmk, if_true, and_self]
  · have hrequests := Plan.requests_of_valid ((Plan.validate_eq_ok_iff plan).1 hvalid)
    refine ⟨plan.rounds, hrequests, ?_⟩
    cases makeDirectories with
    | false =>
      simp only [run, callsOf, hrequests, Bool.false_eq_true, if_false]
      exact launchPlan_in_order harness plan plan.rounds before
    | true =>
      cases hmk : makeOutputDirectories before.files (plan.experiments.map Experiment.output) with
      | mk made files =>
        rw [hmk] at hmade
        obtain rfl : made = .ok () := hmade rfl
        simp only [run, callsOf, hrequests, hmk, if_true]
        exact launchPlan_in_order harness plan plan.rounds { before with files }

/-! ## One run after the other

  Runs follow each other in one world, and the calls of all of them are in order because each run begins
  where the one before it ended. -/

/-- The world behind plans that are run one after the other, whatever each of them came to. -/
def after (harness : Harness σ ε) (makeDirectories : Bool) (plans : List Plan) (world : World σ) :
    World σ :=
  plans.foldl (fun world plan => (run harness makeDirectories plan world).world) world

/-- The calls that a harness gets while plans are run one after the other. -/
def calls (harness : Harness σ ε) (makeDirectories : Bool) (plans : List Plan) (world : World σ) :
    List (Call ε) :=
  (after harness.journaled makeDirectories plans (world.withJournal [])).state.2.reverse

/-- Runs with a journal leave the same world, and the journal gains the calls of all of them. -/
theorem after_journaled (harness : Harness σ ε) (makeDirectories : Bool) (plans : List Plan)
    (world : World σ) (journal : List (Call ε)) :
    after harness.journaled makeDirectories plans (world.withJournal journal) =
      (after harness makeDirectories plans world).withJournal
        ((calls harness makeDirectories plans world).reverse ++ journal) := by
  induction plans generalizing world journal with
  | nil => rfl
  | cons plan plans ih =>
    have hstep : ∀ journal : List (Call ε),
        after harness.journaled makeDirectories (plan :: plans) (world.withJournal journal) =
          after harness.journaled makeDirectories plans
            ((run harness makeDirectories plan world).world.withJournal
              ((callsOf harness makeDirectories plan world).reverse ++ journal)) := by
      intro journal
      show after harness.journaled makeDirectories plans
        (run harness.journaled makeDirectories plan (world.withJournal journal)).world = _
      rw [run_journaled]
      rfl
    -- both journals, the one at hand and the empty one behind `calls`, go through the same runs
    rw [calls, hstep, hstep, ih, ih, List.reverse_reverse]
    simp only [World.withJournal, List.append_nil, List.append_assoc]
    rfl

/-- The calls of the first run come first, and the others are made in the world that it leaves. -/
theorem calls_cons (harness : Harness σ ε) (makeDirectories : Bool) (plan : Plan) (plans : List Plan)
    (world : World σ) :
    calls harness makeDirectories (plan :: plans) world =
      callsOf harness makeDirectories plan world ++
        calls harness makeDirectories plans (run harness makeDirectories plan world).world := by
  rw [calls]
  show (after harness.journaled makeDirectories plans
    (run harness.journaled makeDirectories plan (world.withJournal [])).world).state.2.reverse = _
  rw [run_journaled]
  show (after harness.journaled makeDirectories plans
    ((run harness makeDirectories plan world).world.withJournal _)).state.2.reverse = _
  rw [after_journaled]
  simp [World.withJournal]

/-- Without a plan nothing is called. -/
theorem calls_nil (harness : Harness σ ε) (makeDirectories : Bool) (world : World σ) :
    calls harness makeDirectories [] world = [] := rfl

/-- The calls of one plan are those of its run. -/
theorem calls_singleton (harness : Harness σ ε) (makeDirectories : Bool) (plan : Plan) (world : World σ) :
    calls harness makeDirectories [plan] world = callsOf harness makeDirectories plan world := by
  rw [calls_cons, calls_nil, List.append_nil]

/-- Each run appends its own calls. -/
theorem calls_concat (harness : Harness σ ε) (makeDirectories : Bool) (earlier : List Plan) (plan : Plan)
    (world : World σ) :
    calls harness makeDirectories (earlier ++ [plan]) world =
      calls harness makeDirectories earlier world ++
        callsOf harness makeDirectories plan (after harness makeDirectories earlier world) := by
  -- on the plans before the last one, each of which leaves a world to the others
  induction earlier generalizing world with
  | nil =>
    rw [List.nil_append, calls_singleton, calls_nil]
    rfl
  | cons first earlier ih =>
    rw [List.cons_append, calls_cons, ih, calls_cons, List.append_assoc]
    rfl

/-! ## Harnesses that launch everything

  Where nothing is refused, a status has no way to change which request comes next.  What is left is the
  files: a run makes its directories first, and whether it can may depend on what was written before. -/

/-- The harness launches every request; how the invocations end is another matter. -/
def NeverRefuses (harness : Harness σ ε) : Prop :=
  ∀ request world, ∃ status, (harness request world).1 = .ok status

/-- The harness acts on its own state and the clock alone. -/
def KeepsFiles (harness : Harness σ ε) : Prop :=
  ∀ request world, (harness request world).2.files = world.files

/-- Where nothing is refused, the calls are for all requests. -/
theorem conversation_of_neverRefuses {harness : Harness σ ε} (h : NeverRefuses harness)
    (requests : List Request) (world : World σ) :
    (conversation harness requests world).map Call.request = requests := by
  induction requests generalizing world with
  | nil => rfl
  | cons request rest ih =>
    obtain ⟨status, hstatus⟩ := h request world
    rw [conversation]
    cases hanswer : harness request world with
    | mk answer after =>
      rw [hanswer] at hstatus
      obtain rfl : answer = .ok status := hstatus
      exact congrArg (request :: ·) (ih after)

/-- Launches leave the files alone if each of them does. -/
theorem launchPlan_files_of_keepsFiles {harness : Harness σ ε} (h : KeepsFiles harness) (plan : Plan)
    (requests : List Request) (world : World σ) :
    (launchPlan harness plan requests world).world.files = world.files :=
  launchPlan_world_of_step (R := fun before after => after.files = before.files) (fun _ => rfl)
    (fun hfirst hrest => hrest.trans hfirst) h plan requests world

/-- The requests that a harness that launches everything is asked for, given the files that the run
    finds. -/
def requestsDue (makeDirectories : Bool) (plan : Plan) (files : Files) : List Request :=
  match plan.requests with
  | .error _ => []
  | .ok requests =>
    if makeDirectories then
      match makeOutputDirectories files (plan.experiments.map Experiment.output) with
      | (.error _, _) => []
      | (.ok (), _) => requests
    else requests

/-- The files behind a run that makes its directories, if the harness keeps them. -/
def filesBehind (plan : Plan) (files : Files) : Files :=
  match plan.requests with
  | .error _ => files
  | .ok _ => (makeOutputDirectories files (plan.experiments.map Experiment.output)).2

/-- Where nothing is refused, the calls of a run are for the requests that are due. -/
theorem callsOf_of_neverRefuses {harness : Harness σ ε} (h : NeverRefuses harness)
    (makeDirectories : Bool) (plan : Plan) (world : World σ) :
    (callsOf harness makeDirectories plan world).map Call.request =
      requestsDue makeDirectories plan world.files := by
  unfold callsOf requestsDue
  cases plan.requests with
  | error fault => rfl
  | ok requests =>
    cases makeDirectories with
    | false => exact conversation_of_neverRefuses h requests world
    | true =>
      simp only [if_true]
      obtain ⟨made, files⟩ := makeOutputDirectories world.files (plan.experiments.map Experiment.output)
      cases made with
      | error fault => rfl
      | ok _ => exact conversation_of_neverRefuses h requests { world with files }

/-- A run with directories leaves the files that its directories make. -/
theorem run_files_of_keepsFiles {harness : Harness σ ε} (h : KeepsFiles harness) (plan : Plan)
    (world : World σ) : (run harness true plan world).world.files = filesBehind plan world.files := by
  unfold run filesBehind
  cases plan.requests with
  | error fault => rfl
  | ok requests =>
    simp only [if_true]
    obtain ⟨made, files⟩ := makeOutputDirectories world.files (plan.experiments.map Experiment.output)
    cases made with
    | error fault => rfl
    | ok _ => exact launchPlan_files_of_keepsFiles h plan requests { world with files }

/-- What is due depends on the files only through this: the directories of the outputs can be made, or they
    cannot. -/
theorem requestsDue_congr {makeDirectories : Bool} {plan : Plan} {files files' : Files}
    (h : makeDirectories = true → plan.validate = .ok () →
      ((makeOutputDirectories files (plan.experiments.map Experiment.output)).1 = .ok () ↔
        (makeOutputDirectories files' (plan.experiments.map Experiment.output)).1 = .ok ())) :
    requestsDue makeDirectories plan files = requestsDue makeDirectories plan files' := by
  unfold requestsDue
  cases hrequests : plan.requests with
  | error fault => rfl
  | ok requests =>
    cases makeDirectories with
    | false => rfl
    | true =>
      -- a plan that has requests is valid, so the assumption speaks of it
      have hvalid : plan.validate = .ok () := by
        cases hfault : plan.validate with
        | ok _ => rfl
        | error fault => rw [Plan.requests_of_fault hfault] at hrequests; cases hrequests
      have hmade := h rfl hvalid
      simp only [if_true]
      generalize makeOutputDirectories files _ = made at *
      generalize makeOutputDirectories files' _ = made' at *
      obtain ⟨answer, files⟩ := made
      obtain ⟨answer', files'⟩ := made'
      cases answer with
      | ok _ =>
        obtain rfl : answer' = .ok () := hmade.1 rfl
        rfl
      | error fault =>
        cases answer' with
        | ok _ => cases hmade.2 rfl
        | error fault' => rfl

/-- Two harnesses find their directories alike: plan by plan, wherever each of them has got to, those of the
    outputs can be made for the one exactly if they can for the other. -/
def PreparedAlike {τ δ : Type} (harness : Harness σ ε) (other : Harness τ δ) (plans : List Plan)
    (world : World σ) (world' : World τ) : Prop :=
  ∀ (earlier : List Plan) (plan : Plan), earlier ++ [plan] <+: plans → plan.validate = .ok () →
    ((makeOutputDirectories (after harness true earlier world).files
        (plan.experiments.map Experiment.output)).1 = .ok () ↔
      (makeOutputDirectories (after other true earlier world').files
        (plan.experiments.map Experiment.output)).1 = .ok ())

/-- The first plan, and the plans behind it in the worlds that it leaves. -/
theorem preparedAlike_cons_iff {τ δ : Type} {harness : Harness σ ε} {other : Harness τ δ} {plan : Plan}
    {plans : List Plan} {world : World σ} {world' : World τ} :
    PreparedAlike harness other (plan :: plans) world world' ↔
      (plan.validate = .ok () →
        ((makeOutputDirectories world.files (plan.experiments.map Experiment.output)).1 = .ok () ↔
          (makeOutputDirectories world'.files (plan.experiments.map Experiment.output)).1 = .ok ())) ∧
      PreparedAlike harness other plans (run harness true plan world).world
        (run other true plan world').world := by
  constructor
  · intro h
    refine ⟨h [] plan (List.cons_prefix_cons.2 ⟨rfl, List.nil_prefix⟩), fun earlier later hfront => ?_⟩
    exact h (plan :: earlier) later (List.cons_prefix_cons.2 ⟨rfl, hfront⟩)
  · rintro ⟨hfirst, hrest⟩ earlier later hfront
    cases earlier with
    | nil =>
      obtain rfl : later = plan := (List.cons_prefix_cons.1 hfront).1
      exact hfirst
    | cons first earlier =>
      obtain ⟨rfl, hmore⟩ := List.cons_prefix_cons.1 hfront
      exact hrest earlier later hmore

/-- Where both leave the files to the sweep, and start with the same, they find all directories alike. -/
theorem preparedAlike_of_keepsFiles {τ δ : Type} {harness : Harness σ ε} {other : Harness τ δ}
    (h : KeepsFiles harness) (h' : KeepsFiles other) (plans : List Plan) {world : World σ} {world' : World τ}
    (hsame : world.files = world'.files) : PreparedAlike harness other plans world world' := by
  -- on the plans: behind the first one the files are the same again
  induction plans generalizing world world' with
  | nil =>
    intro earlier plan hfront
    exact absurd (List.prefix_nil.1 hfront) (by simp)
  | cons plan plans ih =>
    have hbehind : (run harness true plan world).world.files = (run other true plan world').world.files := by
      rw [run_files_of_keepsFiles h, run_files_of_keepsFiles h', hsame]
    exact preparedAlike_cons_iff.2 ⟨fun _ => by rw [hsame], ih hbehind⟩

/-- Harnesses that launch everything are asked for the same: which requests follow depends on no
    status. -/
theorem calls_of_neverRefuses {τ δ : Type} {harness : Harness σ ε} {other : Harness τ δ}
    (h : NeverRefuses harness) (h' : NeverRefuses other) (makeDirectories : Bool) (plans : List Plan) :
    ∀ (world : World σ) (world' : World τ),
      (makeDirectories = true → PreparedAlike harness other plans world world') →
      (calls harness makeDirectories plans world).map Call.request =
        (calls other makeDirectories plans world').map Call.request := by
  induction plans with
  | nil => intro world world' _; rfl
  | cons plan plans ih =>
    intro world world' halike
    have hdue : requestsDue makeDirectories plan world.files =
        requestsDue makeDirectories plan world'.files :=
      requestsDue_congr fun hmake => (preparedAlike_cons_iff.1 (halike hmake)).1
    rw [calls_cons, calls_cons, List.map_append, List.map_append, callsOf_of_neverRefuses h,
      callsOf_of_neverRefuses h', hdue]
    -- behind the first plan, what was assumed of all plans holds of the rest
    refine congrArg _ (ih _ _ fun hmake => ?_)
    subst hmake
    exact (preparedAlike_cons_iff.1 (halike rfl)).2

/-- **A harness is called for the requests of the plans, in order, up to the first refusal.**  Plans that
    are run one after the other add their calls one after the other, and each run keeps its promise.  Two
    harnesses that launch everything get the same requests, whatever else they do; where the sweep makes the
    directories of the outputs, these must be there for both or for neither (`PreparedAlike`), which is so of
    all harnesses that leave the files to the sweep (`preparedAlike_of_keepsFiles`). -/
theorem calls_in_order (harness : Harness σ ε) (makeDirectories : Bool) (world : World σ) :
    (∀ (earlier : List Plan) (plan : Plan), ∃ made,
      calls harness makeDirectories (earlier ++ [plan]) world =
        calls harness makeDirectories earlier world ++ made ∧
      RunsInOrder harness makeDirectories plan (after harness makeDirectories earlier world) made) ∧
    ∀ {τ δ : Type} (other : Harness τ δ) (plans : List Plan) (world' : World τ),
      NeverRefuses harness → NeverRefuses other →
      (makeDirectories = true → PreparedAlike harness other plans world world') →
      (calls harness makeDirectories plans world).map Call.request =
        (calls other makeDirectories plans world').map Call.request := by
  refine ⟨fun earlier plan => ⟨_, calls_concat harness makeDirectories earlier plan world,
    runsInOrder_callsOf harness makeDirectories plan _⟩, ?_⟩
  intro τ δ other plans world' h h' halike
  exact calls_of_neverRefuses h h' makeDirectories plans world world' halike

/-- A harness that appends a line to the output of a request, and lets the request fail if it cannot. -/
def appending : Harness Unit String := fun request world =>
  match world.files.write request.output (.append (Path.ofString "row\n").bytes) with
  | .ok files => (.ok .succeeded, { world with files })
  | .error _ => (.ok (.failed (some 2)), world)

/-- The harness that appends launches every request, also one whose output it cannot write. -/
theorem neverRefuses_appending : NeverRefuses appending := by
  intro request world
  rw [appending]
  split
  · exact ⟨_, rfl⟩
  · exact ⟨_, rfl⟩

/-- A directory without entries. -/
def emptyWorld : World Unit := ⟨⟨.directory [], []⟩, default, ()⟩

/-- A harness that writes its outputs, and one whose invocations all succeed, get the same requests as one
    whose invocations all fail, here in a directory without entries. -/
theorem calls_succeeding_eq_failing :
    (∀ plan ∈ [Matrix.plan .crturn, Matrix.plan .general], plan.validate = .ok ()) ∧
    (calls appending true [Matrix.plan .crturn, Matrix.plan .general] emptyWorld).map Call.request =
      (calls (fun _ world => (.ok (.failed none), world) : Harness Unit String) true
        [Matrix.plan .crturn, Matrix.plan .general] emptyWorld).map Call.request ∧
    (calls (fun _ world => (.ok .succeeded, world) : Harness Unit String) true
        [Matrix.plan .crturn, Matrix.plan .general] emptyWorld).map Call.request =
      (calls (fun _ world => (.ok (.failed none), world) : Harness Unit String) true
        [Matrix.plan .crturn, Matrix.plan .general] emptyWorld).map Call.request := by
  refine ⟨by decide +kernel, ?_, ?_⟩
  · refine (calls_in_order _ true _).2 _ _ _ neverRefuses_appending (fun _ _ => ⟨_, rfl⟩) fun _ => ?_
    -- the directories can be made for both, whatever the first one has written by then
    refine preparedAlike_cons_iff.2 ⟨fun _ => by decide +kernel, preparedAlike_cons_iff.2
      ⟨fun _ => by decide +kernel, fun earlier plan hfront => ?_⟩⟩
    exact absurd (List.prefix_nil.1 hfront) (by simp)
  · refine (calls_in_order _ true _).2 _ _ _ (fun _ _ => ⟨_, rfl⟩) (fun _ _ => ⟨_, rfl⟩) fun _ => ?_
    exact preparedAlike_of_keepsFiles (fun _ _ => rfl) (fun _ _ => rfl) _ rfl

end Sweep
end BenchSweep
