/-
  What a report tells about the calls of its sweep.

  A report is made while the harness is called: behind every call an outcome is put to those before it, and
  the world has changed meanwhile.  So whether an outcome tells of the right call is a matter of the order in
  which the two lists grow.

  1. **One call** (`Call.EndsAs`).  The outcome of a call that was launched is made of its request and of its
     answer.

  2. **All calls** (`launch_outcomes`).  By induction on the requests, launches that come to their end have one
     outcome for each call, in the order of the calls.

  3. **Failures** (`Call.IsToldBy.hasFailed_eq`, `Report.count_failures`).  An outcome is a failure exactly if
     its call ended without success, so keeping the failures of a report keeps the outcomes of the failed calls,
     in order.

  4. **Experiments.**  The requests of a plan bear all pairs of a repetition and an experiment, and only those of
     one experiment bear its output; so this output occurs once in every repetition
     (`Valid.map_repetition_filter_rounds`).
-/
import BenchSweep.Proofs.Calls
import BenchSweep.Proofs.Enumeration

namespace BenchSweep

/-! ## One call -/

namespace Call

variable {ε : Type}

/-- The outcome is what became of the call, whatever the times were. -/
def EndsAs (call : Call ε) (outcome : Outcome) : Prop :=
  ∃ status started ended, call.answer = .ok status ∧
    Sweep.outcomeOf call.request status started ended = outcome

/-- What the outcome tells of the call. -/
structure IsToldBy (call : Call ε) (outcome : Outcome) : Prop where
  repetition : outcome.repetition = call.request.repetition
  experiment : outcome.experiment = call.request.experiment
  output : outcome.output = call.request.output
  status : call.answer = .ok outcome.status

/-- An outcome that was made of a call tells of it. -/
theorem EndsAs.isToldBy {call : Call ε} {outcome : Outcome} (h : call.EndsAs outcome) :
    call.IsToldBy outcome := by
  obtain ⟨status, started, ended, hanswer, rfl⟩ := h
  exact ⟨rfl, rfl, rfl, hanswer⟩

/-- The call was launched and ended without success. -/
def hasFailed (call : Call ε) : Bool :=
  match call.answer with
  | .ok (.failed _) => true
  | _ => false

/-- A call has failed exactly if the outcome that tells of it is no success. -/
theorem IsToldBy.hasFailed_eq {call : Call ε} {outcome : Outcome} (h : call.IsToldBy outcome) :
    call.hasFailed = !outcome.status.isSuccess := by
  rw [hasFailed, h.status]
  cases outcome.status with
  | succeeded => rfl
  | failed code => rfl

end Call

namespace Sweep

variable {σ ε : Type}

/-! ## All calls -/

/-- **All calls.**  Launches that come to their end have one outcome for each call, in order. -/
theorem launch_outcomes (harness : Harness σ ε) (total : Nat) (requests : List Request) :
    ∀ (done : Nat) (world : World σ) (outcomes : List Outcome),
      (launch harness total done requests world).result = .ok outcomes →
      List.Forall₂ Call.EndsAs (conversation harness requests world) outcomes := by
  induction requests with
  | nil =>
    intro done world outcomes h
    obtain rfl : [] = outcomes := Except.ok.inj h
    exact .nil
  | cons request rest ih =>
    intro done world outcomes h
    rw [launch] at h
    rw [conversation]
    cases hanswer : harness request world with
    | mk answer after =>
      rw [hanswer] at h
      cases answer with
      | error cause => cases h
      | ok status =>
        cases hrest : (launch harness total (done + 1) rest after).result with
        | error fault =>
          simp only [hrest] at h
          cases h
        -- the outcome of this call stands before those of the others
        | ok others =>
          simp only [hrest] at h
          obtain rfl := Except.ok.inj h
          exact .cons ⟨status, world.clock, after.clock, rfl, rfl⟩ (ih (done + 1) after others hrest)

end Sweep

/-! ## Failures

  Failures are kept by a filter, so their order and their number are those of the outcomes; what is to be
  said is which outcomes these are. -/

namespace Report

/-- The failures stand in the order of the outcomes, each as often as among them. -/
theorem count_failures (report : Report) (outcome : Outcome) : report.failures.count outcome =
    if outcome.status = .succeeded then 0 else report.outcomes.count outcome := by
  unfold failures
  cases hstatus : outcome.status with
  | succeeded =>
    rw [if_pos rfl, List.count_eq_zero]
    intro hmem
    obtain ⟨-, hfailed⟩ := List.mem_filter.1 hmem
    rw [hstatus] at hfailed
    exact absurd hfailed (by decide)
  | failed code =>
    rw [if_neg (by simp)]
    refine List.count_filter ?_
    rw [hstatus]
    rfl

end Report

namespace Plan

/-! ## Experiments

  That the output of an experiment occurs once in every repetition is a fact about pairs: the requests stand
  for all pairs of a repetition and a place, and the place is known from the output. -/

/-- Of all pairs those with one second part have every first part once, in order. -/
theorem map_fst_filter_product {α β : Type} [DecidableEq β] (xs : List α) {ys : List β} (hnodup : ys.Nodup) {y : β}
    (hy : y ∈ ys) : ((xs ×ˢ ys).filter fun p => p.2 = y).map Prod.fst = xs := by
  induction xs with
  | nil => rfl
  | cons x xs ih =>
    -- each first part has one pair with the second part that is looked for
    have hrow : (ys.map (Prod.mk x)).filter (fun p => p.2 = y) = [(x, y)] := by
      rw [List.filter_map]
      show (ys.filter fun z => z = y).map (Prod.mk x) = _
      rw [List.filter_eq, List.count_eq_one_of_mem hnodup hy]
      rfl
    rw [List.product_cons, List.filter_append, List.map_append, hrow, ih]
    rfl

/-- The requests that bear the output of an experiment are one for each repetition, in order. -/
theorem Valid.map_repetition_filter_rounds {plan : Plan} (h : plan.Valid) {e : Experiment}
    (he : e ∈ plan.experiments) :
    (plan.rounds.filter fun r => r.output = e.output).map (fun r => r.repetition.toNat) =
      List.range plan.repetitions.toNat := by
  obtain ⟨k, hk, rfl⟩ := List.getElem_of_mem he
  -- the output is that of the experiment exactly for the requests at its place
  have hplace : plan.rounds.filter (fun r => r.output = plan.experiments[k].output) =
      plan.rounds.filter fun r => r.position.2 = k := by
    refine List.filter_congr fun request hrequest => ?_
    obtain ⟨hown, houtput⟩ := output_of_mem_rounds hrequest
    refine decide_eq_decide.2 ⟨fun heq => ?_, fun heq => ?_⟩
    · exact h.kindIndex_eq hrequest hk (congrArg Path.normalise heq)
    · obtain rfl : request.kindIndex = k := heq
      exact houtput
  calc (plan.rounds.filter fun r => r.output = plan.experiments[k].output).map (fun r => r.repetition.toNat)
      = ((plan.rounds.map Request.position).filter fun p => p.2 = k).map Prod.fst := by
        rw [hplace, List.filter_map, List.map_map]
        rfl
    _ = List.range plan.repetitions.toNat := by
        rw [h.map_position_rounds]
        exact map_fst_filter_product _ List.nodup_range (List.mem_range.2 hk)

end Plan

namespace Sweep

variable {σ ε : Type}

/-! ## Reports

  A report that there is has an outcome for each call, and thereby the calls are for all requests of the
  plan.  All the rest is counted on the requests. -/

/-- An outcome for each call means that no call was refused, so the calls are for the requests, all of them. -/
theorem map_request_conversation {harness : Harness σ ε} {requests : List Request} {world : World σ}
    {outcomes : List Outcome} (h : List.Forall₂ Call.EndsAs (conversation harness requests world) outcomes) :
    (conversation harness requests world).map Call.request = requests := by
  refine (cutOff_conversation harness requests world).map_request fun call hcall => ?_
  obtain ⟨outcome, -, status, started, ended, hanswer, -⟩ := exists_of_mem_forall₂ h.flip hcall
  exact ⟨status, hanswer⟩

/-- The report on launches bears the name of the plan, and its outcomes are those of the calls. -/
theorem launchPlan_outcomes {harness : Harness σ ε} {plan : Plan} {requests : List Request} {world : World σ}
    {report : Report} (h : (launchPlan harness plan requests world).result = .ok report) :
    report.plan = plan.name ∧ report.finishedAt.isSome = true ∧
      List.Forall₂ Call.EndsAs (conversation harness requests world) report.outcomes := by
  rw [(launchPlan_eq harness plan requests world).2] at h
  cases hresult : (launch harness requests.length 0 requests world).result with
  | error fault =>
    rw [hresult] at h
    cases h
  | ok outcomes =>
    rw [hresult] at h
    obtain rfl := Except.ok.inj h
    exact ⟨rfl, rfl, launch_outcomes harness requests.length requests 0 world outcomes hresult⟩

/-- A run that comes to its end has launched the requests of its plan, from some world, and made no other
    calls. -/
theorem exists_conversation_of_run {harness : Harness σ ε} {makeDirectories : Bool} {plan : Plan}
    {world : World σ} {report : Report} (h : (run harness makeDirectories plan world).result = .ok report) :
    ∃ requests start, plan.requests = .ok requests ∧
      callsOf harness makeDirectories plan world = conversation harness requests start ∧
      (launchPlan harness plan requests start).result = .ok report := by
  unfold run at h
  unfold callsOf
  cases hrequests : plan.requests with
  | error fault =>
    rw [hrequests] at h
    cases h
  | ok requests =>
    rw [hrequests] at h
    cases makeDirectories with
    | false => exact ⟨requests, world, rfl, rfl, h⟩
    | true =>
      cases hmade : makeOutputDirectories world.files (plan.experiments.map Experiment.output) with
      | mk made files =>
        simp only [if_true, hmade] at h ⊢
        cases made with
        | error fault => cases h
        | ok _ => exact ⟨requests, { world with files }, rfl, rfl, h⟩

/-- What a report tells about the calls of a sweep of its plan. -/
structure Recounts (plan : Plan) (calls : List (Call ε)) (report : Report) : Prop where
  name : report.plan = plan.name
  finished : report.finishedAt.isSome = true
  /-- The calls were made for the requests of the plan, all of them. -/
  requests : plan.requests = .ok (calls.map Call.request)
  /-- One outcome for each call, in the order of the calls. -/
  outcomes : List.Forall₂ Call.IsToldBy calls report.outcomes
  total : report.total = plan.invocationCount
  /-- The failures are outcomes in their order, and all of those without success. -/
  sublist : report.failures.Sublist report.outcomes
  failures : ∀ outcome, report.failures.count outcome =
    if outcome.status = .succeeded then 0 else report.outcomes.count outcome
  /-- One failure for each call that failed, in the order of the calls. -/
  failed : List.Forall₂ Call.IsToldBy (calls.filter Call.hasFailed) report.failures
  failureCount : report.failureCount = calls.countP Call.hasFailed
  /-- The outcomes that bear the output of an experiment are one for each repetition, in order. -/
  repetitions : ∀ e ∈ plan.experiments,
    (report.outcomes.filter fun o => o.output = e.output).map (fun o => o.repetition.toNat) =
      List.range plan.repetitions.toNat
  /-- None bears it in another spelling. -/
  spelling : ∀ e ∈ plan.experiments, ∀ o ∈ report.outcomes,
    o.output.normalise = e.output.normalise → o.output = e.output

/-- Outcomes bear the outputs and repetitions of their requests. -/
theorem map_outcomes {calls : List (Call ε)} {outcomes : List Outcome}
    (h : List.Forall₂ Call.IsToldBy calls outcomes) :
    outcomes.map (fun o => (o.output, o.repetition)) =
      (calls.map Call.request).map fun r => (r.output, r.repetition) := by
  induction h with
  | nil => rfl
  | cons htold _ ih => rw [List.map_cons, List.map_cons, List.map_cons, ih, htold.output, htold.repetition]

/-- The repetitions of the outcomes with one output are those of the requests with it. -/
theorem map_repetition_filter_outcomes {calls : List (Call ε)} {outcomes : List Outcome}
    (h : List.Forall₂ Call.IsToldBy calls outcomes) (output : Path) :
    (outcomes.filter fun o => o.output = output).map (fun o => o.repetition.toNat) =
      ((calls.map Call.request).filter fun r => r.output = output).map fun r => r.repetition.toNat := by
  have hpairs := congrArg (fun pairs => (pairs.filter fun p => p.1 = output).map fun p => p.2.toNat)
    (map_outcomes h)
  rw [List.filter_map, List.filter_map, List.map_map, List.map_map] at hpairs
  exact hpairs

/-- **A report recounts the calls of its sweep.**  Whatever the harness does, if a run comes to its end, then
    its report has one outcome for each call, in order and with the status that the harness gave, and in the
    outcomes of each experiment the repetitions are counted through. -/
theorem run_recounts {harness : Harness σ ε} {makeDirectories : Bool} {plan : Plan} {world : World σ}
    {report : Report} (h : (run harness makeDirectories plan world).result = .ok report) :
    Recounts plan (calls harness makeDirectories [plan] world) report := by
  obtain ⟨requests, start, hrequests, hcalls, hlaunched⟩ := exists_conversation_of_run h
  obtain ⟨hvalid, rfl⟩ := (Plan.requests_eq_ok_iff plan requests).1 hrequests
  obtain ⟨hname, hfinished, hends⟩ := launchPlan_outcomes hlaunched
  have htold : List.Forall₂ Call.IsToldBy (conversation harness plan.rounds start) report.outcomes :=
    hends.imp fun _ _ => Call.EndsAs.isToldBy
  have hissued : (conversation harness plan.rounds start).map Call.request = plan.rounds :=
    map_request_conversation hends
  have hfailed : List.Forall₂ Call.IsToldBy ((conversation harness plan.rounds start).filter Call.hasFailed)
      report.failures := by
    refine List.rel_filter (fun call outcome ht => ?_) htold
    show call.hasFailed = true ↔ (!outcome.status.isSuccess) = true
    rw [ht.hasFailed_eq]
  rw [calls_singleton, hcalls]
  refine
    { name := hname, finished := hfinished, requests := ?_, outcomes := htold, total := ?_,
      sublist := List.filter_sublist, failures := report.count_failures, failed := hfailed,
      failureCount := ?_, repetitions := ?_, spelling := ?_ }
  · rw [hissued, hrequests]
  · rw [Report.total, ← htold.length_eq, ← List.length_map Call.request, hissued]
    exact hvalid.length_rounds
  · rw [Report.failureCount, ← hfailed.length_eq, List.countP_eq_length_filter]
  · intro e he
    rw [map_repetition_filter_outcomes htold, hissued, hvalid.map_repetition_filter_rounds he]
  · intro e he o ho hnormal
    obtain ⟨call, hcall, ht⟩ := exists_of_mem_forall₂ htold ho
    have hrequest : call.request ∈ plan.rounds := hissued ▸ List.mem_map_of_mem hcall
    obtain ⟨k, hk, rfl⟩ := List.getElem_of_mem he
    -- the call has the output of an experiment, and the normal form says which
    rw [ht.output] at hnormal ⊢
    obtain ⟨hown, houtput⟩ := Plan.output_of_mem_rounds hrequest
    rw [houtput]
    simp only [hvalid.kindIndex_eq hrequest hk hnormal]

/-- An empty tree, and a script that lets the first request fail with code zero and the third by a signal. -/
def failingWorld : World (List Harness.Reply) :=
  { files := ⟨.directory [], []⟩, clock := default
    state := [.status (.failed (some 0)), .status .succeeded, .status (.failed none)] }

/-- The built-in plan for the queue, with two failures among its ten outcomes. -/
theorem run_recounts_crturn :
    ∃ report, (run Harness.scripted true (Matrix.plan .crturn) failingWorld).result = .ok report ∧
      report.total = 10 ∧ report.failureCount = 2 ∧
      Recounts (Matrix.plan .crturn)
        (calls Harness.scripted true [Matrix.plan .crturn] failingWorld) report := by
  cases hrun : (run Harness.scripted true (Matrix.plan .crturn) failingWorld).result with
  | error fault =>
    have hends : (run Harness.scripted true (Matrix.plan .crturn) failingWorld).result.isOk = true := by
      decide +kernel
    rw [hrun] at hends
    exact absurd hends Bool.false_ne_true
  | ok report =>
    have hrecounts := run_recounts hrun
    refine ⟨report, rfl, hrecounts.total, ?_, hrecounts⟩
    rw [hrecounts.failureCount]
    decide +kernel

end Sweep
end BenchSweep
