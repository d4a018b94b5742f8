/-
  What a run does with the plans that were selected.

  A run changes the repetitions of its plans if it is told to, checks all of them, and only then sweeps them
  one after the other.  What this comes to is said for any harness and any list of plans:

  1. **Observation.**  `callsAll` are the calls that a harness gets while plans are swept; noting them changes
     nothing else (`sweepAll_journaled`).

  2. **One sweep.**  A valid plan is swept to its end, or its sweep stops at a request that is not launched or
     at a directory that cannot be made (`run_of_valid`).  Which statuses come back makes no difference.

  3. **All sweeps.**  By induction on the plans: either all requests of all plans are launched, and there is
     one report for each plan, or the sweeps stop at one plan, behind all requests of those before it
     (`sweepAll_of_valid`).

  4. **The run.**  A plan that is not valid keeps the whole run from starting (`validateAll_of_first`), and a
     run that stops writes no summary.
-/
import Mathlib.Data.List.Forall2
import BenchSweep.CommandLine.Run
import BenchSweep.Proofs.Calls
import BenchSweep.Proofs.Enumeration
import BenchSweep.Proofs.Outcomes
import BenchSweep.Proofs.Plan.RoundTrip

namespace BenchSweep

/-! ## One sweep -/

namespace Sweep

variable {σ ε : Type}

/-- What a report on a plan says, however the invocations ended. -/
structure ReportsOn (plan : Plan) (report : Report) : Prop where
  name : report.plan = plan.name
  finished : report.finishedAt.isSome = true
  total : report.outcomes.length = plan.invocationCount

/-- A report on a valid plan bears its name and its end, and has an outcome for each of its requests. -/
theorem run_report {harness : Harness σ ε} {makeDirectories : Bool} {plan : Plan} (hvalid : plan.Valid)
    {world : World σ} {report : Report}
    (h : (run harness makeDirectories plan world).result = .ok report) : ReportsOn plan report := by
  have hcount : plan.rounds.length = plan.invocationCount := hvalid.length_rounds
  obtain ⟨requests, start, hrequests, -, hlaunched⟩ := exists_conversation_of_run h
  rw [Plan.requests_of_valid hvalid] at hrequests
  obtain rfl := Except.ok.inj hrequests
  obtain ⟨hname, hfinished, houtcomes⟩ := launchPlan_outcomes hlaunched
  -- an outcome for each call, and a call for each request
  have hissued := map_request_conversation houtcomes
  refine ⟨hname, hfinished, ?_⟩
  rw [← houtcomes.length_eq, ← List.length_map Call.request, hissued, hcount]

/-- All requests of some plans are launched, in the order of the plans. -/
structure LaunchesAll (plans : List Plan) (calls : List (Call ε)) : Prop where
  requests : calls.map Call.request = plans.flatMap Plan.rounds
  launched : ∀ call ∈ calls, call.Launched

/-- No plans have no requests. -/
theorem LaunchesAll.nil : LaunchesAll [] ([] : List (Call ε)) :=
  ⟨rfl, fun _ hc => absurd hc List.not_mem_nil⟩

/-- The calls for one plan and those for others behind it are the calls for all of them. -/
theorem LaunchesAll.cons {plan : Plan} {plans : List Plan} {calls others : List (Call ε)}
    (h : LaunchesAll [plan] calls) (hothers : LaunchesAll plans others) :
    LaunchesAll (plan :: plans) (calls ++ others) := by
  constructor
  · rw [List.map_append, h.requests, hothers.requests, List.flatMap_singleton, List.flatMap_cons]
  · intro call hc
    rcases List.mem_append.1 hc with hc | hc
    · exact h.launched call hc
    · exact hothers.launched call hc

/-- The sweep of a valid plan stops, with these calls and this fault: at the first request that is not
    launched, or before all requests at a directory that cannot be made among `files`. -/
inductive StopsAt (makeDirectories : Bool) (files : Files) (plan : Plan) :
    List (Call ε) → Fault ε → Prop
  | refusal (launched : List (Call ε)) (last : Request) (cause : ε) :
      CutOff plan.rounds (launched ++ [⟨last, .error cause⟩]) →
      StopsAt makeDirectories files plan (launched ++ [⟨last, .error cause⟩])
        (.aborted last.repetition last.experiment cause)
  | directory (p : Path) (fault : Files.Fault) : makeDirectories = true →
      (makeOutputDirectories files (plan.experiments.map Experiment.output)).1 = .error (p, fault) →
      StopsAt makeDirectories files plan [] (.directory p fault)

/-- **One sweep.**  A valid plan is swept to its end, with a report and all its requests launched, or its
    sweep stops. -/
theorem run_of_valid (harness : Harness σ ε) (makeDirectories : Bool) {plan : Plan} (hvalid : plan.Valid)
    (world : World σ) :
    (∃ report, (run harness makeDirectories plan world).result = .ok report ∧ ReportsOn plan report ∧
      LaunchesAll [plan] (callsOf harness makeDirectories plan world)) ∨
    ∃ fault, (run harness makeDirectories plan world).result = .error fault ∧
      StopsAt makeDirectories world.files plan (callsOf harness makeDirectories plan world) fault := by
  have hok : plan.validate = .ok () := (Plan.validate_eq_ok_iff plan).2 hvalid
  have horder := runsInOrder_callsOf harness makeDirectories plan world
  -- by whether the directories can be made: only then is the first request handed to the harness
  by_cases hmade : makeDirectories = true →
      (makeOutputDirectories world.files (plan.experiments.map Experiment.output)).1 = .ok ()
  · obtain ⟨requests, hrequests, hcut, hreport, hfault⟩ := horder.cutOff hok hmade
    obtain rfl : requests = plan.rounds :=
      Except.ok.inj (hrequests.symm.trans (Plan.requests_of_valid hvalid))
    cases hresult : (run harness makeDirectories plan world).result with
    -- a report means that no request was cut off, so the calls are for all requests
    | ok report =>
      have hall := hreport.1 ⟨report, hresult⟩
      refine Or.inl ⟨report, rfl, run_report hvalid hresult, ?_, hall⟩
      rw [hcut.map_request hall, List.flatMap_singleton]
    | error fault =>
      obtain ⟨launched, last, cause, hcalls, rfl, -⟩ := hfault fault hresult
      rw [hcalls] at hcut ⊢
      exact Or.inr ⟨_, rfl, .refusal launched last cause hcut⟩
  · obtain ⟨hmake, hnot⟩ := Classical.not_imp.1 hmade
    cases hdirectories :
        (makeOutputDirectories world.files (plan.experiments.map Experiment.output)).1 with
    | ok _ => exact absurd hdirectories hnot
    | error found =>
      obtain ⟨p, fault⟩ := found
      obtain ⟨hresult, hcalls, -⟩ := horder.noDirectory p fault hok hmake hdirectories
      rw [hcalls]
      exact Or.inr ⟨_, hresult, .directory p fault hmake hdirectories⟩

end Sweep

namespace CommandLine

open Sweep (callsOf ReportsOn LaunchesAll StopsAt)

variable {σ ε : Type}

/-! ## All sweeps

  The sweeps share one world, so every statement is for all worlds, and the induction on the plans hands on
  the one that a sweep has left.  Only whether a sweep ends decides whether there is a next one. -/

/-- The calls that a harness gets while plans are swept. -/
def callsAll (harness : Harness σ ε) (makeDirectories : Bool) : List Plan → World σ → List (Call ε)
  | [], _ => []
  | plan :: rest, world =>
    let first := Sweep.run harness makeDirectories plan world
    callsOf harness makeDirectories plan world ++
      match first.result with
      | .error _ => []
      | .ok _ => callsAll harness makeDirectories rest first.world

/-- A sweep that stops is the last one that calls are made for. -/
theorem callsAll_of_error {harness : Harness σ ε} {makeDirectories : Bool} {plan : Plan} {world : World σ}
    {fault : Sweep.Fault ε} (h : (Sweep.run harness makeDirectories plan world).result = .error fault)
    (rest : List Plan) : callsAll harness makeDirectories (plan :: rest) world =
      callsOf harness makeDirectories plan world := by
  rw [callsAll, h, List.append_nil]

/-- A sweep that ends is followed by the others, in the world that it left. -/
theorem callsAll_of_ok {harness : Harness σ ε} {makeDirectories : Bool} {plan : Plan} {world : World σ}
    {report : Report} (h : (Sweep.run harness makeDirectories plan world).result = .ok report)
    (rest : List Plan) : callsAll harness makeDirectories (plan :: rest) world =
      callsOf harness makeDirectories plan world ++
        callsAll harness makeDirectories rest (Sweep.run harness makeDirectories plan world).world := by
  rw [callsAll, h]

/-- A sweep that stops gives the whole run its fault, under the name of its plan. -/
theorem sweepAll_of_error {harness : Harness σ ε} {makeDirectories : Bool} {plan : Plan} {world : World σ}
    {fault : Sweep.Fault ε} (h : (Sweep.run harness makeDirectories plan world).result = .error fault)
    (rest : List Plan) : sweepAll harness makeDirectories (plan :: rest) world =
      ⟨.error (.sweep plan.name fault), (Sweep.run harness makeDirectories plan world).world,
        (Sweep.run harness makeDirectories plan world).log⟩ := by
  rw [sweepAll, h]

/-- A sweep that ends puts its report in front of those of the others. -/
theorem sweepAll_of_ok {harness : Harness σ ε} {makeDirectories : Bool} {plan : Plan} {world : World σ}
    {report : Report} (h : (Sweep.run harness makeDirectories plan world).result = .ok report)
    (rest : List Plan) : sweepAll harness makeDirectories (plan :: rest) world =
      let others := sweepAll harness makeDirectories rest
        (Sweep.run harness makeDirectories plan world).world
      ⟨others.result.map (report :: ·), others.world,
        (Sweep.run harness makeDirectories plan world).log ++ others.log⟩ := by
  rw [sweepAll, h]

/-- **Observation is transparent.**  Sweeps with a journal are the same sweeps, and the journal gains their
    calls. -/
theorem sweepAll_journaled (harness : Harness σ ε) (makeDirectories : Bool) (plans : List Plan) :
    ∀ (world : World σ) (journal : List (Call ε)),
      sweepAll harness.journaled makeDirectories plans (world.withJournal journal) =
        (sweepAll harness makeDirectories plans world).withJournal
          ((callsAll harness makeDirectories plans world).reverse ++ journal) := by
  -- on the plans, for every world and every journal that a sweep may leave to the next one
  induction plans with
  | nil => intro world journal; rfl
  | cons plan rest ih =>
    intro world journal
    have hrun := Sweep.run_journaled harness makeDirectories plan world journal
    have hresult : (Sweep.run harness.journaled makeDirectories plan (world.withJournal journal)).result =
        (Sweep.run harness makeDirectories plan world).result := by rw [hrun]; rfl
    cases h : (Sweep.run harness makeDirectories plan world).result with
    | error fault =>
      rw [sweepAll_of_error (hresult.trans h), sweepAll_of_error h, callsAll_of_error h, hrun]
      rfl
    | ok report =>
      have hworld : (Sweep.run harness.journaled makeDirectories plan (world.withJournal journal)).world =
          (Sweep.run harness makeDirectories plan world).world.withJournal
            ((callsOf harness makeDirectories plan world).reverse ++ journal) := by rw [hrun]; rfl
      have hlog : (Sweep.run harness.journaled makeDirectories plan (world.withJournal journal)).log =
          (Sweep.run harness makeDirectories plan world).log := by rw [hrun]; rfl
      rw [sweepAll_of_ok (hresult.trans h), sweepAll_of_ok h, callsAll_of_ok h, hworld, hlog, ih,
        List.reverse_append, List.append_assoc]
      rfl

/-- **All sweeps.**  Either every plan is swept to its end, with one report for each, or the sweeps stop at
    one plan, when all requests of those before it were launched. -/
theorem sweepAll_of_valid (harness : Harness σ ε) (makeDirectories : Bool) {plans : List Plan}
    (hvalid : ∀ plan ∈ plans, plan.Valid) (world : World σ) :
    (∃ reports, (sweepAll harness makeDirectories plans world).result = .ok reports ∧
      List.Forall₂ ReportsOn plans reports ∧
      LaunchesAll plans (callsAll harness makeDirectories plans world)) ∨
    ∃ before plan after swept made fault, plans = before ++ plan :: after ∧
      callsAll harness makeDirectories plans world = swept ++ made ∧ LaunchesAll before swept ∧
      StopsAt makeDirectories (sweepAll harness makeDirectories before world).world.files plan made fault ∧
      (sweepAll harness makeDirectories plans world).result = .error (.sweep plan.name fault) := by
  -- on the plans, for every world that the sweeps so far may have left
  induction plans generalizing world with
  | nil => exact Or.inl ⟨[], rfl, .nil, .nil⟩
  | cons plan rest ih =>
    have hplan : plan.Valid := hvalid plan List.mem_cons_self
    have hrest : ∀ other ∈ rest, other.Valid := fun other ho => hvalid other (List.mem_cons_of_mem _ ho)
    rcases Sweep.run_of_valid harness makeDirectories hplan world with
      ⟨report, hresult, hreport, hlaunched⟩ | ⟨fault, hresult, hstops⟩
    · rw [sweepAll_of_ok hresult, callsAll_of_ok hresult]
      rcases ih hrest (Sweep.run harness makeDirectories plan world).world with
        ⟨reports, hothers, hreports, hall⟩ |
        ⟨before, last, after, swept, made, fault, hplans, hcalls, hswept, hstops, hothers⟩
      · refine Or.inl ⟨report :: reports, ?_, .cons hreport hreports, hlaunched.cons hall⟩
        simp only [hothers]
        rfl
      · -- the plan that was swept first joins those before the one at which the sweeps stop
        refine Or.inr ⟨plan :: before, last, after,
          callsOf harness makeDirectories plan world ++ swept, made, fault, ?_, ?_,
          hlaunched.cons hswept, ?_, ?_⟩
        · rw [hplans, List.cons_append]
        · rw [hcalls, List.append_assoc]
        · rw [sweepAll_of_ok hresult]
          exact hstops
        · simp only [hothers]
          rfl
    · refine Or.inr ⟨[], plan, rest, [], callsOf harness makeDirectories plan world, fault, rfl, ?_, .nil,
        hstops, ?_⟩
      · rw [callsAll_of_error hresult, List.nil_append]
      · rw [sweepAll_of_error hresult]

/-! ## The plans of a run

  Repetitions are replaced before anything is checked, so a plan may be valid as it is written and not as it
  is run, or the other way round. -/

/-- Nothing but the repetitions of the plans is changed. -/
theorem overridden_eq_map (repetitions : Option UInt32) (plans : List Plan) :
    overridden repetitions plans =
      plans.map fun plan => { plan with repetitions := repetitions.getD plan.repetitions } := by
  cases repetitions with
  | none => exact (List.map_id plans).symm
  | some n => rfl

/-- Plans are checked one after the other, and the first fault is kept under the name of its plan. -/
theorem validateAll_cons (plan : Plan) (rest : List Plan) : validateAll (ε := ε) (plan :: rest) =
    (plan.validate.mapError (.invalid plan.name) >>= fun _ => validateAll rest) := rfl

/-- Plans that are valid each pass the check together. -/
theorem validateAll_of_valid {plans : List Plan} (h : ∀ plan ∈ plans, plan.validate = .ok ()) :
    validateAll (ε := ε) plans = .ok () := by
  induction plans with
  | nil => rfl
  | cons plan rest ih =>
    have hplan : plan.validate = .ok () := h plan List.mem_cons_self
    have hrest := ih fun other ho => h other (List.mem_cons_of_mem _ ho)
    rw [validateAll_cons, hplan]
    exact hrest

/-- The first plan that is not valid is reported, whatever stands behind it. -/
theorem validateAll_of_first {before : List Plan} (h : ∀ plan ∈ before, plan.validate = .ok ())
    {plan : Plan} {fault : Plan.Fault} (hplan : plan.validate = .error fault) (after : List Plan) :
    validateAll (ε := ε) (before ++ plan :: after) = .error (.invalid plan.name fault) := by
  -- on the plans in front, each of which the check passes
  induction before with
  | nil =>
    rw [List.nil_append, validateAll_cons, hplan]
    rfl
  | cons first before ih =>
    have hfirst : first.validate = .ok () := h first List.mem_cons_self
    have hbefore := ih fun other ho => h other (List.mem_cons_of_mem _ ho)
    rw [List.cons_append, validateAll_cons, hfirst]
    exact hbefore

/-! ## The run

  A run is a check, the sweeps and a summary.  Its calls are read from a journal that the harness keeps, and
  the journal is shown to change none of the three. -/

/-- Checks plans, with the repetitions that are asked for, and carries them out if all are valid. -/
def runSelected (harness : Harness σ ε) (makeDirectories : Bool) (opening : List Log.Event)
    (summary : Option Path) (repetitions : Option UInt32) (plans : List Plan) (world : World σ) :
    Sweep.Run σ (RunFault ε) Unit :=
  match validateAll (overridden repetitions plans) with
  | .error fault => ⟨.error fault, world, []⟩
  | .ok () =>
    let run := runPlans harness makeDirectories summary (overridden repetitions plans) world
    { run with log := opening ++ run.log }

/-- The calls that a harness gets in the run. -/
def callsSelected (harness : Harness σ ε) (makeDirectories : Bool) (opening : List Log.Event)
    (summary : Option Path) (repetitions : Option UInt32) (plans : List Plan) (world : World σ) :
    List (Call ε) :=
  (runSelected harness.journaled makeDirectories opening summary repetitions plans
    (world.withJournal [])).world.state.2.reverse

/-- What a run that swept all plans comes to: it succeeds unless a summary that is asked for cannot be
    written, and the summary is that of the reports. -/
structure Concludes (summary : Option Path) (reports : List Report) (swept : World σ)
    (run : Sweep.Run σ (RunFault ε) Unit) : Prop where
  /-- Without a summary the run leaves the world as the sweeps left it. -/
  silent : summary = none → run.result = .ok () ∧ run.world = swept
  written : ∀ p text files, summary = some p → Report.summary? reports = some text →
    swept.files.write p (.replace (Text.Utf8.encode text.toList)) = .ok files →
    run.result = .ok () ∧ run.world = { swept with files }
  noText : ∀ p, summary = some p → Report.summary? reports = none →
    run.result = .error .summaryText ∧ run.world = swept
  refused : ∀ p text fault, summary = some p → Report.summary? reports = some text →
    swept.files.write p (.replace (Text.Utf8.encode text.toList)) = .error fault →
    run.result = .error (.summaryFile p fault) ∧ run.world = swept

/-- A run in which a sweep stops ends with its fault and writes no summary. -/
theorem runPlans_of_error {harness : Harness σ ε} {makeDirectories : Bool} {plans : List Plan}
    {world : World σ} {fault : RunFault ε}
    (h : (sweepAll harness makeDirectories plans world).result = .error fault) (summary : Option Path) :
    runPlans harness makeDirectories summary plans world =
      ⟨.error fault, (sweepAll harness makeDirectories plans world).world,
        (sweepAll harness makeDirectories plans world).log⟩ := by
  rw [runPlans, h]

/-- A run that swept all plans comes to what `Concludes` says, in each of the four cases of the summary. -/
theorem concludes_runPlans {harness : Harness σ ε} {makeDirectories : Bool} {plans : List Plan}
    {world : World σ} {reports : List Report}
    (h : (sweepAll harness makeDirectories plans world).result = .ok reports) (summary : Option Path) :
    Concludes summary reports (sweepAll harness makeDirectories plans world).world
      (runPlans harness makeDirectories summary plans world) := by
  refine ⟨?_, ?_, ?_, ?_⟩
  · rintro rfl
    simp only [runPlans, h, writeSummary, and_self]
  · rintro p text files rfl htext hwrite
    simp only [runPlans, h, writeSummary, htext, hwrite, Except.mapError, and_self]
  · rintro p rfl htext
    simp only [runPlans, h, writeSummary, htext, and_self]
  · rintro p text fault rfl htext hwrite
    simp only [runPlans, h, writeSummary, htext, hwrite, Except.mapError, and_self]

/-- A run with a journal is the same run, summary and all, and the journal gains its calls. -/
theorem runPlans_journaled (harness : Harness σ ε) (makeDirectories : Bool) (summary : Option Path)
    (plans : List Plan) (world : World σ) (journal : List (Call ε)) :
    runPlans harness.journaled makeDirectories summary plans (world.withJournal journal) =
      (runPlans harness makeDirectories summary plans world).withJournal
        ((callsAll harness makeDirectories plans world).reverse ++ journal) := by
  have hswept := sweepAll_journaled harness makeDirectories plans world journal
  generalize hcalls : (callsAll harness makeDirectories plans world).reverse ++ journal = calls at hswept ⊢
  unfold runPlans
  rw [hswept]
  generalize sweepAll harness makeDirectories plans world = swept
  obtain ⟨result, left, log⟩ := swept
  cases result with
  | error fault => rfl
  | ok reports =>
    -- the summary is written among the files, and the journal is none of them
    simp only [Sweep.Run.withJournal, World.withJournal]
    cases writeSummary (ε := ε) left.files summary reports with
    | error fault => rfl
    | ok files => rfl

/-! ## All plans or none

  By the first plan that is not valid there are two cases, and in neither of them are some plans swept and
  others refused. -/

/-- A plan that is not valid ends the run before anything was done, and not even the opening lines are
    logged. -/
theorem runSelected_of_first (harness : Harness σ ε) (makeDirectories : Bool) (opening : List Log.Event)
    (summary : Option Path) {repetitions : Option UInt32} {plans before after : List Plan} {plan : Plan}
    {fault : Plan.Fault} (hselected : overridden repetitions plans = before ++ plan :: after)
    (hbefore : ∀ other ∈ before, other.validate = .ok ()) (hplan : plan.validate = .error fault)
    (world : World σ) :
    runSelected harness makeDirectories opening summary repetitions plans world =
      ⟨.error (.invalid plan.name fault), world, []⟩ := by
  rw [runSelected, hselected, validateAll_of_first hbefore hplan after]

/-- Plans that are valid are run, behind the opening lines. -/
theorem runSelected_of_valid (harness : Harness σ ε) (makeDirectories : Bool) (opening : List Log.Event)
    (summary : Option Path) {repetitions : Option UInt32} {plans : List Plan}
    (hvalid : ∀ plan ∈ overridden repetitions plans, plan.validate = .ok ()) (world : World σ) :
    runSelected harness makeDirectories opening summary repetitions plans world =
      { runPlans harness makeDirectories summary (overridden repetitions plans) world with
        log := opening ++
          (runPlans harness makeDirectories summary (overridden repetitions plans) world).log } := by
  rw [runSelected, validateAll_of_valid hvalid]

/-- With a plan that is not valid, nothing is asked of the harness. -/
theorem callsSelected_of_first (harness : Harness σ ε) (makeDirectories : Bool) (opening : List Log.Event)
    (summary : Option Path) {repetitions : Option UInt32} {plans before after : List Plan} {plan : Plan}
    {fault : Plan.Fault} (hselected : overridden repetitions plans = before ++ plan :: after)
    (hbefore : ∀ other ∈ before, other.validate = .ok ()) (hplan : plan.validate = .error fault)
    (world : World σ) :
    callsSelected harness makeDirectories opening summary repetitions plans world = [] := by
  rw [callsSelected, runSelected_of_first _ _ _ _ hselected hbefore hplan]
  rfl

/-- With valid plans, the calls of the run are those of the sweeps. -/
theorem callsSelected_of_valid (harness : Harness σ ε) (makeDirectories : Bool) (opening : List Log.Event)
    (summary : Option Path) {repetitions : Option UInt32} {plans : List Plan}
    (hvalid : ∀ plan ∈ overridden repetitions plans, plan.validate = .ok ()) (world : World σ) :
    callsSelected harness makeDirectories opening summary repetitions plans world =
      callsAll harness makeDirectories (overridden repetitions plans) world := by
  rw [callsSelected, runSelected_of_valid _ _ _ _ hvalid]
  show (runPlans harness.journaled makeDirectories summary (overridden repetitions plans)
    (world.withJournal [])).world.state.2.reverse = _
  -- the journal is kept with the last call in front
  rw [runPlans_journaled]
  show ((callsAll harness makeDirectories (overridden repetitions plans) world).reverse ++ []).reverse = _
  rw [List.append_nil, List.reverse_reverse]

/-- What is promised of a run of selected plans: the calls that it makes, and its result. -/
structure AllOrNothing (harness : Harness σ ε) (makeDirectories : Bool) (opening : List Log.Event)
    (summary : Option Path) (repetitions : Option UInt32) (plans selected : List Plan) (world : World σ)
    (run : Sweep.Run σ (RunFault ε) Unit) (calls : List (Call ε)) : Prop where
  /-- The number of repetitions that is asked for reaches every plan, and nothing else changes. -/
  override : selected = plans.map fun plan => { plan with repetitions := repetitions.getD plan.repetitions }
  /-- The first plan that is not valid keeps the whole run from starting, also if all before it are valid. -/
  invalid : ∀ before plan after fault, selected = before ++ plan :: after →
    (∀ other ∈ before, other.validate = .ok ()) → plan.validate = .error fault →
    run.result = .error (.invalid plan.name fault) ∧ run.world = world ∧ calls = []
  /-- Valid plans are swept one after the other: either all requests are launched, there is one report for
      each plan and the run ends with its summary, or it stops at one plan, behind the requests of those
      before it, and is as if no summary had been asked for. -/
  valid : (∀ plan ∈ selected, plan.validate = .ok ()) →
    (∀ plan ∈ selected, plan.requests = .ok plan.rounds) ∧
    ((∃ reports, LaunchesAll selected calls ∧
        (sweepAll harness makeDirectories selected world).result = .ok reports ∧
        List.Forall₂ ReportsOn selected reports ∧
        Concludes summary reports (sweepAll harness makeDirectories selected world).world run) ∨
      ∃ before plan after swept made fault, selected = before ++ plan :: after ∧
        calls = swept ++ made ∧ LaunchesAll before swept ∧
        StopsAt makeDirectories (sweepAll harness makeDirectories before world).world.files plan made fault ∧
        run.result = .error (.sweep plan.name fault) ∧
        run = runSelected harness makeDirectories opening none repetitions plans world)
  exit : ∀ (causes : ε → List String) (output : σ → List UInt8),
    (Result.ofRun causes output run).ending.exitCode = 0 ↔ run.result = .ok ()

/-- The program exits with zero exactly if the run came to its end. -/
theorem exitCode_ofRun_eq_zero_iff (causes : ε → List String) (output : σ → List UInt8)
    (run : Sweep.Run σ (RunFault ε) Unit) :
    (Result.ofRun causes output run).ending.exitCode = 0 ↔ run.result = .ok () := by
  unfold Result.ofRun
  cases run.result with
  | ok _ => exact ⟨fun _ => rfl, fun _ => rfl⟩
  | error fault =>
    constructor
    · intro h
      cases h
    · intro h
      cases h

/-- Every run of selected plans keeps the promise, whatever the harness does. -/
theorem allOrNothing_runSelected (harness : Harness σ ε) (makeDirectories : Bool) (opening : List Log.Event)
    (summary : Option Path) (repetitions : Option UInt32) (plans : List Plan) (world : World σ) :
    AllOrNothing harness makeDirectories opening summary repetitions plans (overridden repetitions plans) world
      (runSelected harness makeDirectories opening summary repetitions plans world)
      (callsSelected harness makeDirectories opening summary repetitions plans world) where
  override := overridden_eq_map repetitions plans
  invalid := by
    intro before plan after fault hselected hbefore hplan
    rw [runSelected_of_first _ _ _ _ hselected hbefore hplan]
    exact ⟨rfl, rfl, callsSelected_of_first _ _ _ _ hselected hbefore hplan world⟩
  valid := by
    intro hok
    have hvalid : ∀ plan ∈ overridden repetitions plans, plan.Valid :=
      fun plan hplan => (Plan.validate_eq_ok_iff plan).1 (hok plan hplan)
    refine ⟨fun plan hplan => Plan.requests_of_valid (hvalid plan hplan), ?_⟩
    rw [callsSelected_of_valid _ _ _ _ hok, runSelected_of_valid _ _ _ _ hok, runSelected_of_valid _ _ _ _ hok]
    rcases sweepAll_of_valid harness makeDirectories hvalid world with
      ⟨reports, hresult, hreports, hall⟩ |
      ⟨before, plan, after, swept, made, fault, hplans, hcalls, hswept, hstops, hresult⟩
    · obtain ⟨hsilent, hwritten, hnoText, hrefused⟩ := concludes_runPlans hresult summary
      exact Or.inl ⟨reports, hall, hresult, hreports, hsilent, hwritten, hnoText, hrefused⟩
    · -- the fault is the same with a summary and without one
      rw [runPlans_of_error hresult, runPlans_of_error hresult]
      exact Or.inr ⟨before, plan, after, swept, made, fault, hplans, hcalls, hswept, hstops, rfl, rfl⟩
  exit := fun causes output => exitCode_ofRun_eq_zero_iff causes output _

/-! ## Plan files

  Loading a file checks the plan as it is written; a run with a number of repetitions reads the file and
  checks the plan only with that number. -/

/-- A run of the command line is the run of the plans that its options name. -/
theorem runOptions_of_namedPlans {harness : Harness σ ε} {makeDirectories : Bool}
    {opening : List Log.Event} {options : Options} {world : World σ} {plans : List Plan}
    (h : namedPlans world.files options = .ok plans) :
    runOptions harness makeDirectories opening options world =
      runSelected harness makeDirectories opening options.summary options.repetitions plans world := by
  have hselect : selectPlans (ε := ε) world.files options =
      (validateAll (overridden options.repetitions plans) >>= fun _ =>
        pure (overridden options.repetitions plans)) := by
    rw [selectPlans, h]
    rfl
  rw [runOptions, hselect, runSelected]
  cases validateAll (ε := ε) (overridden options.repetitions plans) with
  | error fault => rfl
  | ok _ => rfl

/-- A plan file is loaded if a plan is read from it and is valid. -/
theorem load_eq_ok_iff (files : Files) (p : Path) (plan : Plan) :
    Plan.load files p = .ok plan ↔ Plan.read files p = .ok plan ∧ plan.validate = .ok () := by
  rw [Plan.load]
  cases hread : Plan.read files p with
  | error fault =>
    constructor
    · intro h
      cases h
    · rintro ⟨h, -⟩
      cases h
  | ok found =>
    rw [ok_bind]
    cases hvalidate : found.validate with
    | error fault =>
      constructor
      · intro h
        cases h
      · rintro ⟨h, hvalid⟩
        obtain rfl := Except.ok.inj h
        rw [hvalidate] at hvalid
        cases hvalid
    | ok _ =>
      constructor
      · intro h
        obtain rfl : found = plan := Except.ok.inj h
        exact ⟨rfl, hvalidate⟩
      · rintro ⟨h, -⟩
        exact h

/-- A run with a plan file takes the one plan of the file, with the repetitions that are asked for, and
    accepts it exactly if it is valid then. -/
theorem selectPlans_eq_ok_iff {files : Files} {options : Options} {p : Path} (h : options.config = some p)
    (plans : List Plan) : selectPlans (ε := ε) files options = .ok plans ↔
      ∃ plan, Plan.read files p = .ok plan ∧
        { plan with repetitions := options.repetitions.getD plan.repetitions }.validate = .ok () ∧
        plans = [{ plan with repetitions := options.repetitions.getD plan.repetitions }] := by
  rw [selectPlans, namedPlans, h]
  simp only [overridden_eq_map]
  cases hread : Plan.read files p with
  | error fault =>
    constructor
    · intro hok
      cases hok
    · rintro ⟨plan, hplan, -⟩
      cases hplan
  | ok plan =>
    -- a file holds one plan, so there is nothing to choose
    have honly : ∀ other, Except.ok (ε := Plan.FileFault) plan = .ok other → plan = other :=
      fun _ => Except.ok.inj
    show (validateAll [{ plan with repetitions := options.repetitions.getD plan.repetitions }] >>= fun _ =>
      (pure [{ plan with repetitions := options.repetitions.getD plan.repetitions }] :
        Except (RunFault ε) (List Plan))) = .ok plans ↔ _
    rw [validateAll_cons]
    constructor
    · intro hok
      refine ⟨plan, rfl, ?_⟩
      cases hvalidate : { plan with repetitions := options.repetitions.getD plan.repetitions }.validate with
      | error fault =>
        rw [hvalidate] at hok
        cases hok
      | ok _ =>
        rw [hvalidate] at hok
        exact ⟨rfl, (Except.ok.inj hok).symm⟩
    · rintro ⟨other, hother, hvalidate, rfl⟩
      obtain rfl := honly other hother
      rw [hvalidate]
      rfl

/-- **A run sweeps all its plans or none.**  Whatever the harness does, a run of selected plans keeps the
    promise; a run of the command line is the run of the plans that its options name; and a plan file is
    accepted exactly if its plan is valid, with its own repetitions or with those that are asked for. -/
theorem runOptions_all_or_nothing (harness : Harness σ ε) (makeDirectories : Bool)
    (opening : List Log.Event) :
    (∀ (summary : Option Path) (repetitions : Option UInt32) (plans : List Plan) (world : World σ),
      AllOrNothing harness makeDirectories opening summary repetitions plans (overridden repetitions plans)
        world (runSelected harness makeDirectories opening summary repetitions plans world)
        (callsSelected harness makeDirectories opening summary repetitions plans world)) ∧
    (∀ (options : Options) (world : World σ) (plans : List Plan),
      namedPlans world.files options = .ok plans →
      runOptions harness makeDirectories opening options world =
        runSelected harness makeDirectories opening options.summary options.repetitions plans world) ∧
    ∀ (files : Files) (options : Options) (p : Path), options.config = some p →
      (options.repetitions = none → ∀ plans, selectPlans (ε := ε) files options = .ok plans ↔
        ∃ plan, Plan.load files p = .ok plan ∧ plans = [plan]) ∧
      ∀ n, options.repetitions = some n → ∀ plans, selectPlans (ε := ε) files options = .ok plans ↔
        ∃ plan, Plan.read files p = .ok plan ∧ (plan.withRepetitions n).validate = .ok () ∧
          plans = [plan.withRepetitions n] := by
  refine ⟨allOrNothing_runSelected harness makeDirectories opening, ?_, ?_⟩
  · intro options world plans h
    exact runOptions_of_namedPlans h
  · intro files options p hconfig
    constructor
    · intro hnone plans
      rw [selectPlans_eq_ok_iff hconfig, hnone]
      simp only [Option.getD_none, load_eq_ok_iff, and_assoc]
    · intro n hsome plans
      rw [selectPlans_eq_ok_iff hconfig, hsome]
      rfl

/-- Launches every request, with success. -/
def obliging : Harness Unit String := fun _ world => (.ok .succeeded, world)

/-- The plan for the queue without repetitions: it is read, but it is not valid as it is. -/
def paused : Plan := (Matrix.plan .crturn).withRepetitions 0

/-- A directory with a single file, which holds a text. -/
def holding (text : String) : Files :=
  ⟨.directory [((Path.ofString "p.toml").bytes, .file (Text.Utf8.encode text.toList) false)], []⟩

/-- The text that the file was given is read from it. -/
theorem readText_holding (text : String) : (holding text).readText (.ofString "p.toml") = .ok text := by
  have hread : (holding text).read (.ofString "p.toml") = .ok (Text.Utf8.encode text.toList) := rfl
  rw [Files.readText, hread, ok_bind, Text.Utf8.decode?_encode]
  simp only [String.ofList_toList]
  rfl

/-- The plan without repetitions can be written to a file and is read from it: reading does not check it. -/
theorem exists_read_paused : ∃ text, Plan.read (holding text) (.ofString "p.toml") = .ok paused := by
  have htexts : ∀ e ∈ paused.experiments, e.output.text?.isSome = true := by decide +kernel
  obtain ⟨text, -, hread⟩ := Plan.exists_toText?_read? htexts
  have hof : Plan.ofText text = .ok paused := by
    rw [Plan.ofText, hread]
    show (Plan.ofDocument (Plan.document paused)).mapError Plan.TextFault.shape = _
    rw [Plan.ofDocument_document htexts]
    rfl
  refine ⟨text, ?_⟩
  rw [Plan.read, readText_holding]
  show (Plan.ofText text).mapError (Plan.FileFault.text _) = _
  rw [hof]
  rfl

/-- A valid plan in front of one without experiments: nothing is launched and nothing changes.  The plan for
    the queue is run by its name; and from a file, without repetitions, it is accepted only if some are asked
    for. -/
theorem runOptions_all_or_nothing_crturn :
    (∀ world : World Harness.DryRun.Writer,
      (runSelected Harness.dryRun false [] (some (.ofString "s.json")) none
        [Matrix.plan .crturn, { Matrix.plan .general with experiments := [] }] world).result =
          .error (.invalid "general" .noExperiments) ∧
      callsSelected Harness.dryRun false [] (some (.ofString "s.json")) none
        [Matrix.plan .crturn, { Matrix.plan .general with experiments := [] }] world = []) ∧
    (∀ world : World Harness.DryRun.Writer,
      (runSelected Harness.dryRun false [] none none [Matrix.plan .crturn] world).result = .ok () ∨
      ∃ fault, (runSelected Harness.dryRun false [] none none [Matrix.plan .crturn] world).result =
        .error (.sweep "crturn" fault)) ∧
    (∀ world : World Harness.DryRun.Writer,
      runOptions Harness.dryRun false [] { matrices := [.crturn] } world =
        runSelected Harness.dryRun false [] none none [Matrix.plan .crturn] world) ∧
    ∃ text,
      (∀ plans, selectPlans (ε := String) (holding text) { config := some (.ofString "p.toml") } ≠
        .ok plans) ∧
      selectPlans (ε := String) (holding text)
        { config := some (.ofString "p.toml"), repetitions := some 1 } = .ok [paused.withRepetitions 1] := by
  refine ⟨fun world => ?_, fun world => ?_, fun world => ?_, ?_⟩
  · obtain ⟨hresult, -, hcalls⟩ :=
      ((runOptions_all_or_nothing Harness.dryRun false []).1 (some (.ofString "s.json")) none _ world).invalid
        [Matrix.plan .crturn] { Matrix.plan .general with experiments := [] } [] .noExperiments rfl
        (by decide +kernel) (by decide +kernel)
    exact ⟨hresult, hcalls⟩
  · obtain ⟨-, hends⟩ :=
      ((runOptions_all_or_nothing Harness.dryRun false []).1 none none [Matrix.plan .crturn] world).valid
        (by decide +kernel)
    rcases hends with ⟨reports, -, -, -, hconcludes⟩ |
      ⟨before, plan, after, -, -, fault, hplans, -, -, -, hresult, -⟩
    · exact Or.inl (hconcludes.silent rfl).1
    · have hmem : plan ∈ overridden none [Matrix.plan .crturn] := by
        rw [hplans]
        exact List.mem_append_right _ List.mem_cons_self
      obtain rfl : plan = Matrix.plan .crturn := List.mem_singleton.1 hmem
      exact Or.inr ⟨fault, hresult⟩
  · exact (runOptions_all_or_nothing Harness.dryRun false []).2.1 { matrices := [.crturn] } world _ rfl
  · obtain ⟨text, hread⟩ := exists_read_paused
    have haccepts := (runOptions_all_or_nothing obliging false []).2.2 (holding text)
    refine ⟨text, fun plans hselect => ?_, ?_⟩
    · obtain ⟨plan, hload, -⟩ :=
        ((haccepts { config := some (.ofString "p.toml") } _ rfl).1 rfl plans).1 hselect
      -- as it is written the plan is not valid, for it has no repetitions
      obtain ⟨hfound, hvalid⟩ := (load_eq_ok_iff _ _ _).1 hload
      obtain rfl : plan = paused := Except.ok.inj (hfound.symm.trans hread)
      exact absurd hvalid (by decide +kernel)
    · exact ((haccepts { config := some (.ofString "p.toml"), repetitions := some 1 } _ rfl).2 1 rfl _).2
        ⟨paused, hread, by decide +kernel, rfl⟩

/-! ## Directories that are in the way

  The condition on directories cannot be dropped: here every request would be launched, and none is. -/

/-- A directory in which a file bears the name of a directory that `blockedPlan` needs. -/
def blockedFiles : Files := ⟨.directory [((Path.ofString "data").bytes, .file [] false)], []⟩

/-- A plan with one experiment, whose output is two directories deep in what the file is in the way of. -/
def blockedPlan : Plan :=
  { Matrix.plan .crturn with
    repetitions := 1
    experiments := [{ name := "queue", family := "queue", selector := 11, mode := 3,
                      output := .ofString "data/final/rows.csv" }] }

/-- A valid plan whose output directory cannot be made: a harness that launches every request is asked for
    none, although no launch ends the list of requests early. -/
theorem not_cutOff_blockedPlan : blockedPlan.validate = .ok () ∧
    (∀ request world, ∃ status, (obliging request world).1 = .ok status) ∧
    ¬ Sweep.CutOff ([blockedPlan].flatMap Plan.rounds)
      (callsSelected obliging true [] none none [blockedPlan] ⟨blockedFiles, default, ()⟩) := by
  have hvalid : blockedPlan.validate = .ok () := by decide +kernel
  refine ⟨hvalid, fun _ _ => ⟨.succeeded, rfl⟩, fun hcut => ?_⟩
  have hcalls :
      (callsSelected obliging true [] none none [blockedPlan] ⟨blockedFiles, default, ()⟩).length = 0 := by
    decide +kernel
  have hrounds : ([blockedPlan].flatMap Plan.rounds).length = 1 := by decide +kernel
  rw [List.length_eq_zero_iff.1 hcalls] at hcut
  cases hrequests : [blockedPlan].flatMap Plan.rounds with
  | nil =>
    rw [hrequests] at hrounds
    cases hrounds
  | cons request rest =>
    -- a list that is cut off behind a request that is not launched still holds the call for it
    rw [hrequests] at hcut
    cases hcut

end CommandLine
end BenchSweep
