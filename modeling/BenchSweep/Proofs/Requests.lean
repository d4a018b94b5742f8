/-
  The requests of a plan.

  `Plan.requests` may fail in two places: when the plan is checked, and when a request finds no axis.  The
  second never comes about, because a valid plan has an axis for each of its experiments.  So the requests
  of a valid plan are an enumeration that cannot fail (`requests_of_valid`), and `requests` refuses a plan
  exactly when `validate` does, for the same fault.
-/
import BenchSweep.Proofs.Validity
import BenchSweep.Proofs.Walks
import BenchSweep.Request.Basic

namespace BenchSweep

namespace Request

/-- With its axis a request is built, and this is what it is. -/
theorem build_of_axis {plan : Plan} {e : Experiment} {axis : Axis} (h : plan.axisFor e = some axis)
    (repetition : UInt32) (k : Nat) : build plan repetition k e =
      some { repetition, kindIndex := k, experiment := e.name, program := plan.harness.command,
             arguments := argumentsFor plan repetition e axis, output := e.output } := by
  rw [build, h]
  rfl

end Request

namespace Plan

/-- In a valid plan every experiment has its axis. -/
theorem Valid.exists_axisFor {plan : Plan} (h : plan.Valid) {e : Experiment} (he : e ∈ plan.experiments) :
    ∃ axis, plan.axisFor e = some axis := by
  have hsome : (plan.axes.get? e.family).isSome = true := Keyed.contains_iff.2 (h.families e he)
  exact Option.isSome_iff_exists.1 hsome

/-- The requests of one repetition, without those that find no axis. -/
def round (plan : Plan) (repetition : UInt32) : List Request :=
  plan.experiments.zipIdx.filterMap fun (e, k) => Request.build plan repetition k e

/-- The rounds of all repetitions. -/
def rounds (plan : Plan) : List Request :=
  (List.range plan.repetitions.toNat).flatMap fun r => plan.round (UInt32.ofNat r)

/-- The request that a valid plan has for an experiment at a place. -/
theorem Valid.exists_build {plan : Plan} (h : plan.Valid) (repetition : UInt32) {entry : Experiment × Nat}
    (he : entry ∈ plan.experiments.zipIdx) :
    ∃ request, Request.build plan repetition entry.2 entry.1 = some request := by
  obtain ⟨axis, haxis⟩ := h.exists_axisFor (List.fst_mem_of_mem_zipIdx he)
  exact ⟨_, Request.build_of_axis haxis repetition entry.2⟩

/-- The requests of one repetition of a valid plan are its round. -/
theorem requestsOf_of_valid {plan : Plan} (h : plan.Valid) (repetition : UInt32) :
    plan.requestsOf repetition = .ok (plan.round repetition) := by
  refine mapM_eq_ok_filterMap ?_
  rintro ⟨e, k⟩ he
  obtain ⟨request, hrequest⟩ := h.exists_build repetition he
  refine ⟨request, ?_, hrequest⟩
  simp only [hrequest]

/-- The requests of a valid plan are its rounds; none is missing for want of an axis. -/
theorem requests_of_valid {plan : Plan} (h : plan.Valid) : plan.requests = .ok plan.rounds := by
  have hrounds : ((List.range plan.repetitions.toNat).mapM fun r => plan.requestsOf (UInt32.ofNat r)) =
      .ok ((List.range plan.repetitions.toNat).map fun r => plan.round (UInt32.ofNat r)) :=
    (mapM_eq_ok_filterMap fun r _ => ⟨_, requestsOf_of_valid h (UInt32.ofNat r), rfl⟩).trans
      (congrArg Except.ok (congrFun List.filterMap_eq_map _))
  rw [requests, (validate_eq_ok_iff plan).2 h, hrounds, rounds, List.flatMap_def]
  rfl

/-- A plan that is refused has no requests, and the fault is the same. -/
theorem requests_of_fault {plan : Plan} {fault : Fault} (h : plan.validate = .error fault) :
    plan.requests = .error fault := by
  rw [requests, h]
  rfl

end Plan
end BenchSweep
