/-
  The requests of a plan as an enumeration.

  The sweep is two loops: all repetitions, and in each of them all experiments.  Nothing is skipped, so the
  requests are a table of rows of one length, written one row after the other.

  1. **Rows.**  If every row has `n` entries, the entry `k` of row `r` stands at the place `r * n + k`
     (`getElem?_rows`), and fewer rows are the front of more rows.

  2. **A round is a row.**  In a valid plan every experiment finds its axis, so the round of a repetition has
     an entry for each experiment, and this entry is what `Request.build` gives (`Valid.getElem?_round`).

  3. **Places.**  A request bears its repetition and its place in the plan.  Those of the whole sweep are all
     pairs of the two, in lexicographic order (`Valid.map_position_rounds`).

  A plan that is not valid has no requests, and its fault is that of the validation, for the second fault
  that `requests` could report never comes about.
-/
import Mathlib.Data.List.Nodup
import Mathlib.Data.List.ProdSigma
import BenchSweep.Matrix
import BenchSweep.Proofs.Requests

namespace BenchSweep

/-! ## Rows of one length

  A table is written down as one list, row behind row.  Its rows are given by a function of their number,
  all of them with `n` entries, so a place of the list is a row and a place in it. -/

section Rows

variable {α : Type} {n : Nat} {row : Nat → List α}

/-- Rows of `n` entries have `R * n` entries together, which is where the next row begins. -/
theorem length_rows (R : Nat) (h : ∀ r < R, (row r).length = n) :
    ((List.range R).flatMap row).length = R * n := by
  -- on the number of rows, with the last one split off
  induction R with
  | zero => rw [Nat.zero_mul]; rfl
  | succ R ih =>
    have hfront : ((List.range R).flatMap row).length = R * n := ih fun r hr => h r (by omega)
    have hlast : (row R).length = n := h R (by omega)
    rw [List.range_succ, List.flatMap_append, List.flatMap_singleton, List.length_append, hfront, hlast,
      Nat.succ_mul]

/-- The entry `k` of row `r` stands behind `r` whole rows. -/
theorem getElem?_rows (R : Nat) (h : ∀ r < R, (row r).length = n) {r k : Nat} (hr : r < R) (hk : k < n) :
    ((List.range R).flatMap row)[r * n + k]? = (row r)[k]? := by
  -- on the number of rows: the place is in the last one or among those in front of it
  induction R with
  | zero => omega
  | succ R ih =>
    have hrows : ∀ r < R, (row r).length = n := fun r hr => h r (by omega)
    have hfront : ((List.range R).flatMap row).length = R * n := length_rows R hrows
    rw [List.range_succ, List.flatMap_append, List.flatMap_singleton]
    rcases Nat.lt_or_eq_of_le (Nat.le_of_lt_succ hr) with hlt | heq
    · -- the place is among the rows in front
      have hbound : (r + 1) * n ≤ R * n := Nat.mul_le_mul_right n hlt
      rw [Nat.succ_mul] at hbound
      rw [List.getElem?_append_left (by omega), ih hrows hlt]
    · -- the last row starts where the rows in front of it end
      subst heq
      rw [List.getElem?_append_right (by omega), hfront, Nat.add_sub_cancel_left]

/-- Fewer rows are the front of more rows. -/
theorem rows_prefix (row : Nat → List α) {R R' : Nat} (h : R ≤ R') :
    (List.range R).flatMap row <+: (List.range R').flatMap row := by
  obtain ⟨more, rfl⟩ := Nat.exists_eq_add_of_le h
  rw [List.range_add, List.flatMap_append]
  exact List.prefix_append _ _

end Rows

/-- All pairs of two numbers, row by row, stand in lexicographic order. -/
theorem pairwise_lex_product_range (R n : Nat) :
    (List.range R ×ˢ List.range n).Pairwise (Prod.Lex (· < ·) (· < ·)) := by
  refine List.pairwise_flatMap.2 ⟨fun r _ => ?_, List.pairwise_lt_range.imp fun hlt x hx y hy => ?_⟩
  · -- inside a row the second number grows
    refine List.pairwise_map.2 (List.pairwise_lt_range.imp fun hlt => ?_)
    exact Prod.Lex.right r hlt
  · -- between two rows the first number decides, whatever the second ones are
    obtain ⟨k, -, rfl⟩ := List.mem_map.1 hx
    obtain ⟨k', -, rfl⟩ := List.mem_map.1 hy
    exact Prod.Lex.left k k' hlt

/-! ## Requests and their places -/

namespace Request

/-- The repetition of a request and the place of its experiment in the plan. -/
def position (request : Request) : Nat × Nat := (request.repetition.toNat, request.kindIndex)

/-- What a request says of itself is what it was built for. -/
theorem fields_of_build {plan : Plan} {repetition : UInt32} {k : Nat} {e : Experiment} {request : Request}
    (h : build plan repetition k e = some request) :
    request.repetition = repetition ∧ request.kindIndex = k ∧ request.experiment = e.name ∧
      request.output = e.output := by
  obtain ⟨axis, -, rfl⟩ := Option.map_eq_some_iff.1 h
  exact ⟨rfl, rfl, rfl, rfl⟩

end Request

namespace Plan

/-! ## A round is a row -/

/-- Every entry of a valid plan becomes a request, so a round has one for each of them. -/
theorem Valid.map_some_round {plan : Plan} (h : plan.Valid) (repetition : UInt32) :
    (plan.round repetition).map some =
      plan.experiments.zipIdx.map fun (e, k) => Request.build plan repetition k e := by
  refine map_some_filterMap fun entry hentry => ?_
  exact h.exists_build repetition hentry

/-- No experiment of a valid plan is left out of a round, so each round is as long as the plan. -/
theorem Valid.length_round {plan : Plan} (h : plan.Valid) (repetition : UInt32) :
    (plan.round repetition).length = plan.experiments.length := by
  have hlength := congrArg List.length (h.map_some_round repetition)
  rwa [List.length_map, List.length_map, List.length_zipIdx] at hlength

/-- What stands at the place `k` of a round is what is built for the experiment `k`, also when that is
    nothing. -/
theorem Valid.getElem?_round {plan : Plan} (h : plan.Valid) (repetition : UInt32) {k : Nat}
    (hk : k < plan.experiments.length) :
    (plan.round repetition)[k]? = Request.build plan repetition k plan.experiments[k] := by
  -- a list wrapped in `some` is compared at one place, where `none` would say that the round is shorter
  have hentry := congrArg (·[k]?) (h.map_some_round repetition)
  simp only [List.getElem?_map, List.getElem?_zipIdx, List.getElem?_eq_getElem hk, Option.map_some,
    Nat.zero_add] at hentry
  cases hround : (plan.round repetition)[k]? with
  | none =>
    rw [hround] at hentry
    cases hentry
  | some request =>
    rw [hround] at hentry
    exact Option.some.inj hentry

/-- The requests of a round bear its repetition and the places of the plan one after the other. -/
theorem Valid.map_position_round {plan : Plan} (h : plan.Valid) (repetition : UInt32) :
    (plan.round repetition).map Request.position =
      (List.range plan.experiments.length).map fun k => (repetition.toNat, k) := by
  -- place by place: inside the plan by what was built there, behind it by the lengths
  refine List.ext_getElem? fun k => ?_
  rw [List.getElem?_map, List.getElem?_map]
  by_cases hk : k < plan.experiments.length
  · obtain ⟨request, hrequest⟩ := h.exists_build repetition
      (List.mk_mem_zipIdx_iff_getElem?.2 (List.getElem?_eq_getElem hk))
    obtain ⟨hrepetition, hplace, -, -⟩ := Request.fields_of_build hrequest
    rw [h.getElem?_round repetition hk, hrequest, List.getElem?_range hk, Option.map_some, Option.map_some,
      Request.position, hrepetition, hplace]
  · have hround : (plan.round repetition).length ≤ k := by
      rw [h.length_round]
      omega
    rw [List.getElem?_eq_none hround, List.getElem?_eq_none (by rw [List.length_range]; omega)]
    rfl

/-! ## The whole sweep -/

/-- A repetition of a plan is the word that it is counted with. -/
theorem toNat_ofNat_repetition {plan : Plan} {r : Nat} (hr : r < plan.repetitions.toNat) :
    (UInt32.ofNat r).toNat = r := by
  have hsize : plan.repetitions.toNat < UInt32.size := plan.repetitions.toNat_lt_size
  exact UInt32.toNat_ofNat_of_lt' (by omega)

/-- The whole sweep has as many requests as there are pairs of a repetition and an experiment. -/
theorem Valid.length_rounds {plan : Plan} (h : plan.Valid) :
    plan.rounds.length = plan.repetitions.toNat * plan.experiments.length :=
  length_rows _ fun r _ => h.length_round (UInt32.ofNat r)

/-- The request for the experiment `k` in the repetition `r` stands behind `r` whole rounds. -/
theorem Valid.getElem?_rounds {plan : Plan} (h : plan.Valid) {r k : Nat} (hr : r < plan.repetitions.toNat)
    (hk : k < plan.experiments.length) :
    plan.rounds[r * plan.experiments.length + k]? =
      Request.build plan (UInt32.ofNat r) k plan.experiments[k] := by
  rw [rounds, getElem?_rows _ (fun r _ => h.length_round (UInt32.ofNat r)) hr hk, h.getElem?_round _ hk]

/-- The places of all requests are all pairs of a repetition and a place of the plan. -/
theorem Valid.map_position_rounds {plan : Plan} (h : plan.Valid) :
    plan.rounds.map Request.position =
      List.range plan.repetitions.toNat ×ˢ List.range plan.experiments.length := by
  rw [rounds, List.map_flatMap]
  refine List.flatMap_congr fun r hr => ?_
  rw [h.map_position_round, toNat_ofNat_repetition (List.mem_range.1 hr)]

/-- Every request of a plan is built for the repetition that it bears and the experiment at its place. -/
theorem build_of_mem_rounds {plan : Plan} {request : Request} (h : request ∈ plan.rounds) :
    ∃ hk : request.kindIndex < plan.experiments.length, Request.build plan request.repetition
      request.kindIndex plan.experiments[request.kindIndex] = some request := by
  obtain ⟨r, -, hround⟩ := List.mem_flatMap.1 h
  obtain ⟨⟨e, k⟩, hentry, hbuild⟩ := List.mem_filterMap.1 hround
  obtain ⟨hk, rfl⟩ := List.getElem?_eq_some_iff.1 (List.mk_mem_zipIdx_iff_getElem?.1 hentry)
  obtain ⟨hrepetition, rfl, -, -⟩ := Request.fields_of_build hbuild
  exact ⟨hk, by rw [hrepetition]; exact hbuild⟩

/-- A request writes to the output that the plan gives the experiment at its place. -/
theorem output_of_mem_rounds {plan : Plan} {request : Request} (hrequest : request ∈ plan.rounds) :
    ∃ hk : request.kindIndex < plan.experiments.length,
      request.output = plan.experiments[request.kindIndex].output := by
  obtain ⟨hk, hbuild⟩ := build_of_mem_rounds hrequest
  obtain ⟨-, -, -, houtput⟩ := Request.fields_of_build hbuild
  exact ⟨hk, houtput⟩

/-- Only the requests of an experiment bear its output, however it is spelled. -/
theorem Valid.kindIndex_eq {plan : Plan} (h : plan.Valid) {request : Request} (hrequest : request ∈ plan.rounds)
    {k : Nat} (hk : k < plan.experiments.length)
    (houtput : request.output.normalise = plan.experiments[k].output.normalise) : request.kindIndex = k := by
  obtain ⟨hplace, hown⟩ := output_of_mem_rounds hrequest
  -- two places with one output are what the validation excludes
  by_contra hne
  rw [hown] at houtput
  exact h.distinct _ _ hplace hk hne houtput

/-! ## Plans that differ in their repetitions

  The number of repetitions is read by the outer loop and by one check of the validation, so plans that
  differ in nothing else have the same rounds, one plan more of them than the other. -/

/-- Any positive number of repetitions is as good as any other. -/
theorem Valid.withRepetitions {plan : Plan} {R R' : UInt32} (h : (plan.withRepetitions R).Valid)
    (hR : 1 ≤ R'.toNat) : (plan.withRepetitions R').Valid :=
  { repetitions := hR, experiments := h.experiments, command := h.command, runIdKey := h.runIdKey,
    subjects := h.subjects, names := h.names, axes := h.axes, families := h.families, outputs := h.outputs,
    distinct := h.distinct }

/-- A round does not depend on how many repetitions there are, so more of them only add rounds at the end. -/
theorem rounds_withRepetitions_prefix (plan : Plan) {R R' : UInt32} (h : R ≤ R') :
    (plan.withRepetitions R).rounds <+: (plan.withRepetitions R').rounds :=
  rows_prefix (fun r => plan.round (UInt32.ofNat r)) (UInt32.le_iff_toNat_le.1 h)

/-! ## The requests -/

/-- A plan that is refused is refused with the fault of its validation: the second fault that the function
    has words for, an experiment without an axis, is one that a valid plan cannot show. -/
theorem requests_eq_error_iff (plan : Plan) (fault : Fault) :
    plan.requests = .error fault ↔ plan.validate = .error fault := by
  constructor
  · intro h
    cases hvalidate : plan.validate with
    | error other =>
      rw [requests_of_fault hvalidate] at h
      rw [Except.error.inj h]
    | ok _ =>
      rw [requests_of_valid ((validate_eq_ok_iff plan).1 hvalidate)] at h
      cases h
  · exact requests_of_fault

/-- The requests that a plan is given are those of its rounds, and only a valid plan is given any. -/
theorem requests_eq_ok_iff (plan : Plan) (requests : List Request) :
    plan.requests = .ok requests ↔ plan.Valid ∧ requests = plan.rounds := by
  constructor
  · intro h
    cases hvalidate : plan.validate with
    | error fault =>
      rw [requests_of_fault hvalidate] at h
      cases h
    | ok _ =>
      have hvalid : plan.Valid := (validate_eq_ok_iff plan).1 hvalidate
      rw [requests_of_valid hvalid] at h
      exact ⟨hvalid, (Except.ok.inj h).symm⟩
  · rintro ⟨hvalid, rfl⟩
    exact requests_of_valid hvalid

/-- Validity is all that a plan needs in order to have requests. -/
theorem exists_requests_iff (plan : Plan) :
    (∃ requests, plan.requests = .ok requests) ↔ plan.Valid := by
  constructor
  · rintro ⟨requests, h⟩
    exact ((requests_eq_ok_iff plan requests).1 h).1
  · intro h
    exact ⟨plan.rounds, requests_of_valid h⟩

/-- The list has the request of each experiment in each repetition, at its place and nowhere else. -/
structure Enumerates (plan : Plan) (requests : List Request) : Prop where
  length : requests.length = plan.repetitions.toNat * plan.experiments.length
  count : requests.length = plan.invocationCount
  /-- The request at a place is what is built for that repetition and that experiment. -/
  entry : ∀ r k (_ : r < plan.repetitions.toNat) (hk : k < plan.experiments.length), ∃ request,
    requests[r * plan.experiments.length + k]? = some request ∧
      Request.build plan (UInt32.ofNat r) k plan.experiments[k] = some request ∧
      request.repetition.toNat = r ∧ request.kindIndex = k ∧
      request.experiment = plan.experiments[k].name ∧ request.output = plan.experiments[k].output
  /-- Each pair of a repetition and an experiment occurs once. -/
  once : ∀ r k, r < plan.repetitions.toNat → k < plan.experiments.length →
    (requests.map Request.position).count (r, k) = 1
  ordered : (requests.map Request.position).Pairwise (Prod.Lex (· < ·) (· < ·))
  /-- The requests of one experiment go to one file. -/
  output : ∀ request ∈ requests, ∀ other ∈ requests, request.kindIndex = other.kindIndex →
    request.output = other.output

/-- The rounds of a valid plan are the table that `Enumerates` describes. -/
theorem Valid.enumerates_rounds {plan : Plan} (h : plan.Valid) : plan.Enumerates plan.rounds where
  length := h.length_rounds
  count := h.length_rounds
  entry := by
    intro r k hr hk
    obtain ⟨request, hrequest⟩ := h.exists_build (UInt32.ofNat r)
      (List.mk_mem_zipIdx_iff_getElem?.2 (List.getElem?_eq_getElem hk))
    obtain ⟨hrepetition, hplace, hname, houtput⟩ := Request.fields_of_build hrequest
    refine ⟨request, (h.getElem?_rounds hr hk).trans hrequest, hrequest, ?_, hplace, hname, houtput⟩
    rw [hrepetition, toNat_ofNat_repetition hr]
  once := by
    intro r k hr hk
    rw [h.map_position_rounds]
    -- the pairs are those of two lists without duplicates, so none of them comes twice
    have hnodup : (List.range plan.repetitions.toNat ×ˢ List.range plan.experiments.length).Nodup :=
      List.nodup_range.product List.nodup_range
    exact List.count_eq_one_of_mem hnodup
      (List.mem_product.2 ⟨List.mem_range.2 hr, List.mem_range.2 hk⟩)
  ordered := by
    rw [h.map_position_rounds]
    exact pairwise_lex_product_range _ _
  output := by
    intro request hrequest other hother hplace
    obtain ⟨hk, houtput⟩ := output_of_mem_rounds hrequest
    obtain ⟨hk', houtput'⟩ := output_of_mem_rounds hother
    rw [houtput, houtput']
    simp only [hplace]

/-- Every experiment of a valid plan has a request. -/
theorem Valid.exists_build_mem_rounds {plan : Plan} (h : plan.Valid) {e : Experiment}
    (he : e ∈ plan.experiments) :
    ∃ request ∈ plan.rounds, ∃ repetition k, Request.build plan repetition k e = some request := by
  obtain ⟨k, hk, rfl⟩ := List.getElem_of_mem he
  obtain ⟨request, hentry, hbuild, -⟩ := h.enumerates_rounds.entry 0 k h.repetitions hk
  exact ⟨request, List.mem_of_getElem? hentry, _, k, hbuild⟩

/-- **The requests of a plan enumerate its repetitions and experiments.**  There are requests exactly when
    the plan is valid, and otherwise the fault of the validation; they are the table of all repetitions and
    experiments, row by row; and more repetitions only add requests at the end, so many that each repetition
    has as many as there are experiments. -/
theorem requests_enumerate (plan : Plan) :
    (∀ fault, plan.requests = .error fault ↔ plan.validate = .error fault) ∧
    ((∃ requests, plan.requests = .ok requests) ↔ plan.validate = .ok ()) ∧
    (plan.validate = .ok () → ∀ repetition k, ∀ e ∈ plan.experiments,
      (Request.build plan repetition k e).isSome = true) ∧
    (∀ requests, plan.requests = .ok requests → plan.Enumerates requests) ∧
    ∀ R R' : UInt32, 1 ≤ R → R ≤ R' →
      ((∃ requests, (plan.withRepetitions R).requests = .ok requests) ↔
        ∃ more, (plan.withRepetitions R').requests = .ok more) ∧
      ∀ requests more, (plan.withRepetitions R).requests = .ok requests →
        (plan.withRepetitions R').requests = .ok more →
          requests.length = R.toNat * plan.experiments.length ∧
            more.length = R'.toNat * plan.experiments.length ∧ requests <+: more := by
  refine ⟨requests_eq_error_iff plan, ?_, ?_, ?_, ?_⟩
  · rw [exists_requests_iff, validate_eq_ok_iff]
  · intro hvalid repetition k e he
    obtain ⟨axis, haxis⟩ := ((validate_eq_ok_iff plan).1 hvalid).exists_axisFor he
    rw [Request.build_of_axis haxis repetition k, Option.isSome_some]
  · intro requests h
    obtain ⟨hvalid, rfl⟩ := (requests_eq_ok_iff plan requests).1 h
    exact hvalid.enumerates_rounds
  · intro R R' hpositive hle
    have hR : 1 ≤ R.toNat := UInt32.le_iff_toNat_le.1 hpositive
    have hR' : R.toNat ≤ R'.toNat := UInt32.le_iff_toNat_le.1 hle
    constructor
    · rw [exists_requests_iff, exists_requests_iff]
      -- both numbers are positive, and nothing else of the two plans differs
      exact ⟨fun h => h.withRepetitions (by omega), fun h => h.withRepetitions hR⟩
    · intro requests more h h'
      obtain ⟨hvalid, rfl⟩ := (requests_eq_ok_iff _ requests).1 h
      obtain ⟨hvalid', rfl⟩ := (requests_eq_ok_iff _ more).1 h'
      exact ⟨hvalid.length_rounds, hvalid'.length_rounds, rounds_withRepetitions_prefix plan hle⟩

/-- The built-in plan for the queue: ten requests, of which the fifth starts the third repetition, and those
    of two repetitions in front of those of five. -/
theorem requests_enumerate_crturn :
    (∃ requests, (Matrix.plan .crturn).requests = .ok requests ∧ requests.length = 10 ∧
      (requests[4]?.map Request.position) = some (2, 0)) ∧
    ∃ requests more, ((Matrix.plan .crturn).withRepetitions 2).requests = .ok requests ∧
      ((Matrix.plan .crturn).withRepetitions 5).requests = .ok more ∧
        requests.length = 4 ∧ more.length = 10 ∧ requests <+: more := by
  have hvalid : (Matrix.plan .crturn).validate = .ok () := by decide +kernel
  obtain ⟨-, hok, -, henumerates, hprefix⟩ := requests_enumerate (Matrix.plan .crturn)
  obtain ⟨requests, hrequests⟩ := hok.2 hvalid
  obtain ⟨hiff, hfront⟩ := hprefix 2 5 (by decide) (by decide)
  -- five repetitions are those of the plan itself
  have hmore : ((Matrix.plan .crturn).withRepetitions 5).requests = .ok requests := hrequests
  obtain ⟨few, hfew⟩ := hiff.2 ⟨requests, hmore⟩
  refine ⟨⟨requests, hrequests, (henumerates requests hrequests).length, ?_⟩,
    few, requests, hfew, hmore, hfront few requests hfew hmore⟩
  obtain ⟨request, hentry, -, hrepetition, hplace, -, -⟩ :=
    (henumerates requests hrequests).entry 2 0 (by decide) (by decide)
  have hfifth : requests[4]? = some request := hentry
  rw [hfifth, Option.map_some, Request.position, hrepetition, hplace]

end Plan
end BenchSweep
