import VoiceHarness.Job.Workflow

/-!
# The review of a plan

The operations of `ReviewState` in `cursor/workflow.py` and the runs of them. A revision keeps the
decision and the review it is for, so that it can be followed by another revision: the round counts
the rejecting reviews exactly in the runs that revise only a state with a review of its own round.
-/

set_option autoImplicit false
set_option relaxedAutoImplicit false

namespace VoiceHarness

/-- A call of an operation of `ReviewState`. -/
inductive ReviewOperation
  | publishPlan (reference : ArtifactReference)
  | publishReview (reference : ArtifactReference) (decision : ReviewDecision)
  | approveExhausted
  | revise
  deriving DecidableEq

/-- A rejecting review is published. -/
def ReviewOperation.isRejection : ReviewOperation → Bool
  | publishReview _ .revise => true
  | _ => false

namespace ReviewState

/-! ### The operations -/

/-- `ReviewState(...)`. -/
def make (state : ReviewState) : Checked ReviewState := do
  runGuards state.guards
  .ok state

/-- `ReviewState(tier, 0)`. -/
def fresh (tier : Option WorkflowTier) : ReviewState :=
  { tier, round := 0, plan := none, review := none, decision := none, approvalSource := none }

/-- `publish_plan`. -/
def publishPlan (state : ReviewState) (reference : ArtifactReference) : Checked ReviewState :=
  if reference.kind ≠ .plan ∨ (reference.round : ℤ) ≠ state.round then
    .error "plan artifact must match the current review round"
  else make { state with
    plan := some reference, review := none, decision := none, approvalSource := none }

/-- `publish_review`. -/
def publishReview (state : ReviewState) (reference : ArtifactReference)
    (decision : ReviewDecision) : Checked ReviewState :=
  if (state.plan.map fun plan ↦ (plan.round : ℤ)) ≠ some state.round then
    .error "review requires the current plan artifact"
  else if reference.kind ≠ .review ∨ (reference.round : ℤ) ≠ state.round then
    .error "review artifact must match the current review round"
  else make { state with
    review := some reference
    decision := some decision
    approvalSource := if decision = .approve then some .reviewer else none }

/-- `approve_exhausted`. -/
def approveExhausted (state : ReviewState) : Checked ReviewState :=
  make { state with approvalSource := some .user }

/-- `revise`; the decision, the plan and the review stay. -/
def revise (state : ReviewState) : Checked ReviewState :=
  if state.decision ≠ some .revise then .error "revision requires a revise decision"
  else if 2 < state.round + 1 ∨ (state.tier = some .medium ∧ 1 < state.round + 1) then
    .error "workflow review limit is exhausted"
  else make { state with round := state.round + 1, approvalSource := none }

def apply (state : ReviewState) : ReviewOperation → Checked ReviewState
  | .publishPlan reference => state.publishPlan reference
  | .publishReview reference decision => state.publishReview reference decision
  | .approveExhausted => state.approveExhausted
  | .revise => state.revise

/-! ### What the operations do -/

variable {state next : ReviewState}

theorem make_ok (h : state.make = .ok next) :
    next = state ∧ ∀ guard ∈ state.guards, guard.1 = false := by
  obtain ⟨⟨⟩, hguards, hsame⟩ := checked_bind_eq_ok_iff.mp h
  cases hsame
  exact ⟨rfl, runGuards_eq_ok_iff.mp hguards⟩

theorem publishPlan_ok {reference : ArtifactReference}
    (h : state.publishPlan reference = .ok next) :
    (reference.round : ℤ) = state.round ∧ next = { state with
      plan := some reference, review := none, decision := none, approvalSource := none } := by
  unfold publishPlan at h
  split at h
  · cases h
  · next hreference =>
    push Not at hreference
    exact ⟨hreference.2, (make_ok h).1⟩

theorem publishReview_ok {reference : ArtifactReference} {decision : ReviewDecision}
    (h : state.publishReview reference decision = .ok next) :
    (state.plan.map fun plan ↦ (plan.round : ℤ)) = some state.round ∧
      (reference.round : ℤ) = state.round ∧ next = { state with
        review := some reference
        decision := some decision
        approvalSource := if decision = .approve then some .reviewer else none } := by
  unfold publishReview at h
  split at h
  · cases h
  next hplan =>
  split at h
  · cases h
  next hreference =>
  push Not at hreference
  exact ⟨not_not.mp hplan, hreference.2, (make_ok h).1⟩

theorem revise_ok (h : state.revise = .ok next) :
    state.decision = some .revise ∧
      next = { state with round := state.round + 1, approvalSource := none } := by
  unfold revise at h
  split at h
  · cases h
  next hdecision =>
  split at h
  · cases h
  · exact ⟨not_not.mp hdecision, (make_ok h).1⟩

/-- An operation that answers has built a state. -/
theorem guards_of_apply {operation : ReviewOperation} (h : state.apply operation = .ok next) :
    ∀ guard ∈ next.guards, guard.1 = false := by
  have hmake : ∃ built : ReviewState, built.make = .ok next := by
    cases operation with
    | publishPlan reference =>
      simp only [apply, publishPlan] at h
      split at h
      · cases h
      · exact ⟨_, h⟩
    | publishReview reference decision =>
      simp only [apply, publishReview] at h
      split at h
      · cases h
      · split at h
        · cases h
        · exact ⟨_, h⟩
    | approveExhausted => exact ⟨_, h⟩
    | revise =>
      simp only [apply, revise] at h
      split at h
      · cases h
      · split at h
        · cases h
        · exact ⟨_, h⟩
  obtain ⟨built, hbuilt⟩ := hmake
  obtain ⟨rfl, hguards⟩ := make_ok hbuilt
  exact hguards

/-- An operation keeps the plan, or drops the review: no review stays for another plan. -/
theorem keeps_of_apply {operation : ReviewOperation} (h : state.apply operation = .ok next) :
    next.plan = state.plan ∨ next.review = none := by
  cases operation with
  | publishPlan reference => exact .inr (by rw [(publishPlan_ok h).2])
  | publishReview reference decision => exact .inl (by rw [(publishReview_ok h).2.2])
  | approveExhausted => exact .inl (by rw [(make_ok h).1])
  | revise => exact .inl (by rw [(revise_ok h).2])

/-- The review is one of the current round. -/
def isReviewed (state : ReviewState) : Bool :=
  (state.review.map fun review ↦ (review.round : ℤ)) = some state.round

/-- The last round of a tier. -/
def lastRound : Option WorkflowTier → ℤ
  | some .medium => 1
  | _ => 2

/-- The state is not approved, or on a plan and a review of its round that are of one job. -/
def ApprovedOnCurrent (state : ReviewState) : Prop :=
  state.approvalSource.isSome = true → ∃ plan review, state.plan = some plan ∧
    state.review = some review ∧ (plan.round : ℤ) = state.round ∧
      (review.round : ℤ) = state.round ∧ plan.jobId = review.jobId

theorem bounds_of_guards (h : ∀ guard ∈ state.guards, guard.1 = false) :
    0 ≤ state.round ∧ state.round ≤ lastRound state.tier ∧ state.ApprovedOnCurrent := by
  simp only [guards, List.forall_mem_cons, List.not_mem_nil, false_imp_iff, implies_true,
    and_true] at h
  obtain ⟨hround, hmedium, -, -, -, hcurrent⟩ := h
  simp only [Bool.or_eq_false_iff, decide_eq_false_iff_not, Int.not_lt] at hround
  refine ⟨hround.1, ?_, fun happroved ↦ ?_⟩
  · unfold lastRound
    split
    · next htier => simpa [htier] using hmedium
    · exact hround.2
  · simp only [happroved, Bool.true_and, Bool.or_eq_false_iff, decide_eq_false_iff_not,
      not_not] at hcurrent
    obtain ⟨⟨hplan, hreview⟩, hjob⟩ := hcurrent
    cases hplanned : state.plan with
    | none => simp [hplanned] at hplan
    | some plan =>
      cases hreviewed : state.review with
      | none => simp [hreviewed] at hreview
      | some review =>
        simp only [hplanned, hreviewed, Option.map_some, Option.some.injEq] at hplan hreview hjob
        exact ⟨plan, review, rfl, rfl, hplan, hreview, hjob⟩

end ReviewState

/-! ### Runs -/

/-- An operation that succeeded, and the state it was called on. -/
structure ReviewStep where
  before : ReviewState
  operation : ReviewOperation

/-- The runs of a tier; the steps are listed from the last one. -/
inductive ReviewRun (tier : Option WorkflowTier) : List ReviewStep → ReviewState → Prop
  | fresh : ReviewRun tier [] (.fresh tier)
  | step {history : List ReviewStep} {state next : ReviewState} {operation : ReviewOperation}
      (before : ReviewRun tier history state) (h : state.apply operation = .ok next) :
    ReviewRun tier (⟨state, operation⟩ :: history) next

/-- The steps since the last revision. -/
def sinceRevise (history : List ReviewStep) : List ReviewStep :=
  history.takeWhile fun step ↦ step.operation ≠ .revise

/-- A revision of the state is for a rejecting review of its round, published since the last
revision, and so was the plan. -/
structure Consumes (history : List ReviewStep) (state : ReviewState) : Prop where
  rejected : ∃ review : ArtifactReference, (review.round : ℤ) = state.round ∧
    ∃ step ∈ sinceRevise history, step.operation = .publishReview review .revise
  planned : ∃ plan : ArtifactReference, (plan.round : ℤ) = state.round ∧
    ∃ step ∈ sinceRevise history, step.operation = .publishPlan plan

/-- The revisions of a run that are for a rejecting review published since the one before. -/
def consumed : List ReviewStep → ℕ
  | [] => 0
  | step :: history =>
    if step.operation = .revise ∧ (sinceRevise history).any (·.operation.isRejection) then
      consumed history + 1
    else consumed history

/-- What the fields of a state say about the steps since the last revision. -/
structure Recorded (history : List ReviewStep) (state : ReviewState) : Prop where
  reviewLast : ∀ review, state.review = some review → (review.round : ℤ) ≤ state.round
  planLast : ∀ plan, state.plan = some plan → (plan.round : ℤ) ≤ state.round
  planned : ∀ plan, state.plan = some plan → (plan.round : ℤ) = state.round →
    ∃ step ∈ sinceRevise history, step.operation = .publishPlan plan
  reviewed : ∀ review, state.review = some review → (review.round : ℤ) = state.round →
    (∃ plan, state.plan = some plan ∧ (plan.round : ℤ) = state.round) ∧
      ∃ decision, state.decision = some decision ∧
        ∃ step ∈ sinceRevise history, step.operation = .publishReview review decision
  rejected : (sinceRevise history).any (·.operation.isRejection) = true →
    state.decision = none ∨ state.isReviewed = true

variable {tier : Option WorkflowTier} {history : List ReviewStep} {state next : ReviewState}

theorem sinceRevise_cons (history : List ReviewStep) (state : ReviewState)
    {operation : ReviewOperation} (h : operation ≠ .revise) :
    sinceRevise (⟨state, operation⟩ :: history) = ⟨state, operation⟩ :: sinceRevise history := by
  simp [sinceRevise, h]

theorem sinceRevise_revise (history : List ReviewStep) (state : ReviewState) :
    sinceRevise (⟨state, .revise⟩ :: history) = [] := by
  simp [sinceRevise]

/-- Each operation keeps the record. -/
theorem Recorded.step (hrecorded : Recorded history state) {operation : ReviewOperation}
    (h : state.apply operation = .ok next) : Recorded (⟨state, operation⟩ :: history) next := by
  cases operation with
  | publishPlan reference =>
    obtain ⟨hround, rfl⟩ := ReviewState.publishPlan_ok h
    have hsince := sinceRevise_cons history state
      (show ReviewOperation.publishPlan reference ≠ .revise by simp)
    constructor
    · rintro review ⟨⟩
    · rintro plan ⟨⟩
      exact Int.le_of_eq hround
    · rintro plan ⟨⟩ -
      exact ⟨_, by rw [hsince]; exact List.mem_cons_self, rfl⟩
    · rintro review ⟨⟩
    · exact fun _ ↦ .inl rfl
  | publishReview reference decision =>
    obtain ⟨hplan, hround, rfl⟩ := ReviewState.publishReview_ok h
    have hsince := sinceRevise_cons history state
      (show ReviewOperation.publishReview reference decision ≠ .revise by simp)
    constructor
    · rintro review ⟨⟩
      exact Int.le_of_eq hround
    · exact hrecorded.planLast
    · intro plan hstored hcurrent
      obtain ⟨step, hstep, hoperation⟩ := hrecorded.planned plan hstored hcurrent
      exact ⟨step, by rw [hsince]; exact List.mem_cons_of_mem _ hstep, hoperation⟩
    · rintro review ⟨⟩ -
      refine ⟨?_, decision, rfl, _, by rw [hsince]; exact List.mem_cons_self, rfl⟩
      obtain ⟨plan, hstored, hcurrent⟩ := Option.map_eq_some_iff.mp hplan
      exact ⟨plan, hstored, hcurrent⟩
    · exact fun _ ↦ .inr (by simp [ReviewState.isReviewed, hround])
  | approveExhausted =>
    obtain ⟨rfl, -⟩ := ReviewState.make_ok h
    have hsince := sinceRevise_cons history state
      (show ReviewOperation.approveExhausted ≠ .revise by simp)
    constructor
    · exact hrecorded.reviewLast
    · exact hrecorded.planLast
    · intro plan hstored hcurrent
      obtain ⟨step, hstep, hoperation⟩ := hrecorded.planned plan hstored hcurrent
      exact ⟨step, by rw [hsince]; exact List.mem_cons_of_mem _ hstep, hoperation⟩
    · intro review hstored hcurrent
      obtain ⟨hplan, decision, hdecision, step, hstep, hoperation⟩ :=
        hrecorded.reviewed review hstored hcurrent
      exact ⟨hplan, decision, hdecision, step, by rw [hsince]; exact List.mem_cons_of_mem _ hstep,
        hoperation⟩
    · intro hany
      rw [hsince, List.any_cons] at hany
      exact hrecorded.rejected (by simpa [ReviewOperation.isRejection] using hany)
  | revise =>
    obtain ⟨-, rfl⟩ := ReviewState.revise_ok h
    have hsince := sinceRevise_revise history state
    constructor
    · intro review hstored
      have := hrecorded.reviewLast review hstored
      show (review.round : ℤ) ≤ state.round + 1
      omega
    · intro plan hstored
      have := hrecorded.planLast plan hstored
      show (plan.round : ℤ) ≤ state.round + 1
      omega
    · intro plan hstored hcurrent
      have := hrecorded.planLast plan hstored
      have hcurrent : (plan.round : ℤ) = state.round + 1 := hcurrent
      omega
    · intro review hstored hcurrent
      have := hrecorded.reviewLast review hstored
      have hcurrent : (review.round : ℤ) = state.round + 1 := hcurrent
      omega
    · intro hany
      rw [hsince] at hany
      cases hany

theorem ReviewRun.recorded (h : ReviewRun tier history state) : Recorded history state := by
  induction h with
  | fresh =>
    constructor
    · rintro review ⟨⟩
    · rintro plan ⟨⟩
    · rintro plan ⟨⟩
    · rintro review ⟨⟩
    · exact fun hany ↦ .inl rfl
  | step before h ih => exact ih.step h

/-! ### What a revision consumes -/

/-- A state that a revision leaves rejecting a review has that review in its round exactly when a
rejecting review was published since the last revision. -/
theorem ReviewRun.rejects_iff (h : ReviewRun tier history state)
    (hdecision : state.decision = some .revise) :
    (sinceRevise history).any (·.operation.isRejection) = true ↔ state.isReviewed = true := by
  have hrecorded := h.recorded
  constructor
  · intro hany
    rcases hrecorded.rejected hany with hnone | hreviewed
    · rw [hdecision] at hnone
      cases hnone
    · exact hreviewed
  · intro hreviewed
    simp only [ReviewState.isReviewed, decide_eq_true_eq] at hreviewed
    obtain ⟨review, hstored, hcurrent⟩ := Option.map_eq_some_iff.mp hreviewed
    obtain ⟨-, decision, hsame, step, hstep, hoperation⟩ :=
      hrecorded.reviewed review hstored hcurrent
    rw [hdecision] at hsame
    cases hsame
    rw [List.any_eq_true]
    exact ⟨step, hstep, by rw [hoperation]; rfl⟩

/-- A revision consumes a rejecting review of its round exactly when the state it is called on has a
review of that round. -/
theorem ReviewRun.consumes_iff (h : ReviewRun tier history state)
    (hrevise : state.revise = .ok next) :
    Consumes history state ↔ state.isReviewed = true := by
  have hdecision := (ReviewState.revise_ok hrevise).1
  constructor
  · rintro ⟨⟨review, -, step, hstep, hoperation⟩, -⟩
    rw [← h.rejects_iff hdecision, List.any_eq_true]
    exact ⟨step, hstep, by rw [hoperation]; rfl⟩
  · intro hreviewed
    simp only [ReviewState.isReviewed, decide_eq_true_eq] at hreviewed
    obtain ⟨review, hstored, hcurrent⟩ := Option.map_eq_some_iff.mp hreviewed
    obtain ⟨⟨plan, hplanned, hround⟩, decision, hsame, step, hstep, hoperation⟩ :=
      h.recorded.reviewed review hstored hcurrent
    rw [hdecision] at hsame
    cases hsame
    exact ⟨⟨review, hcurrent, step, hstep, hoperation⟩,
      ⟨plan, hround, h.recorded.planned plan hplanned hround⟩⟩

/-- The states of a run are of its tier and stay in its rounds, and an approved one is approved on the
plan and the review of its round. -/
theorem ReviewRun.bounds (h : ReviewRun tier history state) :
    state.tier = tier ∧ 0 ≤ state.round ∧ state.round ≤ ReviewState.lastRound tier ∧
      state.ApprovedOnCurrent := by
  have htier : state.tier = tier := by
    induction h with
    | fresh => rfl
    | @step history state next operation before h ih =>
      rw [← ih]
      cases operation with
      | publishPlan reference => rw [(ReviewState.publishPlan_ok h).2]
      | publishReview reference decision => rw [(ReviewState.publishReview_ok h).2.2]
      | approveExhausted => rw [(ReviewState.make_ok h).1]
      | revise => rw [(ReviewState.revise_ok h).2]
  have hguards : ∀ guard ∈ state.guards, guard.1 = false := by
    cases h with
    | fresh => simp [ReviewState.guards, ReviewState.fresh]
    | step before h => exact ReviewState.guards_of_apply h
  obtain ⟨hlower, hupper, happroved⟩ := ReviewState.bounds_of_guards hguards
  exact ⟨htier, hlower, htier ▸ hupper, happroved⟩

/-- The part of a run before one of its steps. -/
theorem ReviewRun.before {later : List ReviewStep} {step : ReviewStep}
    (h : ReviewRun tier (later ++ step :: history) state) :
    ReviewRun tier history step.before ∧ ∃ next, step.before.apply step.operation = .ok next := by
  induction later generalizing state with
  | nil =>
    cases h with
    | step before h => exact ⟨before, _, h⟩
  | cons first later ih =>
    cases h with
    | step before h => exact ih before

/-- The round counts the consumed reviews exactly in the runs that revise only a state with a review
of its round. -/
theorem ReviewRun.consumed_iff (h : ReviewRun tier history state) :
    (consumed history : ℤ) ≤ state.round ∧
      ((consumed history : ℤ) = state.round ↔
        ∀ step ∈ history, step.operation = .revise → step.before.isReviewed = true) := by
  induction h with
  | fresh => simp [consumed, ReviewState.fresh]
  | @step history state next operation before h ih =>
    obtain ⟨hle, hiff⟩ := ih
    by_cases hrevise : operation = .revise
    · subst hrevise
      obtain ⟨hdecision, rfl⟩ := ReviewState.revise_ok h
      have hrejects := before.rejects_iff hdecision
      simp only [consumed, List.forall_mem_cons, true_and, forall_const, ← hiff]
      by_cases hreviewed : state.isReviewed = true
      · rw [if_pos (hrejects.mpr hreviewed)]
        push_cast
        constructor
        · omega
        · simp only [hreviewed, true_and]
          omega
      · rw [if_neg fun hany ↦ hreviewed (hrejects.mp hany)]
        constructor
        · omega
        · constructor
          · intro heq
            omega
          · rintro ⟨hnow, -⟩
            exact absurd hnow hreviewed
    · have hround : next.round = state.round := by
        cases operation with
        | publishPlan reference => rw [(ReviewState.publishPlan_ok h).2]
        | publishReview reference decision => rw [(ReviewState.publishReview_ok h).2.2]
        | approveExhausted => rw [(ReviewState.make_ok h).1]
        | revise => exact absurd rfl hrevise
      simp only [consumed, List.forall_mem_cons, hrevise, false_and, if_false, false_imp_iff,
        true_and, hround]
      exact ⟨hle, hiff⟩

/-- In every run each revision consumes a rejecting review of its round, and the round counts them,
exactly when every state that is revised has a review of its round. The round is within the limit of
the tier, and an approved state is approved on the plan and the review of its round. -/
theorem review_rounds_iff (h : ReviewRun tier history state) :
    (((∀ later earlier before, history = later ++ ⟨before, .revise⟩ :: earlier →
        Consumes earlier before) ∧ state.round = consumed history) ↔
      ∀ step ∈ history, step.operation = .revise → step.before.isReviewed = true) ∧
    0 ≤ state.round ∧ state.round ≤ ReviewState.lastRound tier ∧ state.ApprovedOnCurrent := by
  refine ⟨⟨fun hclaim ↦ ?_, fun hall ↦ ⟨?_, ?_⟩⟩, h.bounds.2⟩
  · exact h.consumed_iff.2.mp hclaim.2.symm
  · rintro later earlier before rfl
    obtain ⟨hearlier, next, hnext⟩ := h.before
    exact (hearlier.consumes_iff hnext).mpr (hall _ (by simp) rfl)
  · exact (h.consumed_iff.2.mpr hall).symm

theorem artifactRound?_firstPlan :
    artifactRound? ".artifacts/aaaaaaaaaaaa/plan-0.json" "aaaaaaaaaaaa" .plan = some 0 := by
  decide +kernel

theorem artifactRound?_firstReview :
    artifactRound? ".artifacts/aaaaaaaaaaaa/review-0.json" "aaaaaaaaaaaa" .review = some 0 := by
  decide +kernel

/-- The plan or the review of the first round. -/
def firstReference : ArtifactKind → ArtifactReference
  | .plan => ⟨".artifacts/aaaaaaaaaaaa/plan-0.json", "aaaaaaaaaaaa", .plan, 0, artifactRound?_firstPlan⟩
  | .review =>
    ⟨".artifacts/aaaaaaaaaaaa/review-0.json", "aaaaaaaaaaaa", .review, 0, artifactRound?_firstReview⟩

/-- A high-risk workflow whose first plan was rejected. -/
def rejectedState : ReviewState :=
  { tier := some .highRisk, round := 0, plan := some (firstReference .plan)
    review := some (firstReference .review), decision := some .revise, approvalSource := none }

theorem reviewRun_rejectedState : ∃ history : List ReviewStep,
    ReviewRun (some .highRisk) history rejectedState ∧ consumed history = 0 ∧
      (sinceRevise history).any (·.operation.isRejection) = true := by
  have hplan : (ReviewState.fresh (some .highRisk)).apply (.publishPlan (firstReference .plan)) =
      .ok { ReviewState.fresh (some .highRisk) with plan := some (firstReference .plan) } := rfl
  have hreview : ({ ReviewState.fresh (some .highRisk) with
      plan := some (firstReference .plan) } : ReviewState).apply
        (.publishReview (firstReference .review) .revise) = .ok rejectedState := rfl
  exact ⟨_, .step (.step .fresh hplan) hreview, rfl, rfl⟩

/-- One rejecting review is revised for twice. -/
theorem not_round_eq_consumed :
    ∃ (history : List ReviewStep) (state : ReviewState),
      ReviewRun (some .highRisk) history state ∧ state.round = 2 ∧ consumed history = 1 := by
  obtain ⟨history, hrun, hconsumed, hrejects⟩ := reviewRun_rejectedState
  have hfirst : rejectedState.apply .revise = .ok { rejectedState with round := 1 } := rfl
  have hsecond : ({ rejectedState with round := 1 } : ReviewState).apply .revise =
      .ok { rejectedState with round := 2 } := rfl
  refine ⟨_, _, .step (.step hrun hfirst) hsecond, rfl, ?_⟩
  simp [consumed, sinceRevise_revise, hconsumed, hrejects]

/-- The run that rejects the first plan and revises it once. -/
theorem review_rounds_revisedOnce :
    ∃ (history : List ReviewStep) (state : ReviewState), state.round = 1 ∧
      ((((∀ later earlier before, history = later ++ ⟨before, .revise⟩ :: earlier →
          Consumes earlier before) ∧ state.round = consumed history) ↔
        ∀ step ∈ history, step.operation = .revise → step.before.isReviewed = true) ∧
      0 ≤ state.round ∧ state.round ≤ ReviewState.lastRound (some .highRisk) ∧
      state.ApprovedOnCurrent) := by
  obtain ⟨history, hrun, -⟩ := reviewRun_rejectedState
  have hrevise : rejectedState.apply .revise = .ok { rejectedState with round := 1 } := rfl
  exact ⟨_, _, rfl, review_rounds_iff (.step hrun hrevise)⟩

end VoiceHarness
