import VoiceHarness.Job.Outcome

/-!
# The plan approval

The operations of `PlanApproval` in `cursor/workflow.py` beside its constructor and its transition
check. The operations agree with the check. The check does not agree with the constructor: it keeps
a counted approval counted, and the constructor refuses the count in the states a rejection and a
reset lead to.
-/

set_option autoImplicit false
set_option relaxedAutoImplicit false

namespace VoiceHarness

namespace PlanApproval

/-! ### The operations -/

/-- `PlanApproval(...)`. -/
def make (approval : PlanApproval) : Checked PlanApproval := do
  runGuards approval.guards
  .ok approval

/-- `record_boundary`. -/
def recordBoundary (approval : PlanApproval) (proof : ApprovalProof) : Checked PlanApproval :=
  if approval.state ∉ [PlanApprovalState.none, .boundary] then
    .error "plan approval boundary is no longer available"
  else if approval.proof.isSome ∧ approval.proof ≠ some proof then
    .error "plan approval proof cannot be rewritten"
  else make
    { state := .boundary, proof := some proof, source := none, counted := false
      planReference := none, reviewReference := none, reviewAccepted := false
      questionId := none, questionTurnToken := none }

/-- `await_question`. -/
def awaitQuestion (approval : PlanApproval)
    (questionId questionTurnToken planReference reviewReference : String)
    (reviewAccepted : Bool) : Checked PlanApproval :=
  if approval.state ≠ .boundary then .error "plan approval question requires a current boundary"
  else make
    { state := .awaiting, proof := approval.proof, source := none, counted := false
      planReference := some planReference, reviewReference := some reviewReference
      reviewAccepted, questionId := some questionId
      questionTurnToken := some questionTurnToken }

/-- `approve`. -/
def approve (approval : PlanApproval) (source : PlanApprovalSource)
    (planReference reviewReference : String) (reviewAccepted : Bool)
    (questionId questionTurnToken : Option String) : Checked PlanApproval :=
  if approval.state = .awaiting ∧ (questionId ≠ approval.questionId ∨
      questionTurnToken ≠ approval.questionTurnToken) then
    .error "plan approval question identity is stale"
  else if approval.state ∉ [PlanApprovalState.boundary, .awaiting] then
    .error "plan approval boundary is no longer available"
  else if planReference = "" ∨
      (approval.planReference.isSome ∧ approval.planReference ≠ some planReference) ∨
      (approval.reviewReference.isSome ∧ approval.reviewReference ≠ some reviewReference) ∨
      reviewAccepted = false then
    .error "plan approval requires the current accepted plan"
  else make
    { state := .approved, proof := approval.proof, source := some source, counted := false
      planReference := some planReference, reviewReference := some reviewReference
      reviewAccepted := true, questionId := none, questionTurnToken := none }

/-- `observe`. -/
def observe (approval : PlanApproval) : Checked PlanApproval :=
  if approval.state ≠ .approved then .error "only an approved plan can be observed"
  else make { approval with state := .observed }

/-- `count`. -/
def count (approval : PlanApproval) : Checked PlanApproval :=
  if approval.source ≠ some .explicit then .error "only explicit plan approval can be counted"
  else make { approval with counted := true }

/-- A call of an operation. -/
inductive Operation
  | recordBoundary (proof : ApprovalProof)
  | awaitQuestion (questionId questionTurnToken planReference reviewReference : String)
      (reviewAccepted : Bool)
  | approve (source : PlanApprovalSource) (planReference reviewReference : String)
      (reviewAccepted : Bool) (questionId questionTurnToken : Option String)
  | observe
  | count

def apply (approval : PlanApproval) : Operation → Checked PlanApproval
  | .recordBoundary proof => approval.recordBoundary proof
  | .awaitQuestion questionId questionTurnToken planReference reviewReference reviewAccepted =>
    approval.awaitQuestion questionId questionTurnToken planReference reviewReference
      reviewAccepted
  | .approve source planReference reviewReference reviewAccepted questionId questionTurnToken =>
    approval.approve source planReference reviewReference reviewAccepted questionId
      questionTurnToken
  | .observe => approval.observe
  | .count => approval.count

/-! ### Valid approvals -/

/-- The state is one of an approval that was given. -/
def isGiven (approval : PlanApproval) : Bool :=
  approval.state = .approved || approval.state = .observed

/-- What the constructor asks. -/
structure Valid (approval : PlanApproval) : Prop where
  proof : approval.proof.isSome = decide (approval.state ≠ .none)
  inactive : approval.state = .none → approval.source = none
  legacy : approval.proof.any (·.legacy) = decide (approval.source = some .legacy)
  boundary : approval.state = .boundary → approval.source = none
  awaiting : approval.state = .awaiting → approval.source = none ∧
    truthy approval.questionId = true ∧ truthy approval.questionTurnToken = true ∧
      approval.accepted = true
  given : approval.isGiven = true → approval.source.isSome = true ∧ approval.accepted = true
  counted : approval.counted = true →
    approval.source = some .explicit ∧ approval.isGiven = true ∧ approval.accepted = true

variable {approval after : PlanApproval}

theorem valid_iff : runGuards approval.guards = .ok () ↔ approval.Valid := by
  rw [runGuards_eq_ok_iff]
  simp only [guards, List.forall_mem_cons, List.not_mem_nil, false_imp_iff, implies_true, and_true]
  constructor
  · rintro ⟨hproof, hinactive, hlegacy, hsource, hboundary, hawaiting, hgiven, hcounted⟩
    constructor
    · grind
    · grind [Option.isSome_iff_ne_none]
    · grind
    · grind [Option.isSome_iff_ne_none]
    · grind [Option.isSome_iff_ne_none]
    · grind [isGiven, Option.isSome_iff_ne_none]
    · grind [isGiven]
  · intro h
    have := h.proof
    have := h.inactive
    have := h.legacy
    have := h.boundary
    have := h.awaiting
    have := h.given
    have := h.counted
    refine ⟨?_, ?_, ?_, ?_, ?_, ?_, ?_, ?_⟩
    · grind
    · grind
    · grind
    · grind
    · grind
    · grind
    · grind [isGiven]
    · grind [isGiven]

theorem make_eq_ok_iff : approval.make = .ok after ↔ after = approval ∧ approval.Valid := by
  unfold make
  rw [checked_bind_eq_ok_iff]
  constructor
  · rintro ⟨⟨⟩, hrun, hsame⟩
    cases hsame
    exact ⟨rfl, valid_iff.mp hrun⟩
  · rintro ⟨rfl, hvalid⟩
    exact ⟨⟨⟩, valid_iff.mpr hvalid, rfl⟩

theorem validateTransition_eq_ok_iff :
    approval.validateTransition after = .ok () ↔
      after.state ∈ legal approval.state ∧
      (approval.proof.isSome = true → after.proof.isSome = true → after.proof = approval.proof) ∧
      (approval.counted = true → after.counted = true) ∧
      (approval.state ≠ .none → approval.state ≠ .boundary →
        after.planReference = approval.planReference ∧
          after.reviewReference = approval.reviewReference) := by
  unfold validateTransition
  rw [runGuards_eq_ok_iff]
  simp only [List.forall_mem_cons, List.not_mem_nil, false_imp_iff, implies_true, and_true,
    decide_eq_false_iff_not, not_not]
  constructor
  · rintro ⟨hlegal, hproof, hcounted, hreferences⟩
    exact ⟨hlegal, by grind, by grind, by grind⟩
  · rintro ⟨hlegal, hproof, hcounted, hreferences⟩
    exact ⟨hlegal, by grind, by grind, by grind⟩

/-! ### The operations are legal transitions -/

theorem recordBoundary_ok {proof : ApprovalProof}
    (h : approval.recordBoundary proof = .ok after) :
    approval.state ∈ [PlanApprovalState.none, .boundary] ∧ after.state = .boundary ∧
      (approval.proof.isSome = true → after.proof = approval.proof) ∧ after.Valid := by
  unfold recordBoundary at h
  split at h
  · cases h
  · next hstate =>
    split at h
    · cases h
    · next hproof =>
      obtain ⟨rfl, hvalid⟩ := make_eq_ok_iff.mp h
      refine ⟨not_not.mp hstate, rfl, fun hsome ↦ ?_, hvalid⟩
      by_contra hne
      exact hproof ⟨hsome, Ne.symm hne⟩

theorem awaitQuestion_ok {questionId questionTurnToken planReference reviewReference : String}
    {reviewAccepted : Bool}
    (h : approval.awaitQuestion questionId questionTurnToken planReference reviewReference
      reviewAccepted = .ok after) :
    approval.state = .boundary ∧ after.state = .awaiting ∧ after.proof = approval.proof ∧
      after.Valid := by
  unfold awaitQuestion at h
  split at h
  · cases h
  · next hstate =>
    obtain ⟨rfl, hvalid⟩ := make_eq_ok_iff.mp h
    exact ⟨not_not.mp hstate, rfl, rfl, hvalid⟩

/-- An approval is given at a boundary, or out of the question with its identity, and keeps the plan
and the review the question was about. -/
theorem approve_ok {source : PlanApprovalSource} {planReference reviewReference : String}
    {reviewAccepted : Bool} {questionId questionTurnToken : Option String}
    (h : approval.approve source planReference reviewReference reviewAccepted questionId
      questionTurnToken = .ok after) :
    (approval.state = .boundary ∨ approval.state = .awaiting) ∧
      (approval.state = .awaiting →
        questionId = approval.questionId ∧ questionTurnToken = approval.questionTurnToken) ∧
      after.state = .approved ∧ after.proof = approval.proof ∧
      (approval.planReference.isSome = true → after.planReference = approval.planReference) ∧
      (approval.reviewReference.isSome = true →
        after.reviewReference = approval.reviewReference) ∧ after.Valid := by
  unfold approve at h
  split at h
  · cases h
  next hquestion =>
  split at h
  · cases h
  next hstate =>
  split at h
  · cases h
  next hplan =>
  obtain ⟨rfl, hvalid⟩ := make_eq_ok_iff.mp h
  push Not at hquestion hplan
  obtain ⟨-, hplan, hreview, -⟩ := hplan
  refine ⟨by grind, fun hawaiting ↦ hquestion hawaiting, rfl, rfl, ?_, ?_, hvalid⟩
  · exact fun hsome ↦ (hplan hsome).symm
  · exact fun hsome ↦ (hreview hsome).symm

/-- An accepted approval names its plan and its review. -/
theorem references_of_accepted (h : approval.accepted = true) :
    approval.planReference.isSome = true ∧ approval.reviewReference.isSome = true := by
  simp only [accepted, Bool.and_eq_true, truthy] at h
  obtain ⟨⟨hplan, hreview⟩, -⟩ := h
  constructor
  · rw [Option.any_eq_true] at hplan
    obtain ⟨reference, hreference, -⟩ := hplan
    rw [hreference]
    rfl
  · rw [Option.any_eq_true] at hreview
    obtain ⟨reference, hreference, -⟩ := hreview
    rw [hreference]
    rfl

/-- Every operation on a valid approval yields a valid one the transition check accepts. -/
theorem apply_validates (hvalid : approval.Valid) {operation : Operation}
    (h : approval.apply operation = .ok after) :
    after.Valid ∧ approval.validateTransition after = .ok () := by
  have huncounted (hstate : approval.isGiven = false) : approval.counted = false := by
    by_contra hcounted
    have hgiven := (hvalid.counted (by simpa using hcounted)).2.1
    rw [hstate] at hgiven
    cases hgiven
  rw [validateTransition_eq_ok_iff]
  cases operation with
  | recordBoundary proof =>
    obtain ⟨hstate, hafter, hproof, hbuilt⟩ := recordBoundary_ok h
    have hcounted := huncounted (by grind [isGiven])
    refine ⟨hbuilt, ?_, fun hsome _ ↦ hproof hsome, ?_, ?_⟩
    · rw [hafter]
      grind [legal]
    · simp [hcounted]
    · grind
  | awaitQuestion questionId questionTurnToken planReference reviewReference reviewAccepted =>
    obtain ⟨hstate, hafter, hproof, hbuilt⟩ := awaitQuestion_ok h
    have hcounted := huncounted (by simp [isGiven, hstate])
    refine ⟨hbuilt, ?_, fun _ _ ↦ hproof, ?_, ?_⟩
    · simp [hafter, hstate, legal]
    · simp [hcounted]
    · simp [hstate]
  | approve source planReference reviewReference reviewAccepted questionId questionTurnToken =>
    obtain ⟨hstate, -, hafter, hproof, hplan, hreview, hbuilt⟩ := approve_ok h
    have hcounted := huncounted (by rcases hstate with h | h <;> simp [isGiven, h])
    refine ⟨hbuilt, ?_, fun _ _ ↦ hproof, ?_, fun _ hboundary ↦ ?_⟩
    · rcases hstate with h | h <;> simp [hafter, h, legal]
    · simp [hcounted]
    · have hawaiting := hstate.resolve_left hboundary
      obtain ⟨hplanned, hreviewed⟩ := references_of_accepted (hvalid.awaiting hawaiting).2.2.2
      exact ⟨hplan hplanned, hreview hreviewed⟩
  | observe =>
    simp only [apply, observe] at h
    split at h
    · cases h
    · next hstate =>
      obtain ⟨rfl, hbuilt⟩ := make_eq_ok_iff.mp h
      exact ⟨hbuilt, by simp [not_not.mp hstate, legal], fun _ _ ↦ rfl, id, fun _ _ ↦ ⟨rfl, rfl⟩⟩
  | count =>
    simp only [apply, count] at h
    split at h
    · cases h
    · obtain ⟨rfl, hbuilt⟩ := make_eq_ok_iff.mp h
      refine ⟨hbuilt, ?_, fun _ _ ↦ rfl, fun _ ↦ rfl, fun _ _ ↦ ⟨rfl, rfl⟩⟩
      cases hstate : approval.state <;> simp [legal]

/-! ### The successor states -/

/-- Every state the transition check lists after this one can be taken. -/
def IsRealisable (approval : PlanApproval) : Prop :=
  ∀ state ∈ legal approval.state, ∃ after : PlanApproval,
    after.Valid ∧ after.state = state ∧ approval.validateTransition after = .ok ()

/-- The approval in another state, with the fields that state needs. -/
def moved (approval : PlanApproval) : PlanApprovalState → PlanApproval
  | .none => { approval with state := .none, proof := none, source := none }
  | .boundary =>
    { approval with
      state := .boundary
      proof := some ⟨false, "gate", "session", 0, 0, by decide⟩ }
  | .awaiting =>
    { approval with
      state := .awaiting
      planReference := some "plan"
      reviewReference := some "review"
      reviewAccepted := true
      questionId := some "question"
      questionTurnToken := some "turn" }
  | .approved =>
    { approval with
      state := .approved
      source := some .explicit
      planReference := some (orElse approval.planReference "plan")
      reviewReference := some (orElse approval.reviewReference "review")
      reviewAccepted := true }
  | .observed => { approval with state := .observed }
  | .rejected => { approval with state := .rejected }

theorem some_orElse_of_truthy {text : Option String} {default : String}
    (h : truthy text = true) : some (orElse text default) = text := by
  cases text with
  | none => cases h
  | some text => rw [orElse, if_pos h]; rfl

theorem truthy_some_orElse {text : Option String} {default : String} (h : default ≠ "") :
    truthy (some (orElse text default)) = true := by
  by_cases htext : truthy text = true
  · rw [some_orElse_of_truthy htext]
    exact htext
  · rw [orElse, if_neg htext]
    simpa [truthy] using h

/-- The states a listed edge into another state leaves. -/
theorem predecessor {state next : PlanApprovalState} (h : next ∈ legal state)
    (hmoves : next ≠ state) :
    (next = .boundary → state = .none) ∧ (next = .awaiting → state = .boundary) ∧
      (next = .approved → state = .boundary ∨ state = .awaiting) ∧
      (next = .observed → state = .approved) ∧ (next = .rejected → state ≠ .none) := by
  cases state <;> cases next <;> simp_all [legal]

/-- An approval that is not counted can be moved to every listed state. -/
theorem moved_validates (hvalid : approval.Valid) (hcounted : approval.counted = false)
    {state : PlanApprovalState} (hlegal : state ∈ legal approval.state)
    (hmoves : state ≠ approval.state) :
    (approval.moved state).Valid ∧ (approval.moved state).state = state ∧
      approval.validateTransition (approval.moved state) = .ok () := by
  have hproof := hvalid.proof
  have hinactive := hvalid.inactive
  have hlegacy := hvalid.legacy
  have hboundary := hvalid.boundary
  have hawaiting := hvalid.awaiting
  have hgiven := hvalid.given
  obtain ⟨hunopened, hopened, hasked, happroved, hstarted⟩ := predecessor hlegal hmoves
  rw [validateTransition_eq_ok_iff]
  cases state with
  | none =>
    refine ⟨?_, rfl, hlegal, ?_, ?_, fun _ _ ↦ ⟨rfl, rfl⟩⟩
    · constructor <;> simp [moved, isGiven, hcounted]
    · simp [moved]
    · simp [hcounted]
  | boundary =>
    have hnone := hunopened rfl
    refine ⟨?_, rfl, hlegal, ?_, ?_, ?_⟩
    · constructor <;> simp [moved, isGiven, hcounted, hinactive hnone]
    · simp [hproof, hnone]
    · simp [hcounted]
    · simp [hnone]
  | awaiting =>
    have hbefore := hopened rfl
    refine ⟨?_, rfl, hlegal, fun _ _ ↦ rfl, ?_, ?_⟩
    · constructor <;>
        simp [moved, isGiven, hcounted, hproof, hlegacy, hbefore, hboundary hbefore, truthy, accepted]
    · simp [hcounted]
    · simp [hbefore]
  | approved =>
    have hbefore := hasked rfl
    have hsource : approval.source = none := by grind
    have hactive : approval.state ≠ .none := by grind
    refine ⟨?_, rfl, hlegal, fun _ _ ↦ rfl, ?_, ?_⟩
    · constructor <;>
        simp [moved, isGiven, hcounted, hproof, hlegacy, hsource, hactive, accepted,
          truthy_some_orElse]
    · simp [hcounted]
    · intro _ hnot
      have haccepted := (hawaiting (hbefore.resolve_left hnot)).2.2.2
      simp only [accepted, Bool.and_eq_true] at haccepted
      exact ⟨some_orElse_of_truthy haccepted.1.1, some_orElse_of_truthy haccepted.1.2⟩
  | observed =>
    have hbefore := happroved rfl
    refine ⟨?_, rfl, hlegal, fun _ _ ↦ rfl, fun h ↦ h, fun _ _ ↦ ⟨rfl, rfl⟩⟩
    obtain ⟨hsome, hkept⟩ := hgiven (by simp [isGiven, hbefore])
    constructor <;> simp [moved, isGiven, hcounted, hproof, hlegacy, hbefore, hsome]
    exact hkept
  | rejected =>
    have hactive := hstarted rfl
    refine ⟨?_, rfl, hlegal, fun _ _ ↦ rfl, fun h ↦ h, fun _ _ ↦ ⟨rfl, rfl⟩⟩
    constructor <;> simp [moved, isGiven, hcounted, hproof, hlegacy, hactive]

/-- The listed edges can all be taken exactly from the approvals that are not counted. -/
theorem isRealisable_iff (hvalid : approval.Valid) :
    approval.IsRealisable ↔ approval.counted = false := by
  constructor
  · intro h
    by_contra hcounted
    have hcounted : approval.counted = true := by simpa using hcounted
    have hgiven := (hvalid.counted hcounted).2.1
    obtain ⟨after, hafter, hstate, htransition⟩ := h .rejected (by grind [legal, isGiven])
    have hkept := (validateTransition_eq_ok_iff.mp htransition).2.2.1 hcounted
    have := (hafter.counted hkept).2.1
    simp [isGiven, hstate] at this
  · intro hcounted state hlegal
    by_cases hsame : state = approval.state
    · refine ⟨approval, hvalid, hsame.symm, ?_⟩
      rw [validateTransition_eq_ok_iff]
      exact ⟨hsame ▸ hlegal, fun _ _ ↦ rfl, fun h ↦ h, fun _ _ ↦ ⟨rfl, rfl⟩⟩
    · exact ⟨approval.moved state, moved_validates hvalid hcounted hlegal hsame⟩

/-! ### Runs -/

/-- The approval is for a question that was asked or for a plan that was approved. -/
def isBound (approval : PlanApproval) : Bool :=
  approval.state ≠ .none && approval.state ≠ .boundary

/-- The proof of the gate, the plan and the review are those of another approval. -/
structure SameEvidence (approval other : PlanApproval) : Prop where
  proof : other.proof = approval.proof
  plan : other.planReference = approval.planReference
  review : other.reviewReference = approval.reviewReference

theorem SameEvidence.trans {third : PlanApproval} (h : approval.SameEvidence after)
    (hthird : after.SameEvidence third) : approval.SameEvidence third :=
  ⟨hthird.proof.trans h.proof, hthird.plan.trans h.plan, hthird.review.trans h.review⟩

/-- A step that does not reset keeps the evidence, and the approval stays bound. -/
theorem sameEvidence_step (hvalid : approval.Valid) (hafter : after.Valid)
    (hbound : approval.isBound = true) (h : approval.validateTransition after = .ok ())
    (hkept : after.state ≠ .none) : approval.SameEvidence after ∧ after.isBound = true := by
  obtain ⟨hlegal, hproof, -, hreferences⟩ := validateTransition_eq_ok_iff.mp h
  simp only [isBound, Bool.and_eq_true, decide_eq_true_eq] at hbound
  obtain ⟨hactive, hclosed⟩ := hbound
  obtain ⟨hplan, hreview⟩ := hreferences hactive hclosed
  constructor
  · refine ⟨hproof ?_ ?_, hplan, hreview⟩
    · simp [hvalid.proof, hactive]
    · simp [hafter.proof, hkept]
  · by_cases hsame : after.state = approval.state
    · simp [isBound, hsame, hactive, hclosed]
    · have hopened := (predecessor hlegal hsame).1
      have hboundary : after.state ≠ .boundary := fun hboundary ↦ hactive (hopened hboundary)
      simp [isBound, hkept, hboundary]

end PlanApproval

/-- A job that loads its plan approval loads a valid one. -/
theorem Values.planApproval_valid {values : Values} {approval : PlanApproval}
    (h : values.planApproval = .ok approval) :
    approval.Valid ∧ approval.state = values.planApprovalState := by
  unfold planApproval at h
  simp only [checked_bind_eq_ok_iff] at h
  obtain ⟨proof, -, ⟨⟩, hguards, h⟩ := h
  generalize (if values.planApprovalState = .awaiting then values.voiceQuestionProof else none) =
    question at hguards h
  split at h
  · cases h
  · cases h
    exact ⟨PlanApproval.valid_iff.mp hguards, rfl⟩

/-- The approvals of an accepted transition, and the check between them. -/
theorem validateTransition_planApproval {before after : AgentJob}
    (h : validateTransition before after = .ok ()) :
    ∃ previous current, before.values.planApproval = .ok previous ∧
      after.values.planApproval = .ok current ∧ previous.validateTransition current = .ok () := by
  unfold validateTransition at h
  simp only [checked_bind_eq_ok_iff] at h
  obtain ⟨-, -, -, -, -, -, -, -, -, -, -, -, h⟩ := h
  obtain ⟨-, -, -, -, -, -, -, -, previous, hprevious, current, hcurrent, ⟨⟩, hvalid, -⟩ := h
  exact ⟨previous, current, hprevious, hcurrent, hvalid⟩

/-- The evidence of an approval is loaded from the job. -/
def AgentJob.KeepsEvidence (job : AgentJob) (approval : PlanApproval) : Prop :=
  ∃ current, job.values.planApproval = .ok current ∧ approval.SameEvidence current

/-- The evidence of a bound approval stays until the next reset. -/
theorem keepsEvidence_of_isRun {job : AgentJob} {run : List AgentJob}
    {approval : PlanApproval} (hrun : IsRun (job :: run))
    (hload : job.values.planApproval = .ok approval) (hbound : approval.isBound = true)
    (hkept : ∀ later ∈ run, later.values.planApprovalState ≠ .none) :
    ∀ later ∈ run, later.KeepsEvidence approval := by
  induction run generalizing job approval with
  | nil => simp
  | cons next run ih =>
    obtain ⟨hstep, hrest⟩ := List.isChain_cons_cons.mp hrun
    obtain ⟨previous, current, hprevious, hcurrent, hvalid⟩ := validateTransition_planApproval hstep
    rw [hload] at hprevious
    cases hprevious
    have hafter := Values.planApproval_valid hcurrent
    have hstate : current.state ≠ .none := by
      rw [hafter.2]
      exact hkept next List.mem_cons_self
    obtain ⟨hsame, hstill⟩ := PlanApproval.sameEvidence_step (Values.planApproval_valid hload).1
      hafter.1 hbound hvalid hstate
    intro later hlater
    rcases List.mem_cons.mp hlater with rfl | hlater
    · exact ⟨current, hcurrent, hsame⟩
    · have hothers : ∀ later ∈ run, later.values.planApprovalState ≠ .none :=
        fun other hother ↦ hkept other (List.mem_cons_of_mem _ hother)
      obtain ⟨reached, hreached, hequal⟩ := ih hrest hcurrent hstill hothers later hlater
      exact ⟨reached, hreached, hsame.trans hequal⟩

namespace PlanApproval

/-- A plan approval its constructor built. -/
abbrev Built := { approval : PlanApproval // approval.make = .ok approval }

/-- Every operation on an approval yields one the transition check accepts, every edge the check lists
can be taken exactly when the approval is not counted, the evidence of a question or an approval stays
in every run until a reset, and an approval out of a question takes its identity. -/
theorem edges_iff_and_evidence (approval : Built) :
    (∀ operation after, approval.1.apply operation = .ok after →
      after.make = .ok after ∧ approval.1.validateTransition after = .ok ()) ∧
    ((∀ state ∈ legal approval.1.state, ∃ after : Built,
      after.1.state = state ∧ approval.1.validateTransition after = .ok ()) ↔
        approval.1.counted = false) ∧
    (approval.1.isBound = true → ∀ job run, IsRun (job :: run) →
      job.values.planApproval = .ok approval.1 →
      (∀ later ∈ run, later.values.planApprovalState ≠ .none) →
      ∀ later ∈ run, later.KeepsEvidence approval) ∧
    ∀ source plan review accepted questionId questionTurnToken after,
      approval.1.state = .awaiting →
      approval.1.approve source plan review accepted questionId questionTurnToken = .ok after →
      questionId = approval.1.questionId ∧ questionTurnToken = approval.1.questionTurnToken := by
  have hvalid : approval.1.Valid := (make_eq_ok_iff.mp approval.2).2
  refine ⟨fun operation after h ↦ ?_, ?_, fun hbound job run hrun hload hkept ↦ ?_,
    fun source plan review accepted questionId questionTurnToken after hawaiting h ↦ ?_⟩
  · obtain ⟨hbuilt, htransition⟩ := apply_validates hvalid h
    exact ⟨make_eq_ok_iff.mpr ⟨rfl, hbuilt⟩, htransition⟩
  · rw [← isRealisable_iff hvalid]
    constructor
    · intro h state hlegal
      obtain ⟨after, hstate, htransition⟩ := h state hlegal
      exact ⟨after.1, (make_eq_ok_iff.mp after.2).2, hstate, htransition⟩
    · intro h state hlegal
      obtain ⟨after, hbuilt, hstate, htransition⟩ := h state hlegal
      exact ⟨⟨after, make_eq_ok_iff.mpr ⟨rfl, hbuilt⟩⟩, hstate, htransition⟩
  · exact keepsEvidence_of_isRun hrun hload hbound hkept
  · exact (approve_ok h).2.1 hawaiting

/-- An approved plan that was counted is listed as one that can be rejected, and cannot be. -/
theorem not_realisable_counted :
    ∃ approval : Built, approval.1.counted = true ∧
      PlanApprovalState.rejected ∈ legal approval.1.state ∧
      ∀ after : Built, after.1.state = .rejected →
        approval.1.validateTransition after ≠ .ok () := by
  let approval : PlanApproval :=
    { state := .approved, proof := some ⟨false, "gate", "session", 7, 3, by decide⟩
      source := some .explicit, counted := true
      planReference := some ".artifacts/aaaaaaaaaaaa/plan-0.json"
      reviewReference := some ".artifacts/aaaaaaaaaaaa/review-0.json", reviewAccepted := true
      questionId := none, questionTurnToken := none }
  refine ⟨⟨approval, rfl⟩, rfl, by decide, fun after hstate h ↦ ?_⟩
  have hcounted := (validateTransition_eq_ok_iff.mp h).2.2.1 rfl
  have hgiven := ((make_eq_ok_iff.mp after.2).2.counted hcounted).2.1
  simp [isGiven, hstate] at hgiven

end PlanApproval

end VoiceHarness
