import VoiceHarness.Job.Labels

/-!
# Workflow, review, plan approval and participants

The values of `cursor/workflow.py` and their legal changes. As in `Job.Operations`, a value carries
what its `__post_init__` checks.
-/

set_option autoImplicit false
set_option relaxedAutoImplicit false

namespace VoiceHarness

structure WorkflowClassification where
  tier : WorkflowTier
  reason : String
  reasoned : isBlank reason = false
  deriving DecidableEq

namespace WorkflowClassification

def make (tier : WorkflowTier) (reason : String) : Checked WorkflowClassification :=
  if reasoned : isBlank reason = false then .ok { tier, reason, reasoned }
  else .error "classified workflow requires workflow_classification_reason"

def promote (classification : WorkflowClassification) (tier : WorkflowTier) (reason : String) :
    Checked WorkflowClassification := do
  let promoted ← make tier reason
  if promoted.tier.order < classification.tier.order then
    .error "Cursor workflow tier cannot be downgraded"
  else if promoted.tier.order = classification.tier.order then
    .error "Cursor workflow promotion must increase risk"
  else .ok promoted

end WorkflowClassification

/-- The phases a simple workflow never enters. -/
def WorkflowPhase.isReviewed : WorkflowPhase → Bool
  | .planning | .reviewing | .revising => true
  | .classifying | .implementing | .finished => false

structure WorkflowState where
  phase : WorkflowPhase
  classification : Option WorkflowClassification
  classified : phase ≠ .classifying → classification.isSome = true
  simple_unreviewed : classification.map (·.tier) = some .simple → phase.isReviewed = false
  deriving DecidableEq

namespace WorkflowState

def make (phase : WorkflowPhase) (classification : Option WorkflowClassification) :
    Checked WorkflowState :=
  if classified : phase ≠ .classifying → classification.isSome = true then
    if simple_unreviewed : classification.map (·.tier) = some .simple →
        phase.isReviewed = false then
      .ok { phase, classification, classified, simple_unreviewed }
    else .error "simple workflow cannot enter planning or review"
  else .error s!"{phase.value} workflow requires workflow_tier"

def classify (workflow : WorkflowState) (tier : WorkflowTier) (reason : String) :
    Checked WorkflowState := do
  if workflow.phase ≠ .classifying then .error "workflow is already classified"
  else
    let classification ← WorkflowClassification.make tier reason
    make (if tier = .simple then .implementing else .planning) (some classification)

def transition (workflow : WorkflowState) (phase : WorkflowPhase) : Checked WorkflowState :=
  if phase = workflow.phase then .ok workflow
  else if phase ∉ workflow.phase.legalEdges then
    .error s!"illegal Cursor workflow transition {workflow.phase.value} -> {phase.value}"
  else make phase workflow.classification

end WorkflowState

inductive ArtifactKind
  | plan | review
  deriving DecidableEq, Repr

def ArtifactKind.value : ArtifactKind → String
  | plan => "plan"
  | review => "review"

def isLowerHex (c : Char) : Bool := ('0' ≤ c && c ≤ '9') || ('a' ≤ c && c ≤ 'f')

/-- The round of a reference that `_ARTIFACT_REFERENCE` matches for this job and kind:
`.artifacts/<job>/<kind>-<round>[-<digest>].json`. -/
def artifactRound? (reference jobId : String) (kind : ArtifactKind) : Option ℕ :=
  let parse := fun round : ℕ ↦
    let stem := ".artifacts/" ++ jobId ++ "/" ++ kind.value ++ "-" ++ toString round
    let rest := reference.toList.drop stem.toList.length
    stem.toList.isPrefixOf reference.toList &&
      (rest = ".json".toList ||
        (rest.length = 70 && rest.take 1 = ['-'] && rest.drop 65 = ".json".toList &&
          ((rest.drop 1).take 64).all isLowerHex))
  [0, 1, 2].find? parse

structure ArtifactReference where
  value : String
  jobId : String
  kind : ArtifactKind
  round : ℕ
  parsed : artifactRound? value jobId kind = some round
  deriving DecidableEq

def ArtifactReference.parse (value jobId : String) (kind : ArtifactKind) :
    Checked ArtifactReference :=
  match parsed : artifactRound? value jobId kind with
  | some round => .ok { value, jobId, kind, round, parsed }
  | none => .error s!"{kind.value}_artifact has invalid workflow artifact reference"

structure ReviewState where
  tier : Option WorkflowTier
  round : ℤ
  plan : Option ArtifactReference
  review : Option ArtifactReference
  decision : Option ReviewDecision
  approvalSource : Option ReviewApprovalSource
  deriving DecidableEq

/-- `ReviewState.__post_init__`. -/
def ReviewState.guards (state : ReviewState) : List Guard :=
  [(state.round < 0 || 2 < state.round, "review_round must be between zero and two"),
    (state.tier = some .medium && 1 < state.round, "medium workflow allows only one review"),
    (state.approvalSource.isSome && state.review.isNone,
      "approved review requires a review artifact"),
    (state.approvalSource = some .reviewer && state.decision ≠ some .approve,
      "reviewer approval requires an approving review decision"),
    (state.approvalSource = some .user &&
        (state.tier ≠ some .highRisk || state.decision ≠ some .revise || state.round < 2),
      "user approval requires an exhausted high-risk rejected review"),
    (state.approvalSource.isSome &&
        ((state.plan.map fun plan ↦ (plan.round : ℤ)) ≠ some state.round ||
          (state.review.map fun review ↦ (review.round : ℤ)) ≠ some state.round ||
          state.plan.map (·.jobId) ≠ state.review.map (·.jobId)),
      "approved review artifacts must match the current review round")]

/-- `PlanApprovalProof`, or `LegacyPlanApprovalProof` when it is legacy. -/
structure ApprovalProof where
  legacy : Bool
  gateId : String
  agentSession : String
  stateChangeSequence : ℤ
  revision : ℤ
  complete : gateId ≠ "" ∧ agentSession ≠ "" ∧
    if legacy then stateChangeSequence = -1 ∧ revision = -1
    else 0 ≤ stateChangeSequence ∧ 0 ≤ revision
  deriving DecidableEq

def ApprovalProof.make (legacy : Bool) (gateId agentSession : String)
    (stateChangeSequence revision : ℤ) : Checked ApprovalProof :=
  if complete : gateId ≠ "" ∧ agentSession ≠ "" ∧
      if legacy then stateChangeSequence = -1 ∧ revision = -1
      else 0 ≤ stateChangeSequence ∧ 0 ≤ revision then
    .ok { legacy, gateId, agentSession, stateChangeSequence, revision, complete }
  else if legacy then .error "legacy plan approval proof is invalid"
  else .error ("active plan approval requires gate ID, agent session, and sequence; " ++
    "revision proof is also required")

structure PlanApproval where
  state : PlanApprovalState
  proof : Option ApprovalProof
  source : Option PlanApprovalSource
  counted : Bool
  planReference : Option String
  reviewReference : Option String
  reviewAccepted : Bool
  questionId : Option String
  questionTurnToken : Option String
  deriving DecidableEq

namespace PlanApproval

/-- A current plan and review that was accepted. -/
def accepted (approval : PlanApproval) : Bool :=
  truthy approval.planReference && truthy approval.reviewReference && approval.reviewAccepted

/-- `PlanApproval.__post_init__`. -/
def guards (approval : PlanApproval) : List Guard :=
  let legacyProof := approval.proof.any (·.legacy)
  [((approval.state ≠ .none : Bool) ≠ approval.proof.isSome,
      "active plan approval requires gate ID, agent session, and sequence; " ++
        "revision proof is also required"),
    (approval.state = .none && approval.source.isSome,
      "inactive plan approval cannot retain gate proof or source"),
    (legacyProof && approval.source ≠ some .legacy,
      "legacy plan approval proof requires legacy source"),
    (approval.source = some .legacy && !legacyProof,
      "legacy plan approval source requires legacy proof"),
    (approval.state = .boundary && approval.source.isSome,
      "plan approval boundary cannot retain a source"),
    (approval.state = .awaiting && (approval.source.isSome || !truthy approval.questionId ||
        !truthy approval.questionTurnToken || !approval.accepted),
      "awaiting plan approval requires current plan and question proof"),
    ((approval.state = .approved || approval.state = .observed) &&
        (approval.source.isNone || !approval.accepted),
      "approved plan requires a current accepted plan"),
    (approval.counted && (approval.source ≠ some .explicit ||
        !(approval.state = .approved || approval.state = .observed) || !approval.accepted),
      "counted plan approval requires an accepted explicit approval")]

/-- The legal successors of a plan approval state. -/
def legal : PlanApprovalState → List PlanApprovalState
  | .none => [.none, .boundary]
  | .boundary => [.boundary, .awaiting, .approved, .none, .rejected]
  | .awaiting => [.awaiting, .approved, .none, .rejected]
  | .approved => [.approved, .observed, .rejected]
  | .observed => [.observed, .none, .rejected]
  | .rejected => [.rejected]

/-- `PlanApproval.validate_transition`. -/
def validateTransition (approval after : PlanApproval) : Checked Unit :=
  runGuards
    [(after.state ∉ legal approval.state,
        s!"illegal plan approval transition {approval.state.value} -> {after.state.value}"),
      (approval.proof.isSome && after.proof.isSome && approval.proof ≠ after.proof,
        "plan approval proof cannot be rewritten"),
      (approval.counted && !after.counted, "counted plan approval cannot be uncounted"),
      (approval.state ≠ .none && approval.state ≠ .boundary &&
          (approval.planReference ≠ after.planReference ||
            approval.reviewReference ≠ after.reviewReference),
        "accepted plan approval artifacts cannot be replaced")]

end PlanApproval

/-- `ParticipantCreationState`. -/
inductive ParticipantCreationState
  | none | planned | submitting | created | ambiguous | failed | manualRequired
  deriving DecidableEq, Repr

namespace ParticipantCreationState

def label : ParticipantCreationState → OperationLabel
  | none => .none
  | planned => .planned
  | submitting => .submitting
  | created => .created
  | ambiguous => .ambiguous
  | failed => .failed
  | manualRequired => .manualRequired

/-- `ParticipantCreationState(label)`, where the label is one of the class. -/
def ofLabel? : OperationLabel → Option ParticipantCreationState
  | .none => some none
  | .planned => some planned
  | .submitting => some submitting
  | .created => some created
  | .ambiguous => some ambiguous
  | .failed => some failed
  | .manualRequired => some manualRequired
  | _ => Option.none

/-- The legal successors in `ParticipantCreation.validate_transition`. -/
def legal : ParticipantCreationState → List ParticipantCreationState
  | none => [none, planned]
  | planned => [planned, submitting, none, failed, manualRequired]
  | submitting => [submitting, created, ambiguous, manualRequired]
  | ambiguous => [ambiguous, manualRequired]
  | manualRequired => [manualRequired, created, none]
  | created => [created, none]
  | failed => [failed, none, planned]

end ParticipantCreationState

structure ParticipantCreation where
  state : ParticipantCreationState
  participant : Option WorkflowParticipant := none
  target : Option String := none
  label : Option String := none
  workspaceId : Option String := none
  paneId : Option String := none
  deriving DecidableEq

namespace ParticipantCreation

/-- `ParticipantCreation.__post_init__`. -/
def guards (creation : ParticipantCreation) : List Guard :=
  if creation.state = .none then
    [(creation.participant.isSome || creation.target.isSome || creation.label.isSome ||
        creation.workspaceId.isSome || creation.paneId.isSome,
      "inactive participant creation cannot retain identity")]
  else
    [(!(creation.participant.isSome && truthy creation.target && truthy creation.label &&
        truthy creation.workspaceId),
      "participant creation requires role, target, label, and workspace"),
      (creation.state = .created && !truthy creation.paneId,
        "created participant requires pane and workspace")]

/-- `created`: the acceptance of a submitted pane. -/
def created (creation : ParticipantCreation) (paneId workspaceId : String) :
    Checked ParticipantCreation := do
  if creation.state ∉ [ParticipantCreationState.submitting, .manualRequired] then
    .error "participant acceptance requires submitted creation"
  else if some workspaceId ≠ creation.workspaceId then
    .error "participant workspace identity is stale"
  else
    let accepted := { creation with state := .created, paneId := some paneId }
    runGuards accepted.guards
    .ok accepted

/-- `require_manual`. -/
def requireManual (creation : ParticipantCreation) : Checked ParticipantCreation :=
  if creation.state ∉ [ParticipantCreationState.planned, .submitting, .ambiguous] then
    .error "manual reconciliation requires uncertain participant creation"
  else .ok { creation with state := .manualRequired }

/-- `ParticipantCreation.validate_transition`. -/
def validateTransition (creation after : ParticipantCreation) : Checked Unit :=
  runGuards
    [(after.state ∉ creation.state.legal,
        s!"illegal participant creation transition {creation.state.label.value} -> " ++
          after.state.label.value),
      (creation.state ≠ .none && creation.state ≠ .failed && after.state ≠ .none &&
          (creation.participant ≠ after.participant || creation.target ≠ after.target ||
            creation.label ≠ after.label || creation.workspaceId ≠ after.workspaceId),
        "participant creation identity cannot be rewritten")]

end ParticipantCreation

structure ParticipantLifecycle where
  admission : ParticipantAdmissionState
  creation : ParticipantCreation
  deriving DecidableEq

namespace ParticipantLifecycle

/-- `admit`. -/
def admitHeld (lifecycle : ParticipantLifecycle) : Checked ParticipantLifecycle :=
  if lifecycle.admission ≠ .waiting then .error "participant admission requires a waiting job"
  else .ok { lifecycle with admission := .held }

def yieldCapacity (lifecycle : ParticipantLifecycle) : Checked ParticipantLifecycle :=
  if lifecycle.admission ≠ .held then
    .error "participant capacity yield requires a held admission"
  else if lifecycle.creation ≠ { state := .none } then
    .error "participant capacity cannot yield after creation begins"
  else .ok { lifecycle with admission := .waiting }

def release (lifecycle : ParticipantLifecycle) (cleanupConfirmed : Bool) :
    Checked ParticipantLifecycle :=
  if lifecycle.admission = .released then .ok lifecycle
  else if lifecycle.admission = .held ∧ cleanupConfirmed = false then
    .error "held participant capacity requires confirmed terminal cleanup"
  else .ok { lifecycle with admission := .released }

end ParticipantLifecycle

end VoiceHarness
