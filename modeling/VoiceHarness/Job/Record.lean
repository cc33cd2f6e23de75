import VoiceHarness.Job.Values
import VoiceHarness.Job.Operations
import VoiceHarness.Job.Lifecycle
import VoiceHarness.Job.Workflow
import VoiceHarness.Job.Prompt

/-!
# Reading a flat record

The properties of `AgentJob`: the scalar fields with their defaults, and the typed adapters that
parse a group of fields into one of the values of `Job.Operations`, `Job.Lifecycle`, `Job.Workflow`
and `Job.Prompt`. The records are native ones of the current schema; the imports of older schemas
have their own adapters and are not modelled here.
-/

set_option autoImplicit false
set_option relaxedAutoImplicit false

namespace VoiceHarness

namespace Values

variable (values : Values)

/-- `_boolean_field`. -/
def bool (field : BoolField) : Bool := (values.get (.bool field)).getD false

/-- `_optional_int`. -/
def int (field : IntField) : Option ℤ := values.get (.int field)

/-- An integer field read with `or 0`. -/
def count (field : IntField) : ℤ := (values.int field).getD 0

/-- `_optional_float`. -/
def float (field : FloatField) : Option Time := values.get (.float field)

/-- `_optional_string`. -/
def text (field : TextField) : Option String := values.get (.text field)

/-- A text field read with `or ""`. -/
def textOrEmpty (field : TextField) : String := (values.text field).getD ""

/-- `bool(values.get(field))` of a text field. -/
def hasText (field : TextField) : Bool := truthy (values.text field)

def operation (field : OperationField) : Option OperationLabel := values.get (.operation field)

/-- An operation field read with `or "none"`. -/
def operationOrNone (field : OperationField) : OperationLabel :=
  (values.operation field).getD .none

def jobId : String := values.textOrEmpty .id

def status : JobStatus := (values.get (.jobStatus .status)).getD .queued

def terminalIntentStatus : Option JobStatus := values.get (.jobStatus .terminalIntentStatus)

def revision : ℤ := values.count .revision

def createdAt : Time := (values.float .createdAt).getD 0

def harnessKind : HarnessKind := (values.get .harnessKind).getD .cursor

def workflowTier : Option WorkflowTier := values.get .workflowTier

def workflowPhase : WorkflowPhase := (values.get (.phase .workflowPhase)).getD .classifying

def activeParticipant : Option WorkflowParticipant := values.get (.participant .activeParticipant)

def participantCreationParticipant : Option WorkflowParticipant :=
  values.get (.participant .participantCreationParticipant)

def participantAdmissionState : ParticipantAdmissionState :=
  (values.get .participantAdmissionState).getD .waiting

def sessionControl : SessionControlMode := (values.get .sessionControl).getD .automated

def promptOperationState : OperationLabel := values.operationOrNone .promptOperationState

def participantCreationState : OperationLabel := values.operationOrNone .participantCreationState

def reviewDecision : Option ReviewDecision := values.get .reviewDecision

def reviewApprovalSource : Option ReviewApprovalSource := values.get .reviewApprovalSource

def reviewApproved : Bool := values.reviewApprovalSource.isSome

def planApprovalState : PlanApprovalState := (values.get .planApprovalState).getD .none

def planApprovalSource : Option PlanApprovalSource := values.get .planApprovalSource

def participantSessionOwners : List SessionOwner := (values.get .participantSessionOwners).getD []

def targetReleaseUnverifiedTargets : List TargetName :=
  (values.get .targetReleaseUnverifiedTargets).getD []

def announcementAck : AnnouncementAck :=
  match values.get .announcementAck with
  | some ack => ack
  | none =>
    if values.bool .delivered then
      if values.bool .announcementDismissed then .dismissed else .spoken
    else .pending

/-- The field of `participant_target`. -/
def participantTargetField : WorkflowParticipant → TextField
  | .planner => .plannerTarget
  | .reviewer => .reviewerTarget
  | .implementer => .implementerTarget

def participantTarget (participant : WorkflowParticipant) : Option String :=
  values.text (participantTargetField participant)

/-- `herdr_target` and the three participant targets. -/
def participantTargetFields : List TextField :=
  [.herdrTarget, .plannerTarget, .reviewerTarget, .implementerTarget]

def hasParticipantTarget : Bool := participantTargetFields.any values.hasText

/-! ### Typed external operations -/

/-- `checkout_operation`. -/
def checkoutOperation : Checked (Option CheckoutOperation) :=
  match values.operation .worktreeProvisionState with
  | none => .ok none
  | some label =>
    match CheckoutState.ofLabel? label with
    | none => .error s!"'{label.value}' is not a valid CheckoutState"
    | some state => do
      let spec ← CheckoutSpec.make (values.textOrEmpty .repository)
        (values.textOrEmpty .worktreeBranch) (values.textOrEmpty .worktreePath)
      some <$> CheckoutOperation.make state spec (values.text .worktreeWorkspaceId)
        (values.text .worktreeRootPaneId)

/-- The stored provider session: all three values or none. -/
def sessionIdentity (target : String) : Checked (Option SessionIdentity) :=
  match values.text .agentProvider, values.text .agentProviderSessionId,
    values.int .agentStateSequence with
  | none, none, none => .ok none
  | some provider, some sessionId, some stateSequence =>
    some <$> SessionIdentity.make provider sessionId target stateSequence
  | _, _, _ => .error "agent provider session identity is incomplete"

/-- `agent_session_operation`; a value that was not bound to the operation is read from the job. -/
def agentSessionOperation : Checked (Option AgentSessionOperation) :=
  match values.operation .agentDispatchState with
  | none => .ok none
  | some label =>
    match AgentSessionState.ofLabel? label with
    | none => .error s!"'{label.value}' is not a valid AgentSessionState"
    | some state => do
      let target := ((values.text .agentOperationTarget).or (values.text .herdrTarget)).getD ""
      let session ← values.sessionIdentity target
      let spec ← AgentSessionSpec.make target
        (((values.text .agentOperationCheckout).or
          ((values.text .worktreePath).or (values.text .repository))).getD "")
        (((values.text .agentOperationWorkspaceId).or (values.text .herdrWorkspaceId)).getD "")
        (((values.text .agentOperationPaneId).or (values.text .herdrPaneId)).getD "")
      some <$> AgentSessionOperation.make state spec session

/-- The typed state of a fork label. -/
def forkOperationState? : OperationLabel → Option OperationState
  | .planned => some .planned
  | .submitted => some .active
  | .exists | .retained => some .settled
  | .ambiguous | .failedObserving => some .unknown
  | .failed | .confirmedAbsent => some .failed
  | .manualRequired => some .manual
  | _ => none

/-- `fork_operation`. -/
def forkOperation : Checked (Option ForkOperation) :=
  match values.operation .forkOperationState with
  | none => .ok none
  | some label =>
    match forkOperationState? label with
    | none => .error s!"'{label.value}'"
    | some state => do
      let target := values.textOrEmpty .forkOperationTarget
      let spec ← ForkSpec.make (values.textOrEmpty .forkOperationSource)
        (values.textOrEmpty .forkOperationSourceUrl)
        (values.textOrEmpty .forkOperationSourceDefaultBranch)
        (values.bool .forkOperationSourcePrivate)
        (orElse (values.text .forkOperationLogin)
          (String.ofList (target.toList.takeWhile (· ≠ '/'))))
        target (values.text .forkOperationSourceParent)
      .ok (some { state, spec })

/-- The typed state of a participant creation label. -/
def participantPaneState? : OperationLabel → Option OperationState
  | .planned => some .planned
  | .submitting => some .active
  | .created => some .settled
  | .ambiguous => some .unknown
  | .failed => some .failed
  | .manualRequired => some .manual
  | _ => none

/-- `participant_pane_operation`. -/
def participantPaneOperation : Checked (Option ParticipantPaneOperation) :=
  if values.participantCreationState = .none then .ok none
  else
    match participantPaneState? values.participantCreationState with
    | none => .error s!"'{values.participantCreationState.value}'"
    | some state => do
      let spec ← ParticipantPaneSpec.make
        ((values.participantCreationParticipant.map WorkflowParticipant.value).getD "")
        (values.textOrEmpty .participantCreationTarget)
        (values.textOrEmpty .participantCreationLabel)
        (orElse (values.text .participantCreationCheckout)
          (orElse (values.text .worktreePath) (values.textOrEmpty .repository)))
        (values.textOrEmpty .participantCreationWorkspaceId)
      some <$> ParticipantPaneOperation.make state spec (values.text .participantCreationPaneId)

/-- `worker_ownership`. -/
def workerOwnership : Checked (Option WorkerOwnership) :=
  loadWorkerOwnership (values.text .workerToken) (values.int .workerPid)
    (values.text .workerBootId) (values.text .workerProcessStart)
    (values.text .workerClaimOperation) (values.float .workerClaimedAt)

/-- `prompt_operation`. -/
def promptOperation : Checked PromptOperation :=
  let turn := values.count .promptOperationTurn
  loadPromptOperation values.promptOperationState values.jobId
    (values.get (.phase .promptOperationPhase)) turn
    ((values.text .turnToken).or (if 0 < turn then some s!"{values.jobId}-{turn}" else none))
    (values.text .promptOperationTarget) (values.text .promptOperationAgentSession)
    (values.int .promptBaselineSequence)

/-! ### Lifecycle and workflow adapters -/

/-- `terminal_state`. -/
def terminalState : Checked TerminalState :=
  loadTerminalState values.status (values.text .result) (values.text .error)
    (values.float .completedAt) values.terminalIntentStatus (values.text .terminalIntentResult)
    (values.text .terminalIntentError) (values.float .terminalIntentCompletedAt)

/-- `cleanup_state`. -/
def cleanupState : Checked CleanupState :=
  loadCleanupState (values.bool .targetReleasePending) (values.text .targetReleaseToken)
    (values.int .targetReleaseOwnerPid) (values.text .targetReleaseOwnerBootId)
    (values.text .targetReleaseOwnerStart) (values.bool .cancellationReconciliationPending)

/-- `delivery_state`. -/
def deliveryState : Checked DeliveryState :=
  loadDeliveryState (values.bool .delivered) (values.count .deliveryGeneration)
    (values.text .deliveryClaimToken) (values.float .deliveryClaimedAt)
    ((values.float .deliveryRetryAt).getD 0) (values.count .deliveryAttempts)
    (values.float .deliveredAt) values.announcementAck (values.bool .announcementRepeated)

/-- `workflow_state`. -/
def workflowState : Checked WorkflowState := do
  let classification ← match values.workflowTier with
    | none => .ok none
    | some tier =>
      some <$> WorkflowClassification.make tier (values.textOrEmpty .workflowClassificationReason)
  WorkflowState.make values.workflowPhase classification

def artifact (field : TextField) (kind : ArtifactKind) : Checked (Option ArtifactReference) :=
  match values.text field with
  | none => .ok none
  | some reference => some <$> ArtifactReference.parse reference values.jobId kind

/-- `review_state`. -/
def reviewState : Checked ReviewState := do
  let plan ← values.artifact .planArtifact .plan
  let review ← values.artifact .reviewArtifact .review
  let state : ReviewState :=
    { tier := values.workflowTier
      round := values.count .reviewRound
      plan
      review
      decision := values.reviewDecision
      approvalSource := values.reviewApprovalSource }
  runGuards state.guards
  .ok state

/-- The identity and the turn token of the stored voice question. -/
def voiceQuestionProof : Option (String × String) :=
  match values.get (.structured .voiceQuestion) with
  | some (.obj question) =>
    match Dict.get? question "id", Dict.get? question "origin" with
    | some (.str questionId), some (.obj origin) =>
      match Dict.get? origin "turn_token" with
      | some (.str turnToken) => some (questionId, turnToken)
      | _ => none
    | _, _ => none
  | _ => none

def approvalProof : Checked (Option ApprovalProof) :=
  if values.planApprovalState = .none then .ok none
  else
    match values.text .planApprovalId, values.text .planApprovalAgentSession,
      values.int .planApprovalStateChangeSequence, values.int .planApprovalRevision with
    | some gateId, some agentSession, some sequence, some revision =>
      some <$> ApprovalProof.make (values.planApprovalSource = some .legacy) gateId agentSession
        sequence revision
    | _, _, _, _ => .error ("active plan approval requires gate ID, agent session, and " ++
        "sequence; revision proof is also required")

/-- `plan_approval`. -/
def planApproval : Checked PlanApproval := do
  let proof ← values.approvalProof
  let question :=
    if values.planApprovalState = .awaiting then values.voiceQuestionProof else none
  let approval : PlanApproval :=
    { state := values.planApprovalState
      proof
      source := values.planApprovalSource
      counted := values.bool .planApprovalCounted
      planReference := values.text .planApprovalPlanArtifact
      reviewReference := values.text .planApprovalReviewArtifact
      reviewAccepted := values.reviewApproved
      questionId := question.map Prod.fst
      questionTurnToken := question.map Prod.snd }
  runGuards approval.guards
  if approval.state ∈ [PlanApprovalState.awaiting, .approved, .observed] ∧
      (approval.planReference ≠ values.text .planArtifact ∨
        approval.reviewReference ≠ values.text .reviewArtifact) then
    .error "accepted plan approval artifacts cannot be replaced"
  else .ok approval

/-- `participant_lifecycle`. -/
def participantLifecycle : Checked ParticipantLifecycle :=
  match ParticipantCreationState.ofLabel? values.participantCreationState with
  | none =>
    .error s!"'{values.participantCreationState.value}' is not a valid ParticipantCreationState"
  | some state => do
    let creation : ParticipantCreation :=
      { state
        participant := values.participantCreationParticipant
        target := values.text .participantCreationTarget
        label := values.text .participantCreationLabel
        workspaceId := values.text .participantCreationWorkspaceId
        paneId := values.text .participantCreationPaneId }
    runGuards creation.guards
    .ok { admission := values.participantAdmissionState, creation }

/-! ### Uncertain operations -/

/-- The states of an operation field that `has_uncertain_operation` counts. -/
def uncertainLabels : OperationField → List OperationLabel
  | .agentDispatchState | .forkOperationState | .worktreeProvisionState =>
    [.dispatching, .submitted, .ambiguous, .failedObserving]
  | .githubIssueCreateOperationState | .githubPrCreateOperationState
  | .githubPrMergeOperationState | .cloneOperationState | .githubRepoCreateOperationState
  | .githubIssueUpdateOperationState | .githubIssueCloseOperationState => [.submitted, .ambiguous]
  | .linearTicketCreateOperationState | .linearTicketUpdateOperationState
  | .linearTicketCloseOperationState | .ticketSplitOperationState
  | .ticketSplitParentOperationState | .ticketMergeOperationState
  | .ticketMergeSurvivorOperationState => [.submitting, .submitted, .ambiguous]
  | .promptOperationState => [.submitting, .ambiguous]
  | .participantCreationState => [.submitting, .ambiguous, .manualRequired]

/-- Every operation field. -/
def operationFields : List OperationField :=
  [.agentDispatchState, .forkOperationState, .worktreeProvisionState,
    .githubIssueCreateOperationState, .githubPrCreateOperationState,
    .githubPrMergeOperationState, .cloneOperationState, .githubRepoCreateOperationState,
    .githubIssueUpdateOperationState, .githubIssueCloseOperationState,
    .linearTicketCreateOperationState, .linearTicketUpdateOperationState,
    .linearTicketCloseOperationState, .ticketSplitOperationState,
    .ticketSplitParentOperationState, .ticketMergeOperationState,
    .ticketMergeSurvivorOperationState, .promptOperationState, .participantCreationState]

def isUncertain (field : OperationField) : Bool :=
  (values.operation field).any (· ∈ uncertainLabels field)

/-- `has_uncertain_operation`. -/
def hasUncertainOperation : Bool := operationFields.any values.isUncertain

/-- The state of the checkout, where `checkout_operation` can be read. -/
def checkoutState? : Option CheckoutState :=
  match values.checkoutOperation with
  | .ok (some operation) => some operation.state
  | _ => none

end Values

theorem mem_operationFields (field : OperationField) : field ∈ Values.operationFields := by
  cases field <;> decide

/-- An uncertain field makes the record uncertain. -/
theorem Values.hasUncertainOperation_of_isUncertain {values : Values} {field : OperationField}
    (h : values.isUncertain field = true) : values.hasUncertainOperation = true :=
  List.any_eq_true.mpr ⟨field, mem_operationFields field, h⟩

end VoiceHarness
