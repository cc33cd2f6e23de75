import VoiceHarness.Job.Record

/-!
# The invariants of a job record

`AgentJob.validate_invariants` as it runs on a native record of the current schema, where the worker
and the operation identities are always required. The checks are grouped as the source orders them:
the typed adapters are parsed first, then the external operations, the issue identity, the worker
and delivery claims, the workflow and its approvals, and last the operation fences, the manual
slot and the release ownership. A record is valid when no check raises
(`validateInvariants_eq_ok_iff`).
-/

set_option autoImplicit false
set_option relaxedAutoImplicit false

namespace VoiceHarness

/-- Runs checks in order; the first one that raises ends the run. -/
def runChecks : List (Checked Unit) → Checked Unit
  | [] => .ok ()
  | check :: checks => check >>= fun _ ↦ runChecks checks

/-- A value that is only read to see that it parses. -/
def parses {α : Type} (value : Checked α) : Checked Unit := value.map fun _ ↦ ()

@[simp] theorem runChecks_eq_ok_iff {checks : List (Checked Unit)} :
    runChecks checks = .ok () ↔ ∀ check ∈ checks, check = .ok () := by
  induction checks with
  | nil => simp [runChecks]
  | cons check checks ih =>
    rw [runChecks, List.forall_mem_cons, ← ih, checked_bind_eq_ok_iff]
    exact ⟨fun ⟨(), h⟩ ↦ h, fun h ↦ ⟨(), h⟩⟩

@[simp] theorem parses_eq_ok_iff {α : Type} {value : Checked α} :
    parses value = .ok () ↔ ∃ parsed, value = .ok parsed := by
  cases value with
  | error message => simp [parses, Except.map]
  | ok parsed => simp [parses, Except.map]

/-- The key of an operation field in the record. -/
def OperationField.name : OperationField → String
  | agentDispatchState => "agent_dispatch_state"
  | forkOperationState => "fork_operation_state"
  | worktreeProvisionState => "worktree_provision_state"
  | cloneOperationState => "clone_operation_state"
  | githubIssueCreateOperationState => "github_issue_create_operation_state"
  | githubPrCreateOperationState => "github_pr_create_operation_state"
  | githubPrMergeOperationState => "github_pr_merge_operation_state"
  | githubRepoCreateOperationState => "github_repo_create_operation_state"
  | githubIssueUpdateOperationState => "github_issue_update_operation_state"
  | githubIssueCloseOperationState => "github_issue_close_operation_state"
  | linearTicketCreateOperationState => "linear_ticket_create_operation_state"
  | linearTicketUpdateOperationState => "linear_ticket_update_operation_state"
  | linearTicketCloseOperationState => "linear_ticket_close_operation_state"
  | ticketSplitOperationState => "ticket_split_operation_state"
  | ticketSplitParentOperationState => "ticket_split_parent_operation_state"
  | ticketMergeOperationState => "ticket_merge_operation_state"
  | ticketMergeSurvivorOperationState => "ticket_merge_survivor_operation_state"
  | promptOperationState => "prompt_operation_state"
  | participantCreationState => "participant_creation_state"

/-- The labels each operation field may hold. -/
def OperationField.labels : OperationField → List OperationLabel
  | agentDispatchState =>
    [.dispatching, .ready, .ambiguous, .failedObserving, .confirmedAbsent, .manualRequired,
      .retained]
  | forkOperationState =>
    [.planned, .submitted, .exists, .failed, .ambiguous, .failedObserving, .confirmedAbsent,
      .manualRequired, .retained]
  | worktreeProvisionState =>
    [.planned, .dispatching, .ready, .retained, .quarantined, .ambiguous, .failedObserving,
      .confirmedAbsent, .manualRequired]
  | cloneOperationState => [.planned, .submitted, .cloned, .ambiguous, .manualRequired]
  | githubPrMergeOperationState =>
    [.planned, .submitting, .submitted, .merged, .ambiguous, .manualRequired]
  | githubRepoCreateOperationState =>
    [.planned, .submitting, .submitted, .created, .ambiguous, .manualRequired, .remoteCreated,
      .cloneVerified]
  | promptOperationState =>
    [.none, .planned, .submitting, .submitted, .observed, .ambiguous, .resolved]
  | participantCreationState =>
    [.none, .planned, .submitting, .created, .ambiguous, .failed, .manualRequired]
  | _ => [.planned, .submitting, .submitted, .created, .ambiguous, .manualRequired]

namespace Values

variable (values : Values)

/-! ### External operations -/

/-- The label of an operation is one the field may hold. -/
def labelGuard (field : OperationField) (message : String) : Guard :=
  ((values.operation field).any (· ∉ field.labels), field.name ++ message)

/-- A confirmation stands only with one of its requests. -/
def requestGuard (confirmed : BoolField) (requests : List BoolField) (message : String) : Guard :=
  (values.bool confirmed && !requests.any values.bool, message)

/-- An operation names everything that identifies it. -/
def identityGuard (field : OperationField) (identity : List Bool) (message : String) : Guard :=
  ((values.operation field).isSome && !identity.all id, message)

/-- A submission through an agent prompt records the prompt it was sent with. -/
def promptFenceGuard (field : OperationField) (fence : List TextField) (baseline : IntField)
    (message : String) : Guard :=
  ((values.operation field).any (· ∈ [OperationLabel.submitting, .submitted]) &&
    (!fence.all values.hasText || (values.int baseline).isNone), message)

/-- A count that is set and not zero. -/
def hasCount (field : IntField) : Bool := values.count field ≠ 0

def githubOperationGuards : List Guard :=
  [values.labelGuard .cloneOperationState " is invalid",
    values.identityGuard .cloneOperationState [values.hasText .cloneSource]
      "clone operation requires a clone source",
    values.labelGuard .githubIssueCreateOperationState " is invalid",
    values.requestGuard .githubIssueCreateConfirmed [.githubIssueCreateRequested]
      "GitHub issue creation confirmation requires a creation request",
    values.labelGuard .githubPrCreateOperationState " is invalid",
    values.requestGuard .githubPrCreateConfirmed [.githubPrCreateRequested]
      "GitHub pull request creation confirmation requires a creation request",
    values.labelGuard .githubPrMergeOperationState " is invalid",
    values.requestGuard .githubPrMergeConfirmed [.githubPrMergeRequested]
      "GitHub pull request merge confirmation requires a merge request",
    values.identityGuard .githubPrMergeOperationState
      [values.hasText .githubRepository, values.hasCount .githubPrMergeNumber,
        values.hasText .githubPrMergeUrl, values.hasText .githubPrMergeMarker,
        values.hasText .githubPrMergeSnapshot, values.hasText .githubPrMergeMethod]
      ("GitHub pull request merge operation requires repository, number, " ++
        "URL, marker, immutable snapshot, and merge method"),
    ((values.text .githubPrMergeMethod).any (· ∉ ["merge", "squash", "rebase"]),
      "github_pr_merge_method is invalid"),
    values.labelGuard .githubRepoCreateOperationState " is invalid",
    values.requestGuard .githubRepoCreateConfirmed [.githubRepoCreateRequested]
      "GitHub repository creation confirmation requires a creation request",
    values.requestGuard .githubRepoCreateOrgRequested [.githubRepoCreateRequested]
      "GitHub organization repository creation requires a creation request",
    values.requestGuard .githubRepoCreateContinueWorkflow [.githubRepoCreateRequested]
      "GitHub repository workflow continuation requires a creation request",
    ((values.text .githubRepoCreateVisibility).any (· ∉ ["private", "public"]),
      "github_repo_create_visibility is invalid"),
    values.identityGuard .githubRepoCreateOperationState
      [values.hasText .githubRepository, values.hasText .githubRepoCreateVisibility,
        values.hasText .githubRepoCreateMarker]
      "GitHub repository creation operation requires repository, visibility, and marker",
    values.labelGuard .githubIssueUpdateOperationState " is invalid",
    values.requestGuard .githubIssueUpdateConfirmed [.githubIssueUpdateRequested]
      "GitHub issue update confirmation requires an update request",
    values.identityGuard .githubIssueUpdateOperationState
      [values.hasText .githubRepository, values.hasCount .githubIssue,
        values.hasText .githubIssueUpdateTitle, values.hasText .githubIssueUpdateMarker]
      "GitHub issue update operation requires repository, issue, title, and marker",
    values.labelGuard .githubIssueCloseOperationState " is invalid",
    values.requestGuard .githubIssueCloseConfirmed [.githubIssueCloseRequested]
      "GitHub issue close confirmation requires a close request",
    values.identityGuard .githubIssueCloseOperationState
      [values.hasText .githubRepository, values.hasCount .githubIssue,
        values.hasText .githubIssueCloseMarker]
      "GitHub issue close operation requires repository, issue, and marker",
    values.identityGuard .githubIssueCreateOperationState
      [values.hasText .githubRepository, values.hasText .githubIssueCreateTitle,
        values.hasText .githubIssueCreateMarker]
      "GitHub issue creation operation requires repository, title, and marker",
    values.identityGuard .githubPrCreateOperationState
      ([.githubRepository, .githubPrCreateTitle, .githubPrCreateMarker, .githubPrCreateBase,
        .githubPrCreateHeadOid, .githubPrCreateHeadRepository, .githubPrCreateCheckoutOrigin,
        .githubPrCreateStatusDigest].map values.hasText)
      "GitHub pull request creation operation requires repository, title, and marker"]

def linearOperationGuards : List Guard :=
  [values.labelGuard .linearTicketCreateOperationState " is invalid",
    values.requestGuard .linearTicketCreateConfirmed [.linearTicketCreateRequested]
      "Linear ticket creation confirmation requires a creation request",
    values.identityGuard .linearTicketCreateOperationState
      ([.linearTicketCreateTeam, .linearTicketCreateTeamId, .linearTicketCreateTitle,
        .linearTicketCreateMarker].map values.hasText)
      "Linear ticket creation operation requires team, title, and marker",
    values.promptFenceGuard .linearTicketCreateOperationState
      [.linearTicketCreatePromptTarget, .linearTicketCreatePromptSession,
        .linearTicketCreatePromptToken]
      .linearTicketCreateBaselineSequence
      "Linear ticket submission requires a durable prompt fence",
    values.labelGuard .linearTicketUpdateOperationState " is invalid",
    values.requestGuard .linearTicketUpdateConfirmed [.linearTicketUpdateRequested]
      "Linear ticket update confirmation requires an update request",
    values.identityGuard .linearTicketUpdateOperationState
      ([.issueKey, .linearTicketUpdateTitle, .linearTicketUpdateMarker].map values.hasText)
      "Linear ticket update operation requires identifier, title, and marker",
    values.promptFenceGuard .linearTicketUpdateOperationState
      [.linearTicketUpdateIssueId, .linearTicketUpdatePromptTarget,
        .linearTicketUpdatePromptSession, .linearTicketUpdatePromptToken]
      .linearTicketUpdateBaselineSequence
      "Linear ticket update submission requires a durable prompt fence",
    values.labelGuard .linearTicketCloseOperationState " is invalid",
    values.requestGuard .linearTicketCloseConfirmed [.linearTicketCloseRequested]
      "Linear ticket close confirmation requires a close request",
    values.identityGuard .linearTicketCloseOperationState
      ([.issueKey, .linearTicketCloseMarker].map values.hasText)
      "Linear ticket close operation requires identifier and marker",
    values.promptFenceGuard .linearTicketCloseOperationState
      [.linearTicketCloseIssueId, .linearTicketClosePromptTarget,
        .linearTicketClosePromptSession, .linearTicketClosePromptToken]
      .linearTicketCloseBaselineSequence
      "Linear ticket close submission requires a durable prompt fence"]

/-- A prompt fence that only a Linear request needs. -/
def linearFenceGuard (requested : BoolField) (guard : Guard) : Guard :=
  (values.bool requested && guard.1, guard.2)

def splitAndMergeGuards : List Guard :=
  [values.labelGuard .ticketSplitOperationState " is invalid",
    values.labelGuard .ticketSplitParentOperationState " is invalid",
    values.requestGuard .ticketSplitConfirmed
      [.githubIssueSplitRequested, .linearTicketSplitRequested]
      "Ticket split confirmation requires a split request",
    values.identityGuard .ticketSplitOperationState
      ([.ticketSplitChildren, .ticketSplitParentAction].map values.hasText)
      "Ticket split operation requires children and a parent action",
    (values.text .ticketSplitParentAction = some "update" &&
        (values.operation .ticketSplitOperationState).isSome &&
        !(values.hasText .ticketSplitParentTitle && values.hasText .ticketSplitParentMarker),
      "Ticket split rewrite requires a parent title and marker"),
    (values.text .ticketSplitParentAction = some "close" &&
        (values.operation .ticketSplitOperationState).isSome &&
        !values.hasText .ticketSplitParentMarker,
      "Ticket split close requires a parent marker"),
    values.linearFenceGuard .linearTicketSplitRequested
      (values.promptFenceGuard .ticketSplitOperationState
        [.ticketSplitPromptTarget, .ticketSplitPromptSession, .ticketSplitPromptToken]
        .ticketSplitBaselineSequence
        "Linear ticket split submission requires a durable prompt fence"),
    values.labelGuard .ticketMergeOperationState " is invalid",
    values.labelGuard .ticketMergeSurvivorOperationState " is invalid",
    values.requestGuard .ticketMergeConfirmed
      [.githubIssueMergeRequested, .linearTicketMergeRequested]
      "Ticket merge confirmation requires a merge request",
    values.identityGuard .ticketMergeOperationState
      ([.ticketMergeSurvivor, .ticketMergeClosing, .ticketMergeSurvivorTitle,
        .ticketMergeSurvivorMarker].map values.hasText)
      "Ticket merge operation requires a survivor, closing set, title, and marker",
    values.linearFenceGuard .linearTicketMergeRequested
      (values.promptFenceGuard .ticketMergeOperationState
        [.ticketMergePromptTarget, .ticketMergePromptSession, .ticketMergePromptToken]
        .ticketMergeBaselineSequence
        "Linear ticket merge submission requires a durable prompt fence")]

/-! ### Issue identity, worker and delivery claims -/

def issueIdentityGuards : List Guard :=
  let provider := values.text .issueProvider
  [((values.int .githubIssue).isSome && (values.text .issueKey).isNone &&
        provider ≠ some "github",
      "GitHub issue job requires github issue_provider"),
    ((values.text .issueKey).isSome && provider.isNone,
      "issue-key job requires issue_provider"),
    (provider = some "github" && (values.int .githubIssue).isNone &&
        !([BoolField.githubIssueCreateRequested, .githubRepoCreateRequested,
          .githubPrCreateRequested, .githubPrMergeRequested, .githubIssueUpdateRequested,
          .githubIssueCloseRequested, .githubIssueSplitRequested,
          .githubIssueMergeRequested].any values.bool),
      "github issue_provider requires a GitHub issue identity"),
    (provider.isSome && provider ≠ some "github" && (values.text .issueKey).isNone &&
        !(provider = some "linear" &&
          [BoolField.linearTicketCreateRequested, .linearTicketUpdateRequested,
            .linearTicketCloseRequested, .linearTicketSplitRequested,
            .linearTicketMergeRequested].any values.bool),
      "selected issue_provider requires an issue key")]

/-- Which of the six worker claim fields are set. -/
def workerClaim : List Bool :=
  [(values.text .workerToken).isSome, (values.int .workerPid).isSome,
    (values.text .workerBootId).isSome, (values.text .workerProcessStart).isSome,
    (values.text .workerClaimOperation).isSome, (values.float .workerClaimedAt).isSome]

def workerGuards : List Guard :=
  let message := values.status.value ++ " job requires complete worker ownership"
  [(values.revision < 0, "revision must not be negative"),
    ((values.int .workerPid).any (· ≤ 0), "worker_pid must be positive"),
    (values.workerClaim.any id && !values.workerClaim.all id, message),
    (values.terminalIntentStatus.isNone && values.status.isWorker && !values.workerClaim.all id,
      message)]

def deliveryGuards : List Guard :=
  let ack := values.announcementAck
  [((values.hasText .deliveryClaimToken : Bool) ≠ (values.float .deliveryClaimedAt).isSome,
      "delivery claim token and timestamp must be paired"),
    (values.bool .delivered && values.hasText .deliveryClaimToken,
      "delivered job cannot retain a delivery claim"),
    (ack ∈ [AnnouncementAck.spoken, .dismissed] && !values.bool .delivered,
      "spoken or dismissed announcement requires delivered"),
    (ack ∈ [AnnouncementAck.desktop, .deferred] && values.bool .delivered,
      "desktop or deferred announcement cannot be marked delivered")]

/-! ### Workflow, review and plan approval -/

def workflowGuards : List Guard :=
  let round := values.count .reviewRound
  let decision := values.reviewDecision
  let source := values.reviewApprovalSource
  [(round < 0 || 2 < round, "review_round must be between zero and two"),
    (values.workflowPhase ≠ .classifying && values.workflowTier.isNone,
      values.workflowPhase.value ++ " workflow requires workflow_tier"),
    (values.workflowTier.isSome && !values.hasText .workflowClassificationReason,
      "classified workflow requires workflow_classification_reason"),
    (values.workflowTier = some .simple && values.workflowPhase.isReviewed,
      "simple workflow cannot enter planning or review"),
    (values.workflowTier = some .medium && 1 < round, "medium workflow allows only one review"),
    (values.reviewApproved && !values.hasText .reviewArtifact,
      "approved review requires a review artifact"),
    (source = some .reviewer && decision ≠ some .approve,
      "reviewer approval requires an approving review decision"),
    (source = some .user && (values.workflowTier ≠ some .highRisk || decision ≠ some .revise ||
        round < 1),
      "user approval requires an exhausted high-risk rejected review")]

/-- Whether the proof values of a plan approval are set. -/
def approvalProofValues : List Bool :=
  [(values.text .planApprovalId).isSome, (values.text .planApprovalAgentSession).isSome,
    (values.int .planApprovalStateChangeSequence).isSome]

def planApprovalGuards : List Guard :=
  let state := values.planApprovalState
  let source := values.planApprovalSource
  let accepted : Bool := state = .approved || state = .observed
  let planned : Bool := values.workflowTier = some .medium || values.workflowTier = some .highRisk
  let implementing : Bool :=
    values.workflowPhase = .implementing || values.workflowPhase = .finished
  [(state = .none && (values.approvalProofValues.any id || source.isSome),
      "inactive plan approval cannot retain gate proof or source"),
    (state ≠ .none && !values.approvalProofValues.all id,
      "active plan approval requires gate ID, agent session, and sequence"),
    (state = .boundary &&
        (values.workflowPhase ∉ [WorkflowPhase.planning, .revising, .reviewing] ||
          source.isSome),
      "plan approval boundary requires a planning or review phase"),
    (state = .awaiting && (values.status ≠ .awaitingUser ||
        values.text .clarificationKind ≠ some "workflow_plan_approval" ||
        values.workflowPhase ≠ .reviewing || source.isSome),
      "awaiting plan approval requires the reviewed-plan question"),
    (accepted && (source.isNone || !implementing),
      "approved plan requires a source and implementation phase"),
    (state = .rejected && ((values.status ≠ .cancelled &&
        !(values.status = .reconciling && values.terminalIntentStatus = some .cancelled)) ||
        source.isSome),
      "rejected plan approval requires a cancelled job without a source"),
    (values.bool .planApprovalCounted && (source ≠ some .explicit || !accepted),
      "counted plan approval requires an accepted explicit approval"),
    (values.bool .planApprovalCompletionPending && (source ≠ some .explicit ||
        state ≠ .observed || values.workflowPhase ≠ .finished ||
        values.status ∉ [JobStatus.queued, .reconciling] || !values.bool .reconcile ||
        !values.hasText .result || values.activeParticipant.isSome ||
        values.promptOperationState ≠ .none),
      "pending plan approval completion requires durable finished output"),
    (planned && implementing && (!values.hasText .planArtifact ||
        !values.hasText .reviewArtifact || !values.reviewApproved),
      "planned workflow cannot implement without approved plan and review"),
    (planned && implementing && !accepted,
      "planned workflow cannot implement without plan approval")]

/-! ### Prompts, panes and the terminal intent -/

def promptAndPaneGuards : List Guard :=
  let prompt := values.promptOperationState
  let creation := values.participantCreationState
  [(values.activeParticipant.any fun participant ↦
        !truthy (values.participantTarget participant) ||
          values.participantTarget participant ≠ values.text .herdrTarget,
      "active participant target must match herdr_target"),
    values.labelGuard .promptOperationState " has invalid value",
    values.labelGuard .participantCreationState " has invalid value",
    (prompt ≠ .none && ((values.get (.phase .promptOperationPhase)).isNone ||
        values.count .promptOperationTurn ≤ 0 || !values.hasText .promptOperationTarget),
      "durable prompt operation requires phase, turn, and target"),
    (prompt ∈ [OperationLabel.submitting, .submitted, .ambiguous] &&
        (values.int .promptBaselineSequence).isNone,
      prompt.value ++ " prompt requires baseline sequence"),
    (creation ≠ .none && !(values.participantCreationParticipant.isSome &&
        values.hasText .participantCreationTarget && values.hasText .participantCreationLabel),
      "participant creation requires role, target, and label"),
    (creation = .created && !(values.hasText .participantCreationWorkspaceId &&
        values.hasText .participantCreationPaneId),
      "created participant requires pane and workspace"),
    (values.terminalIntentStatus.any (!·.isTerminal) ||
        values.terminalIntentStatus.isSome &&
          (values.status ≠ .reconciling || !values.bool .targetReleasePending),
      "terminal intent requires reconciling status and release fence"),
    ((values.count .sessionControlGeneration) < 0,
      "session control generation must not be negative")]

/-! ### Operation fences and the manual slot -/

def operationFenceGuards : List Guard :=
  let agent := values.operation .agentDispatchState
  let fork := values.operation .forkOperationState
  let worktree := values.operation .worktreeProvisionState
  [values.labelGuard .agentDispatchState " has invalid value",
    values.labelGuard .forkOperationState " has invalid value",
    values.labelGuard .worktreeProvisionState " has invalid value",
    (values.isUncertain .agentDispatchState && !values.hasText .herdrTarget,
      (agent.map OperationLabel.value).getD "" ++ " agent operation requires herdr_target"),
    (fork.any (· ∈ [OperationLabel.planned, .submitted, .ambiguous, .failedObserving,
        .manualRequired]) && !values.hasText .forkOperationTarget,
      (fork.map OperationLabel.value).getD "" ++ " fork operation requires target"),
    (worktree.any (· ∈ [OperationLabel.planned, .dispatching, .ambiguous, .failedObserving,
        .manualRequired]) && !([TextField.repository, .worktreeBranch, .worktreePath].all
          values.hasText),
      (worktree.map OperationLabel.value).getD "" ++
        " worktree operation requires repository, branch, and path")]

end Values

/-- The operations that share the manual reconciliation slot. -/
inductive ManualOperation
  | agent | fork | worktree | prompt | pane
  deriving DecidableEq, Repr

namespace ManualOperation

def value : ManualOperation → String
  | agent => "agent"
  | fork => "fork"
  | worktree => "worktree"
  | prompt => "prompt"
  | pane => "pane"

def all : List ManualOperation := [agent, fork, worktree, prompt, pane]

/-- The operation a slot text names. -/
def ofValue? (text : String) : Option ManualOperation := all.find? fun operation ↦
  operation.value = text

/-- The field of the operation's state. -/
def field : ManualOperation → OperationField
  | agent => .agentDispatchState
  | fork => .forkOperationState
  | worktree => .worktreeProvisionState
  | prompt => .promptOperationState
  | pane => .participantCreationState

/-- The label that asks for a manual resolution; a prompt has no label of its own for it. -/
def manualLabel : ManualOperation → OperationLabel
  | prompt => .ambiguous
  | _ => .manualRequired

@[simp] theorem ofValue?_value (operation : ManualOperation) :
    ofValue? operation.value = some operation := by
  cases operation <;> decide

theorem value_of_ofValue? {text : String} {operation : ManualOperation}
    (h : ofValue? text = some operation) : operation.value = text := by
  simpa using List.find?_some h

theorem mem_all (operation : ManualOperation) : operation ∈ all := by
  cases operation <;> decide

end ManualOperation

namespace Values

variable (values : Values)

/-- The operation is in its manual state. -/
def isManual (operation : ManualOperation) : Bool :=
  values.operation operation.field = some operation.manualLabel

def manualGuards : List Guard :=
  let slot := values.textOrEmpty .manualReconcileOperation
  let token := values.hasText .manualReconcileToken
  [(ManualOperation.all.any (fun operation ↦
        values.operation operation.field = some .manualRequired) && (slot = "" || !token),
      "manual reconciliation requires operation and token"),
    (slot ≠ "" && (ManualOperation.ofValue? slot).isNone,
      "manual reconciliation operation is invalid"),
    ((ManualOperation.ofValue? slot).any fun operation ↦
        !values.isManual operation || !token,
      "manual reconciliation fields do not match operation fence"),
    (slot = "" && token, "manual reconciliation requires operation and token")]

def releaseGuards : List Guard :=
  let pending := values.bool .targetReleasePending
  let owner := [(values.int .targetReleaseOwnerPid).isSome,
    (values.text .targetReleaseOwnerBootId).isSome, (values.text .targetReleaseOwnerStart).isSome]
  [(values.bool .cancellationReconciliationPending && !values.hasUncertainOperation && !pending,
      "cancellation reconciliation requires an operation or release fence"),
    (values.bool .cancellationReconciliationPending &&
        values.status ∉ [JobStatus.reconciling, .cancelled, .failed],
      "cancellation reconciliation is only valid for cancelled or failed jobs"),
    (owner.any id && !owner.all id,
      "target release owner PID, boot ID, and process start must be paired"),
    (!pending && (values.hasText .targetReleaseToken ||
        values.hasCount .targetReleaseOwnerPid || values.hasText .targetReleaseOwnerBootId ||
        values.hasText .targetReleaseOwnerStart || values.bool .targetReleaseManualRequired ||
        !values.targetReleaseUnverifiedTargets.isEmpty),
      "released target cannot retain release ownership fields"),
    (values.bool .targetReleaseManualRequired ≠ !values.targetReleaseUnverifiedTargets.isEmpty,
      "manual target release requires unverified target identities")]

/-- The adapters that are read before any other check. -/
def adapterChecks : List (Checked Unit) :=
  [parses values.terminalState, parses values.cleanupState, parses values.deliveryState,
    parses values.workflowState, parses values.reviewState, parses values.planApproval,
    parses values.participantLifecycle,
    if (values.float .workerClaimedAt).isSome || (values.text .workerClaimOperation).isSome then
      parses values.workerOwnership else .ok (),
    if (values.text .agentProvider).isSome || (values.text .agentProviderSessionId).isSome ||
        (values.int .agentStateSequence).isSome then
      parses values.agentSessionOperation else .ok (),
    if (values.text .participantCreationCheckout).isSome then
      parses values.participantPaneOperation else .ok ()]

/-- The adapters of the operations, which are absent where there is no operation. -/
def operationChecks : List (Checked Unit) :=
  [parses values.checkoutOperation, parses values.agentSessionOperation,
    parses values.participantPaneOperation, parses values.forkOperation]

/-- Every guard, in the order of the source. -/
def invariantGuards : List Guard :=
  values.githubOperationGuards ++ values.linearOperationGuards ++ values.splitAndMergeGuards ++
    values.issueIdentityGuards ++ values.workerGuards ++ values.deliveryGuards ++
    values.workflowGuards ++ values.planApprovalGuards ++ values.promptAndPaneGuards ++
    values.operationFenceGuards ++ values.manualGuards

/-- `validate_invariants`. -/
def validateInvariants : Checked Unit :=
  runChecks (values.adapterChecks ++ [runGuards values.invariantGuards] ++
    values.operationChecks ++ [runGuards values.releaseGuards])

/-- A record is valid when every adapter parses and no guard holds. -/
theorem validateInvariants_eq_ok_iff :
    values.validateInvariants = .ok () ↔
      (∀ check ∈ values.adapterChecks, check = .ok ()) ∧
      (∀ guard ∈ values.invariantGuards, guard.1 = false) ∧
      (∀ check ∈ values.operationChecks, check = .ok ()) ∧
      ∀ guard ∈ values.releaseGuards, guard.1 = false := by
  rw [validateInvariants, runChecks_eq_ok_iff]
  simp only [List.forall_mem_append, List.forall_mem_singleton, runGuards_eq_ok_iff]
  tauto

end Values

end VoiceHarness
