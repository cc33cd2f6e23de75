import VoiceHarness.Job.Values

/-!
# The field inventory and its encoding

The store keeps a job in nine named tables with one column for each field, and a presence table that
tells a missing field from one that is `None`. `namedTables` is the hand-written inventory of the
source. A column holds what `_database_value` makes of a value; `modelValue` reads it back, and the
two are inverse to each other on every field a table has (`modelValue_databaseValue`).

A structured value is stored as the JSON text of the document. The order of a document's keys, which
the store sorts, is not part of a `dict`'s value, and a document is compared without it.
-/

set_option autoImplicit false
set_option relaxedAutoImplicit false

namespace VoiceHarness

/-! ### The inventory -/

/-- The columns of `job_identity`. -/
def jobIdentityFields : List Field :=
  [.text .parentJobId, .int .revision, .jobStatus .status, .harnessKind, .text .issueProvider,
    .text .request, .text .utterance, .text .trustedUtterance, .float .createdAt,
    .float .updatedAt, .float .queuedAt, .float .startedAt, .float .completedAt,
    .float .foregroundUntil, .bool .continuation, .text .continuationAnswer, .bool .reconcile,
    .text .contextRepository, .text .repositoryHint, .text .speakableLabel,
    .groupedRepositoryTargets, .structured .groupedRepositoryCandidates,
    .structured .groupedRepositoryLaunches, .text .groupedRepositoryCoordinatorId]

/-- The columns of `job_prompt_question`. -/
def jobPromptQuestionFields : List Field :=
  [.text .clarificationKind, .structured .clarifications, .bool .interactiveQuestionnaireBlocked,
    .int .promptBaselineSequence, .structured .promptContextSessions, .structured .promptManifest,
    .text .promptOperationAgentSession, .phase .promptOperationPhase,
    .operation .promptOperationState, .text .promptOperationTarget, .int .promptOperationTurn,
    .text .question, .int .turn, .text .turnToken, .structured .voiceQuestion]

/-- The columns of `job_terminal_cleanup`. -/
def jobTerminalCleanupFields : List Field :=
  [.text .error, .text .result, .float .terminalIntentCompletedAt, .text .terminalIntentError,
    .text .terminalIntentResult, .jobStatus .terminalIntentStatus]

/-- The columns of `job_delivery_announcement`. -/
def jobDeliveryAnnouncementFields : List Field :=
  [.announcementAck, .bool .announcementDismissed, .bool .announcementRepeated, .bool .delivered,
    .float .deliveredAt, .int .deliveryAttempts, .text .deliveryClaimToken,
    .float .deliveryClaimedAt, .int .deliveryGeneration, .float .deliveryRetryAt]

/-- The columns of `job_workflow_review_approval_participant`. -/
def jobWorkflowReviewApprovalParticipantFields : List Field :=
  [.participant .activeParticipant, .text .implementerTarget, .participantAdmissionState,
    .text .participantCreationCheckout, .text .participantCreationLabel,
    .text .participantCreationPaneId, .participant .participantCreationParticipant,
    .operation .participantCreationState, .text .participantCreationTarget,
    .text .participantCreationWorkspaceId, .participantSessionOwners,
    .text .planApprovalAgentSession, .bool .planApprovalCompletionPending,
    .bool .planApprovalCounted, .text .planApprovalId, .text .planApprovalPlanArtifact,
    .text .planApprovalReviewArtifact, .int .planApprovalRevision, .planApprovalSource,
    .planApprovalState, .int .planApprovalStateChangeSequence, .text .planArtifact,
    .text .plannerTarget, .reviewApprovalSource, .bool .reviewApproved, .text .reviewArtifact,
    .reviewDecision, .int .reviewRound, .text .reviewerTarget,
    .text .workflowClassificationReason, .phase .workflowPhase, .workflowTier,
    .phase .workflowTurnPhase]

/-- The columns of `job_checkout_fork`. -/
def jobCheckoutForkFields : List Field :=
  [.bool .cloneConfirmed, .operation .cloneOperationState, .text .cloneSource,
    .int .forkAbsentObservations, .float .forkAutomaticReconcileStoppedAt, .bool .forkCommitted,
    .float .forkCommittedAt, .bool .forkConfirmed, .float .forkConfirmedAbsentAt,
    .bool .forkDispatchExited, .bool .forkExists, .float .forkLastReconciledAt,
    .float .forkNextReconcileAt, .text .forkOperationLogin, .text .forkOperationSource,
    .text .forkOperationSourceDefaultBranch, .text .forkOperationSourceParent,
    .bool .forkOperationSourcePrivate, .text .forkOperationSourceUrl,
    .operation .forkOperationState, .text .forkOperationTarget, .int .forkReconcileAttempts,
    .text .forkRepository, .bool .forkRequested, .float .forkRetainedAt, .text .pullRequestBranch,
    .text .pullRequestHeadOid, .text .pullRequestHeadRef, .text .pullRequestRemoteUrl,
    .text .pullRequestWorktreeError, .text .pullRequestWorktreeState, .text .repository,
    .int .worktreeAbsentObservations, .float .worktreeAutomaticReconcileStoppedAt,
    .text .worktreeBranch, .float .worktreeConfirmedAbsentAt, .bool .worktreeDispatchExited,
    .text .worktreeLabel, .float .worktreeLastReconciledAt,
    .bool .worktreeManualInspectionRequired, .float .worktreeNextReconcileAt, .text .worktreePath,
    .text .worktreeProvisionError, .operation .worktreeProvisionState,
    .float .worktreeQuarantineAcknowledgedAt, .int .worktreeReconcileAttempts,
    .float .worktreeRetainedAt, .text .worktreeRootPaneId, .text .worktreeWorkspaceId]

/-- The columns of `job_provider_ticket`. -/
def jobProviderTicketFields : List Field :=
  [.int .githubIssue, .bool .githubIssueCloseConfirmed, .text .githubIssueCloseMarker,
    .operation .githubIssueCloseOperationState, .bool .githubIssueCloseRequested,
    .bool .githubIssueSplitRequested, .bool .githubIssueMergeRequested, .text .githubIssueContext,
    .text .githubIssueCreateBody, .bool .githubIssueCreateConfirmed,
    .text .githubIssueCreateMarker, .operation .githubIssueCreateOperationState,
    .bool .githubIssueCreateRequested, .text .githubIssueCreateTitle,
    .int .githubIssueCreatedNumber, .text .githubIssueCreatedUrl, .text .githubIssueUpdateBody,
    .text .githubIssueUpdateBaseBody, .text .githubIssueUpdateBaseRevision,
    .text .githubIssueUpdateBaseTitle, .bool .githubIssueUpdateConfirmed,
    .text .githubIssueUpdateMarker, .operation .githubIssueUpdateOperationState,
    .bool .githubIssueUpdateRequested, .text .githubIssueUpdateTitle, .text .githubIssueUrl,
    .text .githubPrCreateBody, .text .githubPrCreateCommitSubject, .text .githubPrCreateBase,
    .text .githubPrCreateHeadOid, .text .githubPrCreatePublishedHeadOid,
    .text .githubPrCreateHeadRepository, .text .githubPrCreateCheckoutOrigin,
    .text .githubPrCreateStatusDigest, .bool .githubPrCreateConfirmed,
    .text .githubPrCreateMarker, .operation .githubPrCreateOperationState,
    .bool .githubPrCreateRequested, .text .githubPrCreateTitle, .int .githubPrCreatedNumber,
    .text .githubPrCreatedUrl, .bool .githubPrMergeConfirmed, .text .githubPrMergeMarker,
    .text .githubPrMergeMethod, .int .githubPrMergeNumber,
    .operation .githubPrMergeOperationState, .bool .githubPrMergeRequested,
    .text .githubPrMergeSnapshot, .text .githubPrMergeUrl, .int .githubPullRequest,
    .bool .githubRepoCreateConfirmed, .bool .githubRepoCreateContinueWorkflow,
    .text .githubRepoCreateMarker, .operation .githubRepoCreateOperationState,
    .bool .githubRepoCreateOrgRequested, .text .githubRepoCreateOwner,
    .bool .githubRepoCreateRequested, .text .githubRepoCreateVisibility,
    .text .githubRepoCreatedUrl, .text .githubRepository, .text .issueKey,
    .int .linearTicketCloseBaselineSequence, .bool .linearTicketCloseConfirmed,
    .text .linearTicketCloseIssueId, .text .linearTicketCloseMarker,
    .operation .linearTicketCloseOperationState, .text .linearTicketClosePromptSession,
    .text .linearTicketClosePromptTarget, .text .linearTicketClosePromptToken,
    .bool .linearTicketCloseRequested, .text .linearTicketCloseTerminalStateId,
    .text .linearTicketCloseTerminalStateName, .bool .linearTicketSplitRequested,
    .bool .linearTicketMergeRequested, .int .linearTicketCreateBaselineSequence,
    .bool .linearTicketCreateConfirmed, .text .linearTicketCreateDescription,
    .text .linearTicketCreateMarker, .operation .linearTicketCreateOperationState,
    .text .linearTicketCreatePromptSession, .text .linearTicketCreatePromptTarget,
    .text .linearTicketCreatePromptToken, .bool .linearTicketCreateRequested,
    .text .linearTicketCreateTeam, .text .linearTicketCreateTeamId,
    .text .linearTicketCreateTitle, .text .linearTicketCreatedIdentifier,
    .text .linearTicketCreatedUrl, .int .linearTicketUpdateBaselineSequence,
    .bool .linearTicketUpdateConfirmed, .text .linearTicketUpdateDescription,
    .text .linearTicketUpdateBaseDescription, .text .linearTicketUpdateBaseRevision,
    .text .linearTicketUpdateBaseTitle, .text .linearTicketUpdateIssueId,
    .text .linearTicketUpdateMarker, .operation .linearTicketUpdateOperationState,
    .text .linearTicketUpdatePromptSession, .text .linearTicketUpdatePromptTarget,
    .text .linearTicketUpdatePromptToken, .bool .linearTicketUpdateRequested,
    .text .linearTicketUpdateTitle, .int .ticketSplitBaselineSequence, .text .ticketSplitChildren,
    .bool .ticketSplitConfirmed, .operation .ticketSplitOperationState,
    .text .ticketSplitParentAction, .text .ticketSplitParentBody, .text .ticketSplitParentIssueId,
    .text .ticketSplitParentMarker, .operation .ticketSplitParentOperationState,
    .text .ticketSplitParentTerminalStateId, .text .ticketSplitParentTerminalStateName,
    .text .ticketSplitParentTitle, .text .ticketSplitPromptSession,
    .text .ticketSplitPromptTarget, .text .ticketSplitPromptToken, .text .ticketSplitTeam,
    .text .ticketSplitTeamId, .int .ticketMergeBaselineSequence, .text .ticketMergeClosing,
    .bool .ticketMergeConfirmed, .operation .ticketMergeOperationState,
    .text .ticketMergeSnapshots, .text .ticketMergePromptSession, .text .ticketMergePromptTarget,
    .text .ticketMergePromptToken, .text .ticketMergeSurvivor, .text .ticketMergeSurvivorBody,
    .text .ticketMergeSurvivorIssueId, .text .ticketMergeSurvivorMarker,
    .operation .ticketMergeSurvivorOperationState, .text .ticketMergeSurvivorTitle]

/-- The columns of `job_session_pane`. -/
def jobSessionPaneFields : List Field :=
  [.int .agentAbsentObservations, .float .agentAutomaticReconcileStoppedAt,
    .float .agentConfirmedAbsentAt, .bool .agentDispatchExited, .operation .agentDispatchState,
    .text .agentHint, .float .agentLastReconciledAt, .text .agentName,
    .float .agentNextReconcileAt, .text .agentOperationCheckout, .text .agentOperationPaneId,
    .text .agentOperationTarget, .text .agentOperationWorkspaceId, .text .agentProvider,
    .text .agentProviderSessionId, .int .agentReconcileAttempts, .float .agentRetainedAt,
    .int .agentStateSequence, .float .attemptStartedAt, .bool .cancellationReconciliationPending,
    .sessionControl, .int .sessionControlGeneration, .text .herdrPaneId, .text .herdrTarget,
    .text .herdrWorkspaceId, .text .manualReconcileOperation, .text .manualReconcileOutcome,
    .float .manualReconcileRequiredAt, .float .manualReconcileResolvedAt,
    .text .manualReconcileToken, .float .nextReconcileAt, .float .paneRetainedAt,
    .text .reconciliationBaseError, .text .sessionId, .bool .targetReleaseManualRequired,
    .text .targetReleaseOwnerBootId, .int .targetReleaseOwnerPid, .text .targetReleaseOwnerStart,
    .bool .targetReleasePending, .text .targetReleaseToken, .targetReleaseUnverifiedTargets]

/-- The columns of `job_worker`. -/
def jobWorkerFields : List Field :=
  [.text .workerBootId, .text .workerClaimOperation, .float .workerClaimedAt,
    .text .workerOperation, .int .workerPid, .text .workerProcessStart, .text .workerToken]

/-- `_NAMED_TABLE_FIELDS`, by table. -/
def namedTables : List (List Field) :=
  [jobIdentityFields, jobPromptQuestionFields, jobTerminalCleanupFields,
    jobDeliveryAnnouncementFields, jobWorkflowReviewApprovalParticipantFields,
    jobCheckoutForkFields, jobProviderTicketFields, jobSessionPaneFields, jobWorkerFields]

/-- Every field a table has a column for. -/
def inventory : List Field := namedTables.flatten

/-- `_IMPORT_ONLY_FIELDS`. -/
def importOnlyFields : List Field :=
  [.int .schemaVersion, .int .migrationSourceSchemaVersion, .bool .phasePromptActive,
    .bool .agentIdentityLegacyCompatible]

/-- The fields `_save_named_state` knows. -/
def knownFields : List Field := inventory ++ importOnlyFields ++ [.text .id]

theorem bool_mem_knownFields (field : BoolField) : Field.bool field ∈ knownFields := by
  have hall : ∀ index < 52, Field.bool (.ofNat index) ∈ knownFields := by decide +kernel
  rw [← BoolField.ofNat_ctorIdx field]
  exact hall _ (by cases field <;> decide)

theorem int_mem_knownFields (field : IntField) : Field.int field ∈ knownFields := by
  have hall : ∀ index < 32, Field.int (.ofNat index) ∈ knownFields := by decide +kernel
  rw [← IntField.ofNat_ctorIdx field]
  exact hall _ (by cases field <;> decide)

theorem float_mem_knownFields (field : FloatField) : Field.float field ∈ knownFields := by
  have hall : ∀ index < 34, Field.float (.ofNat index) ∈ knownFields := by decide +kernel
  rw [← FloatField.ofNat_ctorIdx field]
  exact hall _ (by cases field <;> decide)

def isText : Field → Bool
  | .text _ => true
  | _ => false

/-- The text columns in the order of the tables are the text fields in the order of the record. -/
theorem text_columns :
    Field.text .id :: inventory.filter isText =
      (List.range 165).map fun index ↦ .text (.ofNat index) := by
  decide +kernel

theorem text_mem_knownFields (field : TextField) : Field.text field ∈ knownFields := by
  have hmem : Field.text field ∈ Field.text .id :: inventory.filter isText := by
    rw [text_columns]
    refine List.mem_map.mpr ⟨field.ctorIdx, List.mem_range.mpr (by cases field <;> decide), ?_⟩
    rw [TextField.ofNat_ctorIdx]
  rcases List.mem_cons.mp hmem with hid | hcolumn
  · rw [hid]
    exact List.mem_append_right _ List.mem_cons_self
  · have hinventory := (List.mem_filter.mp hcolumn).1
    exact List.mem_append_left _ (List.mem_append_left _ hinventory)

theorem operation_mem_knownFields (field : OperationField) : Field.operation field ∈ knownFields := by
  have hall : ∀ index < 19, Field.operation (.ofNat index) ∈ knownFields := by decide +kernel
  rw [← OperationField.ofNat_ctorIdx field]
  exact hall _ (by cases field <;> decide)

/-- The only fields without a column, a compatibility value or the primary key are those outside the
vocabulary. -/
theorem mem_knownFields {field : Field} (h : ∀ name, field ≠ .other name) :
    field ∈ knownFields := by
  cases field with
  | bool field => exact bool_mem_knownFields field
  | int field => exact int_mem_knownFields field
  | float field => exact float_mem_knownFields field
  | text field => exact text_mem_knownFields field
  | operation field => exact operation_mem_knownFields field
  | phase field => cases field <;> decide +kernel
  | participant field => cases field <;> decide +kernel
  | jobStatus field => cases field <;> decide +kernel
  | structured field => cases field <;> decide +kernel
  | other name => exact absurd rfl (h name)
  | _ => decide +kernel

theorem other_notMem_knownFields (name : String) : Field.other name ∉ knownFields := by
  have hknown : ∀ field ∈ knownFields, field.isOther = false := by decide +kernel
  intro h
  exact absurd (hknown _ h) (by simp [Field.isOther])

/-! ### Columns -/

/-- What a column holds. -/
inductive SqlValue
  | null
  | integer (value : ℤ)
  | real (value : ℚ)
  | text (value : String)
  | document (value : Json)
  deriving DecidableEq

namespace SessionOwner

def toJson (owner : SessionOwner) : Json :=
  .obj [("provider", .str owner.provider), ("session_id", .str owner.sessionId),
    ("target", .str owner.target), ("state_sequence", .int owner.stateSequence),
    ("checkout", .str owner.checkout), ("workspace_id", .str owner.workspaceId),
    ("pane_id", .str owner.paneId)]

/-- An owner record that passes the checks of `from_dict`. -/
def ofJson? : Json → Option SessionOwner
  | .obj [("provider", .str provider), ("session_id", .str sessionId), ("target", .str target),
      ("state_sequence", .int stateSequence), ("checkout", .str checkout),
      ("workspace_id", .str workspaceId), ("pane_id", .str paneId)] =>
    if nonempty : provider ≠ "" ∧ sessionId ≠ "" ∧ target ≠ "" ∧ checkout ≠ "" ∧
        workspaceId ≠ "" ∧ paneId ≠ "" then
      if 0 ≤ stateSequence then
        some { provider, sessionId, target, stateSequence := stateSequence.toNat, checkout,
               workspaceId, paneId, nonempty }
      else none
    else none
  | _ => none

@[simp] theorem ofJson?_toJson (owner : SessionOwner) : ofJson? owner.toJson = some owner := by
  simp [toJson, ofJson?, owner.nonempty]

end SessionOwner

/-- A target name in a stored list. -/
def targetName? : Json → Option TargetName
  | .str target => if h : target ≠ "" then some ⟨target, h⟩ else none
  | _ => none

def grouped? : Json → Option Dict
  | .obj fields => some fields
  | _ => none

/-- The items of a stored list. -/
def items? {α : Type} (read : Json → Option α) : Json → Option (List α)
  | .arr items => items.mapM read
  | _ => none

theorem items?_map {α : Type} {read : Json → Option α} {write : α → Json}
    (h : ∀ item, read (write item) = some item) (items : List α) :
    items? read (.arr (items.map write)) = some items := by
  change (items.map write).mapM read = some items
  induction items with
  | nil => rfl
  | cons item items ih => simp [h, ih]

/-- `_database_value` of a value that is not `None`. -/
def databaseValue : (field : Field) → field.type → SqlValue
  | .bool _, value => .integer (if value then 1 else 0)
  | .int _, value => .integer value
  | .float _, value => .real value
  | .text _, value => .text value
  | .operation _, value => .text (TextLabel.text (L := OperationLabel) value)
  | .phase _, value => .text (TextLabel.text (L := WorkflowPhase) value)
  | .participant _, value => .text (TextLabel.text (L := WorkflowParticipant) value)
  | .jobStatus _, value => .text (TextLabel.text (L := JobStatus) value)
  | .harnessKind, value => .text (TextLabel.text (L := HarnessKind) value)
  | .workflowTier, value => .text (TextLabel.text (L := WorkflowTier) value)
  | .reviewDecision, value => .text (TextLabel.text (L := ReviewDecision) value)
  | .reviewApprovalSource, value => .text (TextLabel.text (L := ReviewApprovalSource) value)
  | .planApprovalState, value => .text (TextLabel.text (L := PlanApprovalState) value)
  | .planApprovalSource, value => .text (TextLabel.text (L := PlanApprovalSource) value)
  | .participantAdmissionState, value =>
    .text (TextLabel.text (L := ParticipantAdmissionState) value)
  | .sessionControl, value => .text (TextLabel.text (L := SessionControlMode) value)
  | .announcementAck, value => .text (TextLabel.text (L := AnnouncementAck) value)
  | .targetReleaseUnverifiedTargets, value => .document (.arr (value.map fun target ↦ .str target.1))
  | .participantSessionOwners, value => .document (.arr (value.map SessionOwner.toJson))
  | .groupedRepositoryTargets, value => .document (.arr (value.map .obj))
  | .structured _, value => .document value
  | .other _, value => .document value

/-- `_model_value`, and the reading of the value by `from_dict`. -/
def modelValue : (field : Field) → SqlValue → Option field.type
  | .bool _, .integer value => some (value ≠ 0)
  | .int _, .integer value => some value
  | .float _, .real value => some value
  | .text _, .text value => some value
  | .operation _, .text value => TextLabel.ofText? (L := OperationLabel) value
  | .phase _, .text value => TextLabel.ofText? (L := WorkflowPhase) value
  | .participant _, .text value => TextLabel.ofText? (L := WorkflowParticipant) value
  | .jobStatus _, .text value => TextLabel.ofText? (L := JobStatus) value
  | .harnessKind, .text value => TextLabel.ofText? (L := HarnessKind) value
  | .workflowTier, .text value => TextLabel.ofText? (L := WorkflowTier) value
  | .reviewDecision, .text value => TextLabel.ofText? (L := ReviewDecision) value
  | .reviewApprovalSource, .text value => TextLabel.ofText? (L := ReviewApprovalSource) value
  | .planApprovalState, .text value => TextLabel.ofText? (L := PlanApprovalState) value
  | .planApprovalSource, .text value => TextLabel.ofText? (L := PlanApprovalSource) value
  | .participantAdmissionState, .text value =>
    TextLabel.ofText? (L := ParticipantAdmissionState) value
  | .sessionControl, .text value => TextLabel.ofText? (L := SessionControlMode) value
  | .announcementAck, .text value => TextLabel.ofText? (L := AnnouncementAck) value
  | .targetReleaseUnverifiedTargets, .document value => items? targetName? value
  | .participantSessionOwners, .document value => items? SessionOwner.ofJson? value
  | .groupedRepositoryTargets, .document value => items? grouped? value
  | .structured _, .document value => some value
  | .other _, .document value => some value
  | _, _ => none

/-- A stored value is read back as it was. -/
@[simp] theorem modelValue_databaseValue (field : Field) (value : field.type) :
    modelValue field (databaseValue field value) = some value := by
  cases field with
  | bool field => cases value <;> rfl
  | targetReleaseUnverifiedTargets =>
    exact items?_map (fun target ↦ by simp [targetName?, target.2]) value
  | participantSessionOwners => exact items?_map SessionOwner.ofJson?_toJson value
  | groupedRepositoryTargets => exact @items?_map Dict grouped? Json.obj (fun _ ↦ rfl) value
  | int _ | float _ | text _ | structured _ | other _ => rfl
  | _ => exact TextLabel.ofText?_text value

/-- A value is never stored as `NULL`. -/
theorem databaseValue_ne_null (field : Field) (value : field.type) :
    databaseValue field value ≠ .null := by
  cases field <;> simp [databaseValue]

/-- `_database_value` of a cell. -/
def databaseCell (field : Field) : Cell field.type → SqlValue
  | .absent | .null => .null
  | .val value => databaseValue field value

/-- What `load_job` reads for a field. -/
def modelCell (field : Field) (present : Bool) (column : SqlValue) : Cell field.type :=
  if present then .ofOption (modelValue field column) else .absent

/-- A cell is read back as it was. -/
theorem modelCell_databaseCell (field : Field) (cell : Cell field.type) :
    modelCell field cell.isPresent (databaseCell field cell) = cell := by
  cases cell with
  | absent => rfl
  | null => cases field <;> rfl
  | val value =>
    change Cell.ofOption (modelValue field (databaseValue field value)) = _
    rw [modelValue_databaseValue]
    rfl

/-- An integer column takes a signed 64-bit value. -/
def fitsInteger (value : ℤ) : Bool := -2 ^ 63 ≤ value && value < 2 ^ 63

def SqlValue.fits : SqlValue → Bool
  | .integer value => fitsInteger value
  | .null | .real _ | .text _ | .document _ => true

end VoiceHarness
