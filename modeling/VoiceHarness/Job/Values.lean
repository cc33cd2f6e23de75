import VoiceHarness.Job.Labels
import Mathlib.Logic.Function.Basic

/-!
# The flat job record

A job is stored as one flat mapping of a few hundred fields. `Field` names them by the type of their
values, following the `_BOOL_FIELDS`, `_INT_FIELDS`, `_FLOAT_FIELDS` and `_STRING_FIELDS` of
`cursor/model.py`; the name of a constructor is the field's name in camel case. The mapping is open,
so a field outside these lists is `Field.other` with its name. A field may be absent, or present and
`None`, or present with a value (`Cell`).

The values are those `from_dict` leaves behind: of the field's type, and a label of the vocabulary
where the field has one.
-/

set_option autoImplicit false
set_option relaxedAutoImplicit false

namespace VoiceHarness

/-- `_BOOL_FIELDS`. -/
inductive BoolField
  | continuation | reconcile | interactiveQuestionnaireBlocked | announcementDismissed
  | announcementRepeated | delivered | planApprovalCompletionPending | planApprovalCounted
  | reviewApproved | cloneConfirmed | forkCommitted | forkConfirmed | forkDispatchExited
  | forkExists | forkOperationSourcePrivate | forkRequested | worktreeDispatchExited
  | worktreeManualInspectionRequired | githubIssueCloseConfirmed | githubIssueCloseRequested
  | githubIssueSplitRequested | githubIssueMergeRequested | githubIssueCreateConfirmed
  | githubIssueCreateRequested | githubIssueUpdateConfirmed | githubIssueUpdateRequested
  | githubPrCreateConfirmed | githubPrCreateRequested | githubPrMergeConfirmed
  | githubPrMergeRequested | githubRepoCreateConfirmed | githubRepoCreateContinueWorkflow
  | githubRepoCreateOrgRequested | githubRepoCreateRequested | linearTicketCloseConfirmed
  | linearTicketCloseRequested | linearTicketSplitRequested | linearTicketMergeRequested
  | linearTicketCreateConfirmed | linearTicketCreateRequested | linearTicketUpdateConfirmed
  | linearTicketUpdateRequested | ticketSplitConfirmed | ticketMergeConfirmed
  | agentDispatchExited | cancellationReconciliationPending | targetReleaseManualRequired
  | targetReleasePending | phasePromptActive | agentIdentityLegacyCompatible
  deriving DecidableEq, Repr

/-- `_INT_FIELDS`. -/
inductive IntField
  | revision | promptBaselineSequence | promptOperationTurn | turn | deliveryAttempts
  | deliveryGeneration | planApprovalRevision | planApprovalStateChangeSequence | reviewRound
  | forkAbsentObservations | forkReconcileAttempts | worktreeAbsentObservations
  | worktreeReconcileAttempts | githubIssue | githubIssueCreatedNumber | githubPrCreatedNumber
  | githubPrMergeNumber | githubPullRequest | linearTicketCloseBaselineSequence
  | linearTicketCreateBaselineSequence | linearTicketUpdateBaselineSequence
  | ticketSplitBaselineSequence | ticketMergeBaselineSequence | agentAbsentObservations
  | agentReconcileAttempts | agentStateSequence | sessionControlGeneration
  | targetReleaseOwnerPid | workerPid | schemaVersion | migrationSourceSchemaVersion
  deriving DecidableEq, Repr

/-- `_FLOAT_FIELDS`. -/
inductive FloatField
  | createdAt | updatedAt | queuedAt | startedAt | completedAt | foregroundUntil
  | terminalIntentCompletedAt | deliveredAt | deliveryClaimedAt | deliveryRetryAt
  | forkAutomaticReconcileStoppedAt | forkCommittedAt | forkConfirmedAbsentAt
  | forkLastReconciledAt | forkNextReconcileAt | forkRetainedAt
  | worktreeAutomaticReconcileStoppedAt | worktreeConfirmedAbsentAt | worktreeLastReconciledAt
  | worktreeNextReconcileAt | worktreeQuarantineAcknowledgedAt | worktreeRetainedAt
  | agentAutomaticReconcileStoppedAt | agentConfirmedAbsentAt | agentLastReconciledAt
  | agentNextReconcileAt | agentRetainedAt | attemptStartedAt | manualReconcileRequiredAt
  | manualReconcileResolvedAt | nextReconcileAt | paneRetainedAt | workerClaimedAt
  deriving DecidableEq, Repr

/-- The `_STRING_FIELDS` whose values are free text. -/
inductive TextField
  | id | parentJobId | issueProvider | request | utterance | trustedUtterance
  | continuationAnswer | contextRepository | repositoryHint | speakableLabel
  | groupedRepositoryCoordinatorId | clarificationKind | promptOperationAgentSession
  | promptOperationTarget | question | turnToken | error | result | terminalIntentError
  | terminalIntentResult | deliveryClaimToken | implementerTarget | participantCreationCheckout
  | participantCreationLabel | participantCreationPaneId | participantCreationTarget
  | participantCreationWorkspaceId | planApprovalAgentSession | planApprovalId
  | planApprovalPlanArtifact | planApprovalReviewArtifact | planArtifact | plannerTarget
  | reviewArtifact | reviewerTarget | workflowClassificationReason | cloneSource
  | forkOperationLogin | forkOperationSource | forkOperationSourceDefaultBranch
  | forkOperationSourceParent | forkOperationSourceUrl | forkOperationTarget | forkRepository
  | pullRequestBranch | pullRequestHeadOid | pullRequestHeadRef | pullRequestRemoteUrl
  | pullRequestWorktreeError | pullRequestWorktreeState | repository | worktreeBranch
  | worktreeLabel | worktreePath | worktreeProvisionError | worktreeRootPaneId
  | worktreeWorkspaceId | githubIssueCloseMarker | githubIssueContext | githubIssueCreateBody
  | githubIssueCreateMarker | githubIssueCreateTitle | githubIssueCreatedUrl
  | githubIssueUpdateBody | githubIssueUpdateBaseBody | githubIssueUpdateBaseRevision
  | githubIssueUpdateBaseTitle | githubIssueUpdateMarker | githubIssueUpdateTitle
  | githubIssueUrl | githubPrCreateBody | githubPrCreateCommitSubject | githubPrCreateBase
  | githubPrCreateHeadOid | githubPrCreatePublishedHeadOid | githubPrCreateHeadRepository
  | githubPrCreateCheckoutOrigin | githubPrCreateStatusDigest | githubPrCreateMarker
  | githubPrCreateTitle | githubPrCreatedUrl | githubPrMergeMarker | githubPrMergeMethod
  | githubPrMergeSnapshot | githubPrMergeUrl | githubRepoCreateMarker | githubRepoCreateOwner
  | githubRepoCreateVisibility | githubRepoCreatedUrl | githubRepository | issueKey
  | linearTicketCloseIssueId | linearTicketCloseMarker | linearTicketClosePromptSession
  | linearTicketClosePromptTarget | linearTicketClosePromptToken
  | linearTicketCloseTerminalStateId | linearTicketCloseTerminalStateName
  | linearTicketCreateDescription | linearTicketCreateMarker | linearTicketCreatePromptSession
  | linearTicketCreatePromptTarget | linearTicketCreatePromptToken | linearTicketCreateTeam
  | linearTicketCreateTeamId | linearTicketCreateTitle | linearTicketCreatedIdentifier
  | linearTicketCreatedUrl | linearTicketUpdateDescription | linearTicketUpdateBaseDescription
  | linearTicketUpdateBaseRevision | linearTicketUpdateBaseTitle | linearTicketUpdateIssueId
  | linearTicketUpdateMarker | linearTicketUpdatePromptSession | linearTicketUpdatePromptTarget
  | linearTicketUpdatePromptToken | linearTicketUpdateTitle | ticketSplitChildren
  | ticketSplitParentAction | ticketSplitParentBody | ticketSplitParentIssueId
  | ticketSplitParentMarker | ticketSplitParentTerminalStateId
  | ticketSplitParentTerminalStateName | ticketSplitParentTitle | ticketSplitPromptSession
  | ticketSplitPromptTarget | ticketSplitPromptToken | ticketSplitTeam | ticketSplitTeamId
  | ticketMergeClosing | ticketMergeSnapshots | ticketMergePromptSession
  | ticketMergePromptTarget | ticketMergePromptToken | ticketMergeSurvivor
  | ticketMergeSurvivorBody | ticketMergeSurvivorIssueId | ticketMergeSurvivorMarker
  | ticketMergeSurvivorTitle | agentHint | agentName | agentOperationCheckout
  | agentOperationPaneId | agentOperationTarget | agentOperationWorkspaceId | agentProvider
  | agentProviderSessionId | herdrPaneId | herdrTarget | herdrWorkspaceId
  | manualReconcileOperation | manualReconcileOutcome | manualReconcileToken
  | reconciliationBaseError | sessionId | targetReleaseOwnerBootId | targetReleaseOwnerStart
  | targetReleaseToken | workerBootId | workerClaimOperation | workerOperation
  | workerProcessStart | workerToken
  deriving DecidableEq, Repr

/-- The `_STRING_FIELDS` that hold the state of an external operation. -/
inductive OperationField
  | agentDispatchState | forkOperationState | worktreeProvisionState | cloneOperationState
  | githubIssueCreateOperationState | githubPrCreateOperationState | githubPrMergeOperationState
  | githubRepoCreateOperationState | githubIssueUpdateOperationState
  | githubIssueCloseOperationState | linearTicketCreateOperationState
  | linearTicketUpdateOperationState | linearTicketCloseOperationState
  | ticketSplitOperationState | ticketSplitParentOperationState | ticketMergeOperationState
  | ticketMergeSurvivorOperationState | promptOperationState | participantCreationState
  deriving DecidableEq, Repr

/-- The fields that hold a workflow phase. -/
inductive PhaseField
  | workflowPhase | workflowTurnPhase | promptOperationPhase
  deriving DecidableEq, Repr

/-- The fields that hold a workflow participant. -/
inductive ParticipantField
  | activeParticipant | participantCreationParticipant
  deriving DecidableEq, Repr

/-- The fields that hold a job status. -/
inductive StatusField
  | status | terminalIntentStatus
  deriving DecidableEq, Repr

/-- `_STRUCTURED_FIELDS` no modelled function looks into. -/
inductive StructuredField
  | groupedRepositoryCandidates | groupedRepositoryLaunches | clarifications
  | promptContextSessions | promptManifest | voiceQuestion
  deriving DecidableEq, Repr

/-- One entry of `participant_session_owners`; `from_dict` refuses an entry with an empty text or a
negative sequence. -/
structure SessionOwner where
  provider : String
  sessionId : String
  target : String
  stateSequence : ℕ
  checkout : String
  workspaceId : String
  paneId : String
  nonempty : provider ≠ "" ∧ sessionId ≠ "" ∧ target ≠ "" ∧ checkout ≠ "" ∧
    workspaceId ≠ "" ∧ paneId ≠ ""
  deriving DecidableEq

/-- One entry of `target_release_unverified_targets`, which are never empty. -/
abbrev TargetName := { target : String // target ≠ "" }

inductive Field
  | bool (field : BoolField)
  | int (field : IntField)
  | float (field : FloatField)
  | text (field : TextField)
  | operation (field : OperationField)
  | phase (field : PhaseField)
  | participant (field : ParticipantField)
  | jobStatus (field : StatusField)
  | harnessKind | workflowTier | reviewDecision | reviewApprovalSource | planApprovalState
  | planApprovalSource | participantAdmissionState | sessionControl | announcementAck
  | targetReleaseUnverifiedTargets | participantSessionOwners | groupedRepositoryTargets
  | structured (field : StructuredField)
  | other (name : String)
  deriving DecidableEq, Repr

/-- The type of a field's values. -/
abbrev Field.type : Field → Type
  | bool _ => Bool
  | int _ => ℤ
  | float _ => Time
  | text _ => String
  | operation _ => OperationLabel
  | phase _ => WorkflowPhase
  | participant _ => WorkflowParticipant
  | jobStatus _ => JobStatus
  | harnessKind => HarnessKind
  | workflowTier => WorkflowTier
  | reviewDecision => ReviewDecision
  | reviewApprovalSource => ReviewApprovalSource
  | planApprovalState => PlanApprovalState
  | planApprovalSource => PlanApprovalSource
  | participantAdmissionState => ParticipantAdmissionState
  | sessionControl => SessionControlMode
  | announcementAck => AnnouncementAck
  | targetReleaseUnverifiedTargets => List TargetName
  | participantSessionOwners => List SessionOwner
  | groupedRepositoryTargets => List Dict
  | structured _ => Json
  | other _ => Json

/-- The field is a key outside the vocabulary. -/
def Field.isOther : Field → Bool
  | other _ => true
  | _ => false

/-- What a mapping holds under one key. -/
inductive Cell (α : Type)
  | absent | null | val (value : α)
  deriving DecidableEq, Repr

namespace Cell

variable {α : Type}

/-- `mapping.get(key)`. -/
def get? : Cell α → Option α
  | absent | null => none
  | val value => some value

/-- The cell of `mapping[key] = value`. -/
def ofOption : Option α → Cell α
  | none => null
  | some value => val value

/-- `key in mapping`. -/
def isPresent : Cell α → Bool
  | absent => false
  | null | val _ => true

@[simp] theorem get?_absent : (absent : Cell α).get? = none := rfl

@[simp] theorem get?_null : (null : Cell α).get? = none := rfl

@[simp] theorem get?_val (value : α) : (val value).get? = some value := rfl

@[simp] theorem get?_ofOption (value : Option α) : (ofOption value).get? = value := by
  cases value <;> rfl

@[simp] theorem isPresent_ofOption (value : Option α) : (ofOption value).isPresent = true := by
  cases value <;> rfl

end Cell

/-- A flat record; `others` names the keys outside the vocabulary it may hold. -/
structure Values where
  cells : (field : Field) → Cell field.type
  others : List String
  absent_of_notMem : ∀ name, name ∉ others → cells (.other name) = .absent

instance : CoeFun Values fun _ ↦ (field : Field) → Cell field.type := ⟨Values.cells⟩

/-- One entry of the keyword arguments of an evolution, or of a dictionary of changes. -/
abbrev Change := (field : Field) × Cell field.type

/-- `field=value`. -/
def Change.put (field : Field) (value : Option field.type) : Change := ⟨field, .ofOption value⟩

@[simp] theorem Change.fst_put (field : Field) (value : Option field.type) :
    (Change.put field value).1 = field := rfl

namespace Values

/-- `{}`. -/
def empty : Values where
  cells _ := .absent
  others := []
  absent_of_notMem _ _ := rfl

/-- `values.get(field)`. -/
def get (values : Values) (field : Field) : Option field.type := (values field).get?

/-- `values[field] = value`, and `values.pop(field, None)` when the cell is absent. -/
def set (values : Values) (field : Field) (cell : Cell field.type) : Values where
  cells := Function.update values.cells field cell
  others :=
    match field with
    | .other name => name :: values.others
    | _ => values.others
  absent_of_notMem name h := by
    have hne : Field.other name ≠ field := by
      rintro rfl
      exact h List.mem_cons_self
    rw [Function.update_of_ne hne]
    refine values.absent_of_notMem name fun hmem ↦ h ?_
    cases field <;> first | exact hmem | exact List.mem_cons_of_mem _ hmem

/-- `values.update(changes)`. -/
def update (values : Values) (changes : List Change) : Values :=
  changes.foldl (fun values change ↦ values.set change.1 change.2) values

/-- `values.pop(field, None)` for each field. -/
def popAll (values : Values) (fields : List Field) : Values :=
  fields.foldl (fun values field ↦ values.set field .absent) values

/-- `values.setdefault(field, value)`. -/
def setDefault (values : Values) (field : Field) (value : Option field.type) : Values :=
  if (values field).isPresent then values else values.set field (.ofOption value)

@[simp] theorem empty_apply (field : Field) : empty field = .absent := rfl

@[simp] theorem set_self (values : Values) (field : Field) (cell : Cell field.type) :
    values.set field cell field = cell := Function.update_self ..

theorem set_of_ne (values : Values) {field other : Field} (cell : Cell field.type)
    (h : other ≠ field) : values.set field cell other = values other :=
  Function.update_of_ne h ..

@[simp] theorem update_nil (values : Values) : values.update [] = values := rfl

@[simp] theorem update_cons (values : Values) (change : Change) (changes : List Change) :
    values.update (change :: changes) = (values.set change.1 change.2).update changes := rfl

theorem update_append (values : Values) (first second : List Change) :
    values.update (first ++ second) = (values.update first).update second := List.foldl_append

/-- A field that is not changed keeps its cell. -/
theorem update_of_notMem (values : Values) {changes : List Change} {field : Field}
    (h : field ∉ changes.map Sigma.fst) : values.update changes field = values field := by
  induction changes generalizing values with
  | nil => rfl
  | cons change changes ih =>
    rw [List.map_cons, List.mem_cons, not_or] at h
    rw [update_cons, ih _ h.2, set_of_ne _ _ h.1]

/-- An update that gives each of some fields its own cell. -/
theorem update_map (values : Values) (fields : List Field)
    (cell : (field : Field) → Cell field.type) (field : Field) :
    values.update (fields.map fun field ↦ ⟨field, cell field⟩) field =
      if field ∈ fields then cell field else values field := by
  induction fields generalizing values with
  | nil => rfl
  | cons first fields ih =>
    rw [List.map_cons, update_cons, ih]
    by_cases htail : field ∈ fields
    · rw [if_pos htail, if_pos (List.mem_cons_of_mem _ htail)]
    · by_cases hfirst : field = first
      · subst hfirst
        rw [if_neg htail, if_pos List.mem_cons_self, set_self]
      · have hne : field ∉ first :: fields := fun h ↦
          (List.mem_cons.mp h).elim hfirst htail
        rw [if_neg htail, if_neg hne, set_of_ne _ _ hfirst]

/-- A field that is not popped keeps its cell. -/
theorem popAll_of_notMem (values : Values) {fields : List Field} {field : Field}
    (h : field ∉ fields) : values.popAll fields field = values field := by
  induction fields generalizing values with
  | nil => rfl
  | cons first fields ih =>
    rw [List.mem_cons, not_or] at h
    change (values.set first .absent).popAll fields field = _
    rw [ih _ h.2, set_of_ne _ _ h.1]

/-- A popped field is absent. -/
theorem popAll_of_mem (values : Values) {fields : List Field} {field : Field}
    (h : field ∈ fields) : values.popAll fields field = .absent := by
  induction fields generalizing values with
  | nil => exact absurd h List.not_mem_nil
  | cons first fields ih =>
    change (values.set first .absent).popAll fields field = _
    by_cases htail : field ∈ fields
    · exact ih _ htail
    · obtain rfl := (List.mem_cons.mp h).resolve_right htail
      rw [popAll_of_notMem _ htail, set_self]

theorem setDefault_of_ne (values : Values) {field other : Field} (value : Option field.type)
    (h : other ≠ field) : values.setDefault field value other = values other := by
  unfold setDefault
  split_ifs
  · rfl
  · exact set_of_ne _ _ h

end Values

end VoiceHarness
