import VoiceHarness.Job.Transition

/-!
# Evolving a job

The ways a job gets its next revision: `new`, `evolve`, `transition` and `evolve_recovery`. Each
builds the next record from the changes, passes it through `from_dict` and checks it with
`validate_transition`; the record builders are definitions of their own, so that what a field of the
next record holds can be read off them.

A typed operation among the changes is the fields it flattens to, after the other changes.
-/

set_option autoImplicit false
set_option relaxedAutoImplicit false

namespace VoiceHarness

/-! ### Flattened operations -/

/-- `checkout_fields`. -/
def CheckoutOperation.fields (operation : CheckoutOperation) : List Change :=
  [.put (.operation .worktreeProvisionState) (some operation.state.label),
    .put (.text .repository) (some operation.spec.repository),
    .put (.text .worktreeBranch) (some operation.spec.branch),
    .put (.text .worktreePath) (some operation.spec.path),
    .put (.text .worktreeWorkspaceId) operation.workspaceId,
    .put (.text .worktreeRootPaneId) operation.rootPaneId]

/-- `agent_session_fields`. -/
def AgentSessionOperation.fields (operation : AgentSessionOperation) : List Change :=
  [.put (.operation .agentDispatchState) (some operation.state.label),
    .put (.text .agentOperationTarget) (some operation.spec.target),
    .put (.text .agentOperationCheckout) (some operation.spec.checkout),
    .put (.text .agentOperationWorkspaceId) (some operation.spec.workspaceId),
    .put (.text .agentOperationPaneId) (some operation.spec.paneId)] ++
  match operation.session with
  | none => []
  | some session =>
    [.put (.text .agentProvider) (some session.provider),
      .put (.text .agentProviderSessionId) (some session.sessionId),
      .put (.int .agentStateSequence) (some (session.stateSequence : ℤ))]

/-- `cleanup_fields`. -/
def CleanupState.fields (state : CleanupState) : List Change :=
  let owner : Option CleanupOwner :=
    match state with
    | .owned _ owner _ => some owner
    | .settled | .reconciling | .pending .. => none
  let release : Bool × Option String × Bool :=
    match state with
    | .settled => (false, none, false)
    | .reconciling => (false, none, true)
    | .pending token reconciliationPending => (true, token, reconciliationPending)
    | .owned token _ reconciliationPending => (true, token, reconciliationPending)
  [.put (.bool .targetReleasePending) (some release.1),
    .put (.text .targetReleaseToken) release.2.1,
    .put (.bool .cancellationReconciliationPending) (some release.2.2),
    .put (.int .targetReleaseOwnerPid) (owner.map (·.pid)),
    .put (.text .targetReleaseOwnerBootId) (owner.map (·.bootId)),
    .put (.text .targetReleaseOwnerStart) (owner.map (·.start))]

/-- `delivery_fields`. -/
def DeliveryState.fields (state : DeliveryState) : List Change :=
  let attempts : ℤ :=
    match state with
    | .pending _ _ attempts _ | .claimed _ _ _ _ attempts _ | .delivered _ _ attempts _ => attempts
  let claim : Option (String × Time) :=
    match state with
    | .claimed _ token claimedAt .. => some (token, claimedAt)
    | .pending .. | .delivered .. => none
  let retryAt : Time :=
    match state with
    | .pending _ retryAt .. | .claimed _ _ _ retryAt .. => retryAt
    | .delivered .. => 0
  [.put (.int .deliveryGeneration) (some state.generation),
    .put (.int .deliveryAttempts) (some attempts),
    .put .announcementAck (some state.announcement.acknowledgement),
    .put (.bool .announcementRepeated) (some state.announcement.repeated),
    .put (.text .deliveryClaimToken) (claim.map Prod.fst),
    .put (.float .deliveryClaimedAt) (claim.map Prod.snd),
    .put (.float .deliveryRetryAt) (some retryAt)] ++
  match state with
  | .delivered _ deliveredAt .. =>
    [.put (.bool .delivered) (some true), .put (.float .deliveredAt) deliveredAt]
  | .pending .. | .claimed .. => [.put (.bool .delivered) (some false)]

/-! ### The steps of a record builder -/

/-- `field in changes`. -/
def mentions (changes : List Change) (field : Field) : Bool :=
  changes.any fun change ↦ change.1 = field

namespace Values

variable (values : Values)

/-- `_pair_announcement_ack`. -/
def pairAnnouncementAck : Values :=
  let ack := values.get .announcementAck
  if values.bool .delivered then
    if ack = none ∨ ack = some .pending then
      values.set .announcementAck
        (.val (if values.bool .announcementDismissed then .dismissed else .spoken))
    else values
  else if ack = some .spoken ∨ ack = some .dismissed then
    values.set .announcementAck (.val .pending)
  else values

/-- The fields of a worker claim besides its token. -/
def claimFields : List Change :=
  [⟨.int .workerPid, .null⟩, ⟨.text .workerBootId, .null⟩, ⟨.text .workerProcessStart, .null⟩,
    ⟨.text .workerClaimOperation, .null⟩, ⟨.float .workerClaimedAt, .null⟩]

/-- `_pair_worker_ownership`. -/
def pairWorkerOwnership : Values :=
  if !(values (.float .workerClaimedAt)).isPresent then values
  else if (values.text .workerToken).isNone then values.update claimFields
  else if (values.text .workerClaimOperation).isNone then
    values.set (.text .workerClaimOperation)
      (.val (((values.get (.jobStatus .status)).map JobStatus.value).getD "worker"))
  else values

/-- The two names of the session target follow each other. -/
def pairSession (changes : List Change) : Values :=
  let target := mentions changes (.text .herdrTarget)
  let session := mentions changes (.text .sessionId)
  if target && !session then values.set (.text .sessionId) (values (.text .herdrTarget))
  else if session && !target then values.set (.text .herdrTarget) (values (.text .sessionId))
  else values

/-- The status, schema version and revision of the next record. -/
def stamp (status : JobStatus) (revision : ℤ) : Values :=
  values.update
    [.put (.jobStatus .status) (some status),
      .put (.int .schemaVersion) (some currentSchemaVersion),
      .put (.int .revision) (some revision)]

/-- The slot is given up when the prompt or the pane it names is gone. -/
def releaseManualSlot : Values :=
  let slot := values.text .manualReconcileOperation
  if (values.operation .promptOperationState = some .none && slot = some "prompt") ||
      (values.operation .participantCreationState = some .none && slot = some "pane") then
    values.update
      [⟨.text .manualReconcileOperation, .null⟩, ⟨.text .manualReconcileToken, .null⟩]
  else values

end Values

/-! ### Texts of a recovery -/

/-- `text.split(separator, 1)[0]`. -/
def splitHead (separator : List Char) : List Char → List Char
  | [] => []
  | c :: rest =>
    if separator.isPrefixOf (c :: rest) then [] else c :: splitHead separator rest

def beforeText (text separator : String) : String :=
  String.ofList (splitHead separator.toList text.toList)

/-- `text[:500]`. -/
def clip (text : String) : String := String.ofList (text.toList.take 500)

/-- The first of two optional texts that is not empty. -/
def firstText (first second : Option String) : Option String :=
  if truthy first then first else second

/-! ### New jobs -/

/-- `NewAgentJob`; the optional fields are a record of their own. -/
structure NewAgentJob where
  id : String
  request : String
  createdAt : Time
  foregroundUntil : Time
  harnessKind : HarnessKind
  details : Values

namespace NewAgentJob

/-- The optional fields of the spec. -/
def detailFields : List Field :=
  [.text .parentJobId, .text .issueProvider, .text .sessionId, .text .utterance,
    .text .trustedUtterance, .text .repositoryHint, .text .contextRepository, .text .repository,
    .text .githubRepository, .int .githubIssue, .text .githubIssueUrl, .text .githubIssueContext,
    .bool .githubIssueCreateRequested, .text .githubIssueCreateTitle,
    .text .githubIssueCreateBody, .text .githubIssueCreateMarker, .bool .githubPrCreateRequested,
    .bool .githubPrMergeRequested, .int .githubPrMergeNumber, .bool .githubRepoCreateRequested,
    .bool .githubRepoCreateOrgRequested, .bool .githubIssueUpdateRequested,
    .bool .githubIssueCloseRequested, .bool .githubIssueSplitRequested,
    .bool .githubIssueMergeRequested, .bool .linearTicketCreateRequested,
    .bool .linearTicketUpdateRequested, .bool .linearTicketCloseRequested,
    .bool .linearTicketSplitRequested, .bool .linearTicketMergeRequested,
    .text .ticketMergeSurvivor, .text .ticketMergeClosing, .text .linearTicketCreateTeam,
    .text .linearTicketCreateTeamId, .text .linearTicketCreateTitle,
    .text .linearTicketCreateDescription, .text .linearTicketCreateMarker, .bool .forkRequested,
    .int .githubPullRequest, .text .worktreeBranch, .text .worktreeLabel, .text .worktreePath,
    .text .worktreeWorkspaceId, .text .worktreeRootPaneId, .operation .worktreeProvisionState,
    .text .pullRequestWorktreeState, .text .agentHint, .text .issueKey, .text .speakableLabel]

/-- An optional field of the spec; a flag is off where it is not given. -/
def detail (spec : NewAgentJob) : (field : Field) → Cell field.type
  | .bool field => .val (spec.details.bool field)
  | field => .ofOption (spec.details.get field)

/-- The record of a new job. -/
def record (spec : NewAgentJob) : Values :=
  let details : Values := Values.empty.update
    (detailFields.map fun field ↦ ⟨field, spec.detail field⟩)
  details.update
    [.put (.text .id) (some spec.id),
      .put (.int .schemaVersion) (some currentSchemaVersion),
      .put .harnessKind (some spec.harnessKind),
      .put (.int .revision) (some 0),
      .put (.text .request) (some spec.request),
      .put (.jobStatus .status) (some .queued),
      .put (.bool .delivered) (some false),
      .put (.float .createdAt) (some spec.createdAt),
      .put (.float .queuedAt) (some spec.createdAt),
      .put (.float .foregroundUntil) (some spec.foregroundUntil),
      .put (.phase .workflowPhase) (some .classifying),
      .put (.int .reviewRound) (some 0),
      .put .participantAdmissionState (some .waiting)]

end NewAgentJob

namespace AgentJob

variable [TextLibrary]

/-- `new`. -/
def new (spec : NewAgentJob) : Checked AgentJob := fromDict spec.record

variable (job : AgentJob)

/-! ### Evolutions -/

/-- The record `evolve` builds. -/
def evolvedRecord (changes : List Change) (status : Option JobStatus) (remove : List Field) :
    Values :=
  let changed := ((job.values.popAll remove).update changes).pairAnnouncementAck.pairWorkerOwnership
  let fenced := if mentions changes (.operation .promptOperationState) then
    changed.popAll [.bool .phasePromptActive] else changed
  (fenced.releaseManualSlot.pairSession changes).stamp (status.getD job.values.status)
    (job.values.revision + 1)

/-- `evolve`. -/
def evolve (changes : List Change) (status : Option JobStatus := none)
    (remove : List Field := []) : Checked AgentJob := do
  let updated ← fromDict (job.evolvedRecord changes status remove)
  validateTransition job updated
  .ok updated

/-- `transition`. -/
def transition (status : JobStatus) (changes : List Change) : Checked AgentJob :=
  if status ≠ job.values.status ∧ status ∉ job.values.status.legalEdges then
    .error s!"illegal Cursor job transition {job.values.status.value} -> {status.value}"
  else do
    let changed := ((job.values.update changes).pairWorkerOwnership).pairSession changes
    let revision := if mentions changes (.int .revision) then changed.revision
      else job.values.revision + 1
    let updated ← fromDict (changed.stamp status revision)
    validateTransition job updated
    .ok updated

variable {job} {next : AgentJob}

/-- An evolution is read from its record and is a legal change of the job. -/
theorem evolve_ok {changes : List Change} {status : Option JobStatus} {remove : List Field}
    (h : job.evolve changes status remove = .ok next) :
    fromDict (job.evolvedRecord changes status remove) = .ok next ∧
      validateTransition job next = .ok () := by
  obtain ⟨updated, hupdated, h⟩ := checked_bind_eq_ok_iff.mp h
  obtain ⟨⟨⟩, hvalid, h⟩ := checked_bind_eq_ok_iff.mp h
  cases h
  exact ⟨hupdated, hvalid⟩

/-- A transition is read from the changed record under its status. -/
theorem transition_ok {status : JobStatus} {changes : List Change}
    (h : job.transition status changes = .ok next) :
    ∃ revision, fromDict ((((job.values.update changes).pairWorkerOwnership).pairSession
        changes).stamp status revision) = .ok next ∧ validateTransition job next = .ok () := by
  unfold transition at h
  rw [if_neg fun hillegal ↦ by simp [if_pos hillegal] at h] at h
  obtain ⟨updated, hupdated, h⟩ := checked_bind_eq_ok_iff.mp h
  obtain ⟨⟨⟩, hvalid, h⟩ := checked_bind_eq_ok_iff.mp h
  cases h
  exact ⟨_, hupdated, hvalid⟩

variable (job)

/-- `isinstance(self.terminal_state, MaterializedTerminalOutcome)`. -/
def isMaterialized : Bool :=
  match job.values.terminalState with
  | .ok state => state.isMaterialized
  | .error _ => false

/-- What a message names as the thing to reconcile. -/
def manualResource (values : Values) (operation : String) : String :=
  let named := fun field : TextField ↦ orElse (values.text field) "unknown"
  if operation = "agent" then "Herdr agent " ++ named .herdrTarget
  else if operation = "fork" then "GitHub fork " ++ named .forkOperationTarget
  else if operation = "pane" then
    ((values.participantCreationParticipant.map WorkflowParticipant.value).getD "workflow") ++
      " pane target " ++ named .participantCreationTarget
  else "worktree " ++ named .worktreePath

/-- The texts of a recovery, and whether the delivery is to be prepared for them. -/
def recoveryTexts (values : Values) (status : JobStatus) : List Change × Bool :=
  let operation := values.textOrEmpty .manualReconcileOperation
  let base := fun text : Option String ↦ beforeText
    (orElse text "Cursor job failed") "; external operation reconciliation"
  if job.isMaterialized then
    if operation ≠ "" ∨ status = .failed then
      ([.put (.text .reconciliationBaseError) (some (base (firstText
        (job.values.text .reconciliationBaseError)
        (firstText (job.values.text .error) (job.values.text .result)))))], false)
    else ([], false)
  else if status.isTerminal ∧ operation ≠ "" then
    let cause := beforeText (base (firstText (values.text .reconciliationBaseError)
      (if status = .failed then values.text .error else values.text .result)))
      "; manual reconciliation required"
    let message := clip (cause ++ "; manual reconciliation required for " ++
      manualResource values operation)
    ([.put (.text .reconciliationBaseError) (some cause), .put (.text .result) (some message)] ++
        (if status = .failed then [.put (.text .error) (some message)] else []),
      values.text .result ≠ some message ||
        (status = .failed && values.text .error ≠ some message))
  else if status = .failed then
    let cause := base (firstText (values.text .reconciliationBaseError) (values.text .error))
    let pending := [OperationField.agentDispatchState, .forkOperationState,
      .worktreeProvisionState].any values.isUncertain
    let message := clip (if pending then
      cause ++ "; external operation reconciliation is pending" else cause)
    ([.put (.text .reconciliationBaseError) (some cause), .put (.text .error) (some message),
      .put (.text .result) (some message)],
      values.text .error ≠ some message || values.text .result ≠ some message)
  else ([], false)

/-- A materialised outcome keeps its status, result, error and time. -/
def keepOutcome (values : Values) : Values :=
  values.update
    [.put (.jobStatus .status) (some job.values.status),
      ⟨.text .result, job.values (.text .result)⟩, ⟨.text .error, job.values (.text .error)⟩,
      ⟨.float .completedAt, job.values (.float .completedAt)⟩]

/-- The fields of a prepared delivery. -/
def preparedDelivery (now : Time) : List Change :=
  match job.values.deliveryState with
  | .ok state => (prepareDelivery state).fields ++ [.put (.float .updatedAt) (some now)]
  | .error _ => []

/-- The record `evolve_recovery` builds. -/
def recoveredRecord (changes : List Change) (now : Time) (status : Option JobStatus)
    (remove : List Field) (prepareDelivery : Bool) : Values :=
  let changed := ((job.values.popAll remove).update changes).pairWorkerOwnership
  let fenced := if (changed (.operation .promptOperationState)).isPresent then
    changed.popAll [.bool .phasePromptActive] else changed
  let final := status.getD job.values.status
  let values := (fenced.pairSession changes).update [.put (.jobStatus .status) (some final)]
  let texts := job.recoveryTexts values final
  let told := values.update texts.1
  let kept := if job.isMaterialized then job.keepOutcome told else told
  let delivered := if prepareDelivery || texts.2 then
    kept.update (job.preparedDelivery now) else kept
  delivered.update
    [.put (.int .schemaVersion) (some currentSchemaVersion),
      .put (.int .revision) (some (job.values.revision + 1))]

/-- `evolve_recovery`. -/
def evolveRecovery (changes : List Change) (now : Time) (status : Option JobStatus := none)
    (remove : List Field := []) (prepareDelivery : Bool := false) : Checked AgentJob := do
  let updated ← fromDict (job.recoveredRecord changes now status remove prepareDelivery)
  let event : JobEvent :=
    { kind := .recovery
      expectedRevision := job.values.revision
      nextState := ← updated.values.lifecycle }
  let recovered := { updated with lifecycleEvent := some event }
  validateTransition job recovered
  .ok recovered

variable {job}

/-- A recovery is read from its record, and carries the event it is checked under. -/
theorem evolveRecovery_ok {changes : List Change} {now : Time} {status : Option JobStatus}
    {remove : List Field} {prepareDelivery : Bool}
    (h : job.evolveRecovery changes now status remove prepareDelivery = .ok next) :
    ∃ updated, fromDict (job.recoveredRecord changes now status remove prepareDelivery) =
      .ok updated ∧ next.values = updated.values ∧ validateTransition job next = .ok () := by
  obtain ⟨updated, hupdated, h⟩ := checked_bind_eq_ok_iff.mp h
  obtain ⟨state, -, h⟩ := checked_bind_eq_ok_iff.mp h
  obtain ⟨⟨⟩, hvalid, h⟩ := checked_bind_eq_ok_iff.mp h
  cases h
  exact ⟨updated, hupdated, rfl, hvalid⟩

end AgentJob

end VoiceHarness
