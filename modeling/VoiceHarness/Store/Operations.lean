import VoiceHarness.Store.Save
import VoiceHarness.Job.Runs
import VoiceHarness.Library.Program
import VoiceHarness.Library.Machine

/-!
# The operations of the job store

The methods of `JobStore` in `cursor/store.py` that write jobs. Each is one SQLite transaction, a
program over the tables that `atomically` rolls back when it raises. The callables of a caller are
functions that may raise; what the files beside the database say is `StoreFiles`.

A run of the machine over any list of calls covers every interleaving of any number of processes,
since `BEGIN IMMEDIATE` makes one transaction follow another.
-/

set_option autoImplicit false
set_option relaxedAutoImplicit false

namespace VoiceHarness

open Library

/-- A program of one transaction. -/
abbrev StoreProgram (α : Type) := Program Database StoreError α

/-- A check of the model inside a transaction. -/
def checked {α : Type} (value : Checked α) : StoreProgram α :=
  valueOrRaise (value.mapError StoreError.validation)

/-- The program raises the first of the violations. -/
def refuse (violations : List (Bool × StoreError)) : StoreProgram PUnit :=
  match firstViolation violations with
  | some error => throw error
  | none => pure ⟨⟩

/-- `DurableEffect`, with the effect id drawn for its row. -/
structure DurableEffect where
  effectId : String
  kind : String
  idempotencyKey : String
  concurrencyKey : String
  payload : Dict

/-- `CoordinatorCommand`. -/
structure CoordinatorCommand where
  jobId : String
  expectedRevision : ℤ
  commandId : String
  kind : String
  deriving DecidableEq

/-- `CoordinatorCommand.__post_init__`. -/
def CoordinatorCommand.guards (command : CoordinatorCommand) : List Guard :=
  [(isBlank command.jobId || isBlank command.commandId, "command requires job_id and command_id"),
    (isBlank command.kind, "command requires kind"),
    (command.expectedRevision < 0, "expected revision must not be negative")]

/-- `CoordinatorDecision`, without the payload of its audit event. -/
structure CoordinatorDecision where
  job : AgentJob
  effects : List DurableEffect := []
  eventKind : String := "transition"

/-- The two reservations a quarantine can block. -/
inductive QuarantineReservation
  | target | worktree
  deriving DecidableEq

/-- What the artifact files and the quarantine say about a candidate. -/
structure StoreFiles where
  validateCandidateArtifacts : AgentJob → Option AgentJob → Checked Unit
  validateQuarantineReservation : QuarantineReservation → AgentJob → Checked Unit

namespace AgentJob

/-- `_has_legacy_worker_claim`. -/
def hasLegacyWorkerClaim (job : AgentJob) : Bool :=
  let ownership := [(job.values.text .workerToken).isSome, (job.values.int .workerPid).isSome,
    (job.values.text .workerBootId).isSome, (job.values.text .workerProcessStart).isSome]
  ownership.any (·) && (!ownership.all (·) || job.values.text .workerBootId = some "legacy-unknown")

/-- The record `_normalize_for_durable_write` reads again. -/
def durableRecord (job : AgentJob) : Values :=
  let owner : Values :=
    if job.values.text .targetReleaseOwnerBootId = some "legacy-unknown" then
      job.values.update
        [⟨.int .targetReleaseOwnerPid, .null⟩, ⟨.text .targetReleaseOwnerBootId, .null⟩,
          ⟨.text .targetReleaseOwnerStart, .null⟩]
    else job.values
  (owner.popAll [.int .migrationSourceSchemaVersion, .bool .phasePromptActive,
    .bool .agentIdentityLegacyCompatible]).set (.int .schemaVersion) (.val currentSchemaVersion)

/-- `_normalize_for_durable_write` of a record of the current schema. -/
def normalizeForDurableWrite [TextLibrary] (job : AgentJob) : Checked AgentJob :=
  if job.hasLegacyWorkerClaim then
    .error s!"{job.values.status.value} job requires complete current worker ownership"
  else do
    let normalized ← fromDict job.durableRecord
    .ok { normalized with lifecycleEvent := job.lifecycleEvent }

/-- `evolve_participant` without further changes. -/
def evolveParticipant [TextLibrary] (job : AgentJob) (lifecycle : ParticipantLifecycle) :
    Checked AgentJob :=
  job.evolve
    [.put .participantAdmissionState (some lifecycle.admission),
      .put (.operation .participantCreationState) (some lifecycle.creation.state.label),
      .put (.participant .participantCreationParticipant) lifecycle.creation.participant,
      .put (.text .participantCreationTarget) lifecycle.creation.target,
      .put (.text .participantCreationLabel) lifecycle.creation.label,
      .put (.text .participantCreationWorkspaceId) lifecycle.creation.workspaceId,
      .put (.text .participantCreationPaneId) lifecycle.creation.paneId]

/-- `_must_retain`. -/
def mustRetain (job : AgentJob) : Bool :=
  job.values.hasUncertainOperation || job.values.bool .targetReleasePending ||
    job.values.bool .cancellationReconciliationPending ||
    job.values.hasText .manualReconcileOperation ||
    job.values.bool .worktreeManualInspectionRequired ||
    (job.values.operation .worktreeProvisionState).any
      (· ∈ [OperationLabel.quarantined, .manualRequired]) ||
    job.values.text .pullRequestWorktreeState = some "quarantined"

/-- The jobs `prune` removes: terminal, delivered, completed before the cutoff, without a fence. -/
def isPrunable (job : AgentJob) (cutoff : Time) : Bool :=
  job.values.status.isTerminal && job.values.bool .delivered &&
    (job.values.float .completedAt).any (· < cutoff) && !job.mustRetain

end AgentJob

/-! ### Reading and writing one job -/

section Programs

variable [TextLibrary]

/-- `AgentJob.from_dict(self._db.load_job(connection, job_id))`. -/
def getJob (jobId : String) : StoreProgram AgentJob := do
  let raw ← valueOrRaise ((← get).loadJob jobId)
  checked (AgentJob.fromDict raw)

/-- The ids of the jobs in order. -/
def Database.jobIds (database : Database) : List String :=
  (database.jobs.map (·.jobId)).mergeSort fun first second ↦ decide (first ≤ second)

/-- Every job, read by `list_jobs`. -/
def listJobs : StoreProgram (List AgentJob) := do (← get).jobIds.mapM getJob

/-- `_save`. -/
def saveJob (job : AgentJob) : StoreProgram AgentJob := fun database ↦
  match database.save job.toDict with
  | (next, none) => .ok job next
  | (next, some error) => .error error next

/-- `delete_job`; every row of the job goes with it. -/
def deleteJob (jobId : String) : StoreProgram PUnit := modify fun database ↦
  { database with
    jobs := discard JobRow.jobId database.jobs jobId
    named := discard NamedRow.jobId database.named jobId
    reservations := discard ReservationEntry.jobId database.reservations jobId
    deliveryClaims := discard DeliveryClaimRow.jobId database.deliveryClaims jobId
    workerClaims := discard WorkerClaimRow.jobId database.workerClaims jobId
    artifacts := discard ArtifactRow.jobId database.artifacts jobId
    events := discard EventRow.jobId database.events jobId
    outbox := database.outbox.discardJob jobId
    consumptions := database.consumptions.filter fun row ↦
      (database.outbox.discardJob jobId).rows.any (·.effectId = row.effectId) }

/-- Refused while a deletion of all jobs is under way. -/
def rejectMaintenance (message : String) : StoreProgram PUnit := do
  refuse [((← get).maintenance.isSome, .maintenance message)]

/-- The job must not be stored yet. -/
def requireAbsent (jobId : String) : StoreProgram PUnit := do
  match (← get).loadJob jobId with
  | .ok _ => throw (.validation s!"{jobId}.json: Cursor job already exists")
  | .error (.missing _) => pure ⟨⟩
  | .error error => throw error

/-- What the constraints of `events` refuse. -/
def Database.eventViolations (database : Database) (row : EventRow) : List (Bool × StoreError) :=
  [(!fitsInteger row.revision, .overflow),
    (row.revision < 0, .integrity "CHECK constraint failed: revision >= 0"),
    (database.events.any (·.commandId = row.commandId),
      .integrity "UNIQUE constraint failed: events.command_id"),
    (database.jobs.all (·.jobId ≠ row.jobId), .integrity "FOREIGN KEY constraint failed")]

/-- `_record_transition`: the event and the admitted effects. -/
def recordTransition (command : CoordinatorCommand) (decision : CoordinatorDecision) :
    StoreProgram PUnit := do
  let jobId := decision.job.id
  let database ← get
  let row : EventRow :=
    { commandId := command.commandId, jobId, revision := decision.job.values.revision
      kind := decision.eventKind, commandKind := command.kind }
  refuse (database.eventViolations row)
  let effects : List OutboxEffect := decision.effects.map fun effect ↦
    { effectId := effect.effectId, jobId, kind := effect.kind
      idempotencyKey := effect.idempotencyKey, concurrencyKey := effect.concurrencyKey
      payload := effect.payload }
  match database.outbox.insertOutboxEffects effects with
  | none => throw (.validation "SQLite outbox constraint failed")
  | some outbox => set { database with events := database.events ++ [row], outbox }

/-! ### The operations -/

/-- The active ticket conflict of `create`. -/
def rejectTicketConflict (job : AgentJob) (enforceUniqueTicket : Bool) : StoreProgram PUnit := do
  match if enforceUniqueTicket then job.values.ticketIdentity else none with
  | none => pure ⟨⟩
  | some identity =>
    match (← get).reservations.find? (·.resource = Values.ticketKey identity) with
    | some conflict => throw (.activeTicket conflict.jobId)
    | none => pure ⟨⟩

/-- `create`. -/
def create (files : StoreFiles) (job : AgentJob) (enforceUniqueTicket : Bool) :
    StoreProgram AgentJob := do
  rejectMaintenance "Cursor jobs are temporarily unavailable during job deletion"
  requireAbsent job.id
  let candidate ← checked job.normalizeForDurableWrite
  refuse [(candidate.values.revision ≠ 0, .validation "new Cursor job revision must be zero")]
  rejectTicketConflict candidate enforceUniqueTicket
  checked (files.validateCandidateArtifacts candidate none)
  checked (files.validateQuarantineReservation .target candidate)
  checked (files.validateQuarantineReservation .worktree candidate)
  let saved ← saveJob candidate
  recordTransition
    { jobId := saved.id, expectedRevision := 0, commandId := s!"store.create:{saved.id}"
      kind := "admit" }
    { job := saved, eventKind := "admit" }
  pure saved

/-- The quarantine check of a reservation, where there is one. -/
def checkQuarantine (files : StoreFiles) (reservation : Option QuarantineReservation)
    (candidate : AgentJob) : StoreProgram PUnit :=
  match reservation with
  | none => pure ⟨⟩
  | some reservation => checked (files.validateQuarantineReservation reservation candidate)

/-- `_apply_on_connection` where the command was not applied before. -/
def applyDecision (files : StoreFiles) (command : CoordinatorCommand)
    (decide : AgentJob → Except StoreError (Option CoordinatorDecision))
    (reservation : Option QuarantineReservation) (current : AgentJob) :
    StoreProgram (Option AgentJob) := do
  if current.values.revision ≠ command.expectedRevision then pure none
  else
    match ← valueOrRaise (decide current) with
    | none => pure none
    | some decision => do
      let candidate ← checked decision.job.normalizeForDurableWrite
      checked (validateTransition current candidate)
      checked (files.validateCandidateArtifacts candidate (some current))
      checkQuarantine files reservation candidate
      recordTransition command { decision with job := candidate }
      some <$> saveJob candidate

/-- `_apply_on_connection`; `current` is the job a caller already read. -/
def applyOnConnection (files : StoreFiles) (command : CoordinatorCommand)
    (decide : AgentJob → Except StoreError (Option CoordinatorDecision))
    (reservation : Option QuarantineReservation) (current : Option AgentJob) :
    StoreProgram (Option AgentJob) := do
  match (← get).events.find? (·.commandId = command.commandId) with
  | some existing =>
    if existing.jobId ≠ command.jobId ∨ existing.revision ≠ command.expectedRevision + 1 ∨
        existing.commandKind ≠ command.kind then
      throw (.validation
        s!"command '{command.commandId}' conflicts with a persisted command identity")
    else some <$> getJob existing.jobId
  | none =>
    match current with
    | some current => applyDecision files command decide reservation current
    | none => applyDecision files command decide reservation (← getJob command.jobId)

/-- `apply`. -/
def applyCommand (files : StoreFiles) (command : CoordinatorCommand)
    (decide : AgentJob → Except StoreError (Option CoordinatorDecision))
    (reservation : Option QuarantineReservation) (rejectsMaintenance : Bool) :
    StoreProgram (Option AgentJob) := do
  checked (runGuards command.guards)
  if rejectsMaintenance && (← get).maintenance.isSome then pure none
  else applyOnConnection files command decide reservation none

/-- `_transaction`, which `update`, `reserve_target`, `reserve_worktree` and
`update_unless_maintenance` are; the command id ends with a fresh token. -/
def updateJob (files : StoreFiles) (jobId token : String)
    (command : AgentJob → Except StoreError (Option AgentJob))
    (reservation : Option QuarantineReservation) (rejectsMaintenance : Bool) :
    StoreProgram (Option AgentJob) := do
  if rejectsMaintenance && (← get).maintenance.isSome then pure none
  else
    let current ← getJob jobId
    let update : CoordinatorCommand :=
      { jobId, expectedRevision := current.values.revision
        commandId := s!"store.update:{jobId}:{token}", kind := "store.update" }
    checked (runGuards update.guards)
    applyOnConnection files update
      (fun job ↦ do
        match ← command job with
        | none => .ok none
        | some candidate => .ok (some { job := candidate, eventKind := "store.update" }))
      reservation (some current)

/-- The save of one grouped child. -/
def saveGroupedChild (files : StoreFiles) (child : AgentJob) : StoreProgram PUnit := do
  let normalized ← checked child.normalizeForDurableWrite
  refuse
    [(normalized.values.revision ≠ 0, .validation "new grouped child revision must be zero")]
  checked (files.validateCandidateArtifacts normalized none)
  let _ ← saveJob normalized

/-- `stage_grouped_children`. -/
def stageGroupedChildren (files : StoreFiles) (coordinatorId : String)
    (command : AgentJob → Except StoreError (Option AgentJob)) (children : List AgentJob) :
    StoreProgram (Option AgentJob) := do
  rejectMaintenance "Cursor jobs are temporarily unavailable during job deletion"
  let current ← getJob coordinatorId
  match ← valueOrRaise (command current) with
  | none => pure none
  | some staged => do
    let candidate ← checked staged.normalizeForDurableWrite
    checked (validateTransition current candidate)
    checked (files.validateCandidateArtifacts candidate (some current))
    let _ ← saveJob candidate
    children.forM (saveGroupedChild files)
    pure (some candidate)

/-- The admission of one waiting job. -/
def claimCapacity (job : AgentJob) : StoreProgram AgentJob := do
  let lifecycle ← checked job.values.participantLifecycle
  saveJob (← checked (job.evolveParticipant (← checked lifecycle.admitHeld)))

/-- `claim_participant_capacity`. -/
def claimParticipantCapacity (limit : ℤ) : StoreProgram (List AgentJob) := do
  refuse [(limit ≤ 0, .validation "participant capacity must be positive")]
  let jobs ← listJobs
  let held := (jobs.filter fun job ↦ decide (job.values.participantAdmissionState = .held)).length
  let free := limit - held
  if free ≤ 0 then pure []
  else
    let waiting := (jobs.filter fun job ↦
      decide (job.values.participantAdmissionState = .waiting ∧
        job.values.status = .queued)).mergeSort
      fun first second ↦ decide (first.values.createdAt < second.values.createdAt ∨
        first.values.createdAt = second.values.createdAt ∧ first.id ≤ second.id)
    (waiting.take free.toNat).mapM claimCapacity

/-- The claims `publish_artifact` compares with the current job. -/
structure ArtifactClaim where
  kind : ArtifactKind
  round : ℤ
  expectedWorker : Option WorkerOwnership
  expectedRevision : ℤ
  expectedTurnToken : String
  expectedPhase : WorkflowPhase
  expectedPriorReference : Option String
  expectedPlanReference : Option String

namespace ArtifactClaim

def field (claim : ArtifactClaim) : TextField :=
  match claim.kind with
  | .plan => .planArtifact
  | .review => .reviewArtifact

/-- The claim does not fit the current job. -/
def isStale (claim : ArtifactClaim) (current : AgentJob) : Bool :=
  let values := current.values
  values.terminalIntentStatus.isSome || values.revision ≠ claim.expectedRevision ||
    !(match claim.expectedWorker with
      | some expected => decide (values.workerOwnership = .ok (some expected))
      | none => false) ||
    values.text .turnToken ≠ some claim.expectedTurnToken ||
    values.workflowPhase ≠ claim.expectedPhase || values.count .reviewRound ≠ claim.round ||
    values.text claim.field ≠ claim.expectedPriorReference ||
    (claim.kind = .review && (claim.expectedPlanReference.isNone ||
      values.text .planArtifact ≠ claim.expectedPlanReference))

/-- The changed job under the event of its worker. -/
def published (claim : ArtifactClaim) (current changed : AgentJob) : Checked AgentJob :=
  match claim.expectedWorker with
  | none => .ok changed
  | some expected => do
    let event : JobEvent :=
      { kind := .workerCallback expected
        expectedRevision := claim.expectedRevision
        nextState := ← changed.values.lifecycle }
    validateLifecycleEvent current.values changed.values event
    .ok { changed with lifecycleEvent := some event }

end ArtifactClaim

/-- `publish_artifact`; `write` is the reference of the published file, or what writing it raises,
and an owner given as a text never matches. -/
def publishArtifact (jobId : String) (claim : ArtifactClaim) (write : Except StoreError String)
    (change : AgentJob → String → Except StoreError AgentJob) : StoreProgram (Option AgentJob) := do
  refuse [(claim.round < 0 || 2 < claim.round,
    .validation "invalid workflow artifact publication")]
  let current ← getJob jobId
  if claim.isStale current then pure none
  else
    let reference ← valueOrRaise write
    let changed ← valueOrRaise (change current reference)
    let published ← checked (claim.published current changed)
    refuse [(published.values.text claim.field ≠ some reference,
      .validation "artifact publication must set the field to the new reference")]
    let candidate ← checked published.normalizeForDurableWrite
    checked (validateTransition current candidate)
    some <$> saveJob candidate

/-- The workspace fields a follow-up inherits. -/
def followUpFields : List (TextField × String) :=
  [(.repository, "repository"), (.worktreeBranch, "worktree_branch"),
    (.worktreePath, "worktree_path"), (.worktreeWorkspaceId, "worktree_workspace_id"),
    (.worktreeRootPaneId, "worktree_root_pane_id")]

/-- `_validate_follow_up_source`; `shared` says that the checkout is the shared clone, or that the
paths cannot be resolved. -/
def followUpViolations (parent : AgentJob) (expectedCompletedAt : Option Time) (shared : Bool) :
    List (Bool × StoreError) :=
  let values := parent.values
  let message := fun text : String ↦ StoreError.followUp s!"Cursor job {parent.id} {text}"
  [(values.status ≠ .completed, message "is not completed and cannot be followed up"),
    (expectedCompletedAt.isSome && values.float .completedAt ≠ expectedCompletedAt,
      message "completion identity has changed"),
    (!(followUpFields.all fun field ↦ values.hasText field.1),
      message "has no complete isolated workspace to reuse"),
    (!((values.operation .worktreeProvisionState).any
        (· ∈ [OperationLabel.ready, .retained])),
      message "worktree is not in a reusable state"),
    (values.hasUncertainOperation || values.hasText .manualReconcileOperation ||
        values.bool .targetReleasePending || values.bool .cancellationReconciliationPending,
      message "is still being reconciled"),
    (shared, message "used the shared repository clone")]

/-- `apply_follow_up`. -/
def applyFollowUp (parent child : JobLifecycle) (expectedParentRevision : ℤ)
    (expectedParentCompletedAt : Time) : Checked Unit :=
  if expectedParentRevision ≠ parent.identity.revision then
    .error "stale follow-up parent revision"
  else
    match parent with
    | .terminal identity _ outcome =>
      if outcome.status ≠ .completed then .error "follow-up requires a completed parent"
      else if outcome.completedAt ≠ expectedParentCompletedAt then
        .error "stale follow-up completion identity"
      else if child.identity.parentId ≠ some identity.id ∨
          child.identity.harness ≠ identity.harness ∨
          child.identity.provider ≠ identity.provider ∨ child.identity.revision ≠ 0 then
        .error "follow-up must inherit parent, harness, and provider identity"
      else .ok ()
    | _ => .error "follow-up requires a completed parent"

/-- `_validate_follow_up_event`. -/
def validateFollowUpEvent (parent child : AgentJob) (expectedParentRevision : ℤ)
    (expectedCompletedAt : Option Time) : Checked Unit := do
  let childLifecycle ← child.values.lifecycle
  if childLifecycle.state ≠ .queued then .error "follow-up child must begin queued"
  else
    match expectedCompletedAt.or (parent.values.float .completedAt) with
    | none => .error "completed job requires completion time"
    | some completedAt =>
      applyFollowUp (← parent.values.lifecycle) childLifecycle expectedParentRevision completedAt

/-- What `create_follow_up` refuses of a child. -/
def inheritanceViolations (parent child : AgentJob) : List (Bool × StoreError) :=
  let message := fun text : String ↦ StoreError.validation ("follow-up child must " ++ text)
  let identity : List (Bool × StoreError) :=
    [(child.values.text .parentJobId ≠ some parent.id, message "reference its parent job id"),
      (child.values.harnessKind ≠ parent.values.harnessKind,
        message "inherit parent harness_kind exactly"),
      (child.values.text .issueProvider ≠ parent.values.text .issueProvider,
        message "inherit parent issue_provider exactly")]
  identity ++ followUpFields.map fun (field, name) ↦
    (decide (child.values.text field ≠ parent.values.text field),
      message s!"inherit parent {name} exactly")

/-- `needle in text`. -/
def containsText (text needle : String) : Bool :=
  text.toList.tails.any fun rest ↦ needle.toList.isPrefixOf rest

/-- The exception of `create_follow_up` for a parent that is not stored. -/
def parentUnavailable (parentJobId : String) : StoreError → StoreError
  | .missing _ => .followUp s!"Cursor job {parentJobId} is no longer available"
  | error => error

/-- The exception of `create_follow_up` for a checkout another job holds. -/
def checkoutTaken (parent : AgentJob) : StoreError → StoreError
  | .validation message =>
    if containsText message "reserved by both" ||
        containsText message "blocked by unresolved quarantine evidence" then
      let path := parent.values.textOrEmpty .worktreePath
      .checkoutBusy s!"{path} is busy with another Cursor job"
    else .validation message
  | error => error

/-- The save of a follow-up child. -/
def saveFollowUp (files : StoreFiles) (child : AgentJob) : StoreProgram AgentJob := do
  checked (files.validateQuarantineReservation .worktree child)
  saveJob (← checked child.normalizeForDurableWrite)

/-- `create_follow_up`. -/
def createFollowUp (files : StoreFiles) (parentJobId : String)
    (build : AgentJob → Except StoreError AgentJob) (expectedParentRevision : ℤ)
    (expectedCompletedAt : Option Time) (shared : Bool) : StoreProgram AgentJob := do
  rejectMaintenance "Cursor follow-ups are temporarily unavailable during job deletion"
  let parent ← raisingAs (parentUnavailable parentJobId) (getJob parentJobId)
  refuse (followUpViolations parent expectedCompletedAt shared)
  let child ← valueOrRaise (build parent)
  checked (validateFollowUpEvent parent child expectedParentRevision expectedCompletedAt)
  refuse (inheritanceViolations parent child)
  requireAbsent child.id
  raisingAs (checkoutTaken parent) (saveFollowUp files child)

/-- `prune`; the cutoff is the time less the retention. -/
def prune (cutoff : Time) : StoreProgram (List String) := do
  if (← get).maintenance.isSome then pure []
  else
    let jobs ← listJobs
    let removed := (jobs.filter fun job ↦ job.isPrunable cutoff).map (·.id)
    removed.forM deleteJob
    pure removed

end Programs

/-! ### Runs of the store -/

/-- A call of the store, with everything its caller and its process choose. -/
inductive StoreCall
  | create (files : StoreFiles) (job : AgentJob) (enforceUniqueTicket : Bool)
  | apply (files : StoreFiles) (command : CoordinatorCommand)
      (decide : AgentJob → Except StoreError (Option CoordinatorDecision))
      (reservation : Option QuarantineReservation) (rejectsMaintenance : Bool)
  | update (files : StoreFiles) (jobId token : String)
      (command : AgentJob → Except StoreError (Option AgentJob))
      (reservation : Option QuarantineReservation) (rejectsMaintenance : Bool)
  | stageGroupedChildren (files : StoreFiles) (coordinatorId : String)
      (command : AgentJob → Except StoreError (Option AgentJob)) (children : List AgentJob)
  | createFollowUp (files : StoreFiles) (parentJobId : String)
      (build : AgentJob → Except StoreError AgentJob) (expectedParentRevision : ℤ)
      (expectedCompletedAt : Option Time) (shared : Bool)
  | claimParticipantCapacity (limit : ℤ)
  | publishArtifact (jobId : String) (claim : ArtifactClaim) (write : Except StoreError String)
      (change : AgentJob → String → Except StoreError AgentJob)
  | prune (cutoff : Time)

/-- The jobs and ids a call answers. -/
structure StoreAnswer where
  jobs : List AgentJob := []
  removed : List String := []

section Machine

variable [TextLibrary]

/-- The program of a call. -/
def StoreCall.program : StoreCall → StoreProgram StoreAnswer
  | create files job enforceUniqueTicket => do
    pure { jobs := [← VoiceHarness.create files job enforceUniqueTicket] }
  | apply files command decide reservation rejectsMaintenance => do
    pure { jobs := (← applyCommand files command decide reservation rejectsMaintenance).toList }
  | update files jobId token command reservation rejectsMaintenance => do
    pure { jobs :=
      (← updateJob files jobId token command reservation rejectsMaintenance).toList }
  | stageGroupedChildren files coordinatorId command children => do
    pure { jobs :=
      (← VoiceHarness.stageGroupedChildren files coordinatorId command children).toList }
  | createFollowUp files parentJobId build expectedParentRevision expectedCompletedAt shared => do
    pure { jobs := [← VoiceHarness.createFollowUp files parentJobId build expectedParentRevision
      expectedCompletedAt shared] }
  | claimParticipantCapacity limit => do
    pure { jobs := ← VoiceHarness.claimParticipantCapacity limit }
  | publishArtifact jobId claim write change => do
    pure { jobs := (← VoiceHarness.publishArtifact jobId claim write change).toList }
  | prune cutoff => do pure { removed := ← VoiceHarness.prune cutoff }

/-- The store: each call is one transaction. -/
def storeMachine : Machine Database StoreCall (Except StoreError StoreAnswer) where
  step database call := atomically call.program database

end Machine

end VoiceHarness
