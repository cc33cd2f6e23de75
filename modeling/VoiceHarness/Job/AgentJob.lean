import VoiceHarness.Job.Invariants
import VoiceHarness.Job.Event

/-!
# Jobs

`AgentJob.from_dict` on a native record of the current schema: the defaults and the canonical forms
`migrate_job_record` and `_prompt_operation_defaults` give it, the presence checks, and
`validate_invariants`. An `AgentJob` is a record with the fact that these checks pass, so every job
of the model is a valid one.
-/

set_option autoImplicit false
set_option relaxedAutoImplicit false

namespace VoiceHarness

/-- `CURRENT_SCHEMA_VERSION`. -/
def currentSchemaVersion : ℤ := 18

namespace Values

section Canonical

variable [TextLibrary] (values : Values)

/-- The end of `_flatten_structured_state`, and the session defaults of a flat record. -/
def sessionDefaults : Values :=
  let flat := if (values.text .sessionId).isSome then
    values.setDefault (.text .herdrTarget) (values.text .sessionId) else values
  let kind := flat.setDefault .harnessKind (some .cursor)
  if (kind.text .herdrTarget).isSome then
    kind.setDefault (.text .sessionId) (kind.text .herdrTarget) else kind

/-- `_infer_legacy_issue_provider`. -/
def inferIssueProvider : Option String :=
  if (values.text .issueKey).isSome then some "linear"
  else if (values.int .githubIssue).isSome || (values.int .githubIssueCreatedNumber).isSome then
    some "github"
  else none

/-- `_default_participant_admission_state`. -/
def defaultParticipantAdmissionState : ParticipantAdmissionState :=
  if values.hasParticipantTarget || values.hasText .participantCreationTarget ||
      values.hasText .workerToken || values.hasCount .workerPid ||
      values.bool .targetReleasePending then .held
  else if values.status.isTerminal ||
      values.text .clarificationKind = some "grouped_repository" then .released
  else .waiting

/-- The defaults of a current record for its provider, admission and session control. -/
def currentDefaults : Values :=
  let provider := values.setDefault (.text .issueProvider) values.inferIssueProvider
  let admission := provider.setDefault .participantAdmissionState
    (some provider.defaultParticipantAdmissionState)
  (admission.setDefault .sessionControl (some .automated)).setDefault
    (.int .sessionControlGeneration) (some 0)

/-- `_canonicalize_announcement_dismissal`. -/
def canonicalizeAnnouncementDismissal : Checked Values :=
  let dismissed := values.bool .announcementDismissed
  let mirrored : AnnouncementAck := if dismissed then .dismissed else .spoken
  let popped := fun values : Values ↦ values.popAll [.bool .announcementDismissed]
  match values.get .announcementAck with
  | some ack =>
    if (values (.bool .announcementDismissed)).isPresent &&
        dismissed ≠ decide (ack = .dismissed) then
      .error "dismissal state and acknowledgement must match"
    else if values.bool .delivered && ack = .pending then
      .ok (popped (values.set .announcementAck (.val mirrored)))
    else .ok (popped values)
  | none =>
    .ok (popped (values.set .announcementAck
      (.val (if values.bool .delivered then mirrored else .pending))))

/-- `_canonicalize_review_approval`. -/
def canonicalizeReviewApproval : Checked Values :=
  let approved := values.bool .reviewApproved
  if !(values (.bool .reviewApproved)).isPresent then .ok values
  else if (values .reviewApprovalSource).isPresent then
    if approved ≠ values.reviewApproved then
      .error "review approval and approval source must be paired"
    else .ok (values.popAll [.bool .reviewApproved])
  else if approved then
    .error "current-schema review approval requires explicit approval source"
  else .ok (values.popAll [.bool .reviewApproved])

/-- `len(set(items)) > 1`. -/
def disagree {α : Type} [DecidableEq α] : List α → Bool
  | [] => false
  | first :: rest => rest.any (· ≠ first)

/-- `_canonicalize_github_issue_creation_identity`. -/
def canonicalizeGithubIssueCreationIdentity : Checked Values :=
  let createdUrl := values.text .githubIssueCreatedUrl
  let url := values.text .githubIssueUrl
  let read := fun candidate : Option String ↦ candidate.bind TextLibrary.githubIssueFromUrl
  let parsed := (read url).toList ++ (read createdUrl).toList
  let repositories := (values.text .githubRepository).toList ++ parsed.map Prod.fst
  let numbers := (values.int .githubIssue).toList ++
    (values.int .githubIssueCreatedNumber).toList ++ parsed.map Prod.snd
  if url.isSome && (read url).isNone then
    .error "github_issue_url must be an exact GitHub issue URL"
  else if createdUrl.isSome && (read createdUrl).isNone then
    .error "github_issue_created_url must be an exact GitHub issue URL"
  else if disagree (repositories.map TextLibrary.casefold) || disagree numbers then
    .error "created GitHub issue identity must match canonical issue identity"
  else
    let issue := if (values.int .githubIssue).isNone &&
        (values.int .githubIssueCreatedNumber).isSome then
      values.set (.int .githubIssue) (.ofOption (values.int .githubIssueCreatedNumber)) else values
    let canonical := if url.isNone && createdUrl.isSome then
      issue.set (.text .githubIssueUrl) (.ofOption createdUrl) else issue
    .ok (canonical.popAll [.int .githubIssueCreatedNumber, .text .githubIssueCreatedUrl])

/-- `_canonicalize_pull_request_branch`. -/
def canonicalizePullRequestBranch : Checked Values :=
  let stored := values.text .pullRequestBranch
  let planned := values.text .worktreeBranch
  if stored.isSome && planned.isSome && stored ≠ planned then
    .error "pull-request branch must match the planned worktree branch"
  else
    let branch := if stored.isSome && planned.isNone then
      values.set (.text .worktreeBranch) (.ofOption stored) else values
    .ok (branch.popAll [.text .pullRequestBranch])

/-- `_prompt_operation_defaults`. -/
def promptOperationDefaults : Values :=
  if (values (.operation .promptOperationState)).isPresent then values
  else
    let turn := if values.hasCount .turn then values.count .turn else 1
    let phase := ((values.get (.phase .workflowTurnPhase)).or
      (values.get (.phase .workflowPhase))).getD .classifying
    let token := TextLibrary.uuid5 ("local-voice-harness:prompt:" ++
      orElse (values.text .id) "unknown" ++ ":" ++ toString turn)
    let active :=
      if values.bool .phasePromptActive then
        ((((((values.set (.operation .promptOperationState) (.val .ambiguous)).setDefault
          (.phase .promptOperationPhase) (some phase)).setDefault
          (.int .promptOperationTurn) (some turn)).setDefault
          (.text .promptOperationTarget) (values.text .herdrTarget)).setDefault
          (.int .promptBaselineSequence) (some (-1))).setDefault
          (.text .manualReconcileOperation) (some "prompt")).setDefault
          (.text .manualReconcileToken) (some token) |>.setDefault
          (.float .manualReconcileRequiredAt) (some ((values.float .updatedAt).getD 0))
      else values.set (.operation .promptOperationState) (.val .none)
    active.setDefault (.operation .participantCreationState) (some .none)

/-- The collections `from_dict` leaves behind empty. -/
def collectionDefaults : Values :=
  (((values.setDefault (.structured .clarifications) (some (.arr []))).setDefault
    .targetReleaseUnverifiedTargets (some [])).setDefault
    .participantSessionOwners (some [])).setDefault
    (.structured .promptContextSessions) (some (.obj []))

/-- The record `from_dict` keeps. -/
def canonicalise : Checked Values := do
  let announced ← values.sessionDefaults.currentDefaults.canonicalizeAnnouncementDismissal
  let reviewed ← announced.canonicalizeReviewApproval
  let issue ← reviewed.canonicalizeGithubIssueCreationIdentity
  let branch ← issue.canonicalizePullRequestBranch
  .ok ((branch.set (.int .schemaVersion) (.val currentSchemaVersion)).promptOperationDefaults
    |>.collectionDefaults)

end Canonical

variable (values : Values)

/-! ### Presence -/

/-- What `from_dict` asks of a record before its invariants. -/
def presenceGuards : List Guard :=
  let missing := fun field : TextField ↦ !values.hasText field
  [(!isJobId values.jobId, "id must be 12 lowercase hexadecimal characters"),
    ((values.text .parentJobId).any (!isJobId ·),
      "parent_job_id must be 12 lowercase hexadecimal characters"),
    (values.text .parentJobId = some values.jobId,
      "parent_job_id must not reference the child"),
    ((values.get (.jobStatus .status)).isNone, "status has invalid value"),
    ((values.get .harnessKind).isNone, "harness_kind has invalid value"),
    ((values.text .issueProvider).any (!isProviderName ·), "issue_provider has invalid value"),
    ((values.int .revision).isNone, "job requires revision"),
    (!(values (.text .request)).isPresent, "job requires request"),
    ((values.float .createdAt).isNone, "job requires created_at"),
    (!(values (.bool .delivered)).isPresent, "job requires delivered"),
    (values.status = .queued && !(values (.float .queuedAt)).isPresent,
      "queued job requires queued_at"),
    (values.status = .awaitingUser && missing .question,
      "awaiting_user job requires non-empty question"),
    (values.status = .awaitingUser && missing .result,
      "awaiting_user job requires non-empty result"),
    (values.status = .blocked && missing .result, "blocked job requires result"),
    (values.status = .completed && !(values (.text .result)).isPresent,
      "completed job requires result"),
    (values.status = .failed && missing .error, "failed job requires non-empty error"),
    (values.status = .failed && missing .result, "failed job requires non-empty result"),
    (values.status = .cancelled && missing .result, "cancelled job requires result"),
    ((values.status.isTerminal || values.status = .blocked) &&
        !(values (.float .completedAt)).isPresent,
      values.status.value ++ " job requires completed_at")]

/-- The checks of `from_dict` on a canonical record. -/
def validate : Checked Unit :=
  runChecks [runGuards values.presenceGuards, parses values.promptOperation,
    values.validateInvariants]

theorem validate_eq_ok_iff :
    values.validate = .ok () ↔
      (∀ guard ∈ values.presenceGuards, guard.1 = false) ∧
      (∃ operation, values.promptOperation = .ok operation) ∧
      values.validateInvariants = .ok () := by
  simp only [validate, runChecks_eq_ok_iff, List.forall_mem_cons, List.not_mem_nil, false_imp_iff,
    implies_true, and_true, runGuards_eq_ok_iff, parses_eq_ok_iff]

/-! ### Lifecycle -/

/-- The identity part of `lifecycle`. -/
def identity : JobIdentity :=
  { id := values.jobId
    createdAt := values.createdAt
    parentId := values.text .parentJobId
    request := (values.text .request).getD "None"
    harness := values.harnessKind
    provider := values.text .issueProvider
    revision := values.revision }

/-- `lifecycle`. -/
def lifecycle : Checked JobLifecycle := do
  runGuards values.identity.guards
  let worker ← values.workerOwnership
  let workflow ← values.workflowState
  let execution : ExecutionComponents := { prompt := values.promptOperation.toOption, workflow }
  let question := values.textOrEmpty .question
  let result := values.textOrEmpty .result
  match values.status with
  | .queued =>
    match values.float .queuedAt with
    | none => .error "queued job requires a finite queued time"
    | some queuedAt => .ok (.queued values.identity queuedAt execution worker)
  | .routing =>
    match worker with
    | none => .error "routing job requires worker identity"
    | some worker => .ok (.routing values.identity worker execution)
  | .running =>
    match worker with
    | none => .error "running job requires worker identity"
    | some worker => .ok (.running values.identity worker execution)
  | .awaitingUser =>
    if isBlank question || isBlank result then
      .error "awaiting-user job requires question and result"
    else .ok (.awaitingUser values.identity question result execution)
  | .blocked =>
    match values.float .completedAt with
    | none => .error "blocked job requires blocked time"
    | some blockedAt =>
      if isBlank result then .error "blocked job requires result and blocked time"
      else .ok (.blocked values.identity result blockedAt execution)
  | .reconciling => do
    let cleanup ← values.cleanupState
    let intent ← match ← values.terminalState with
      | .intent outcome => .ok (some outcome)
      | .open | .materialized _ => .ok none
    match intent, cleanup with
    | some _, .settled | some _, .reconciling =>
      .error "terminal intent requires a pending cleanup release fence"
    | _, _ => .ok (.reconciling values.identity execution cleanup intent worker)
  | .completed | .failed | .cancelled => do
    match ← values.terminalState with
    | .materialized outcome => .ok (.terminal values.identity execution outcome)
    | .open | .intent _ => .error "terminal job requires materialized outcome"

end Values

/-- A job: a record that passes every check of `from_dict`, and the event it was made by. -/
structure AgentJob where
  values : Values
  lifecycleEvent : Option JobEvent
  valid : values.validate = .ok ()

namespace AgentJob

/-- `AgentJob.from_dict`. -/
def fromDict [TextLibrary] (raw : Values) : Checked AgentJob := do
  let values ← raw.canonicalise
  match valid : values.validate with
  | .ok () => .ok { values, lifecycleEvent := none, valid }
  | .error message => .error message

/-- A job that was read holds the canonical record. -/
theorem fromDict_ok [TextLibrary] {raw : Values} {job : AgentJob} (h : fromDict raw = .ok job) :
    ∃ values, raw.canonicalise = .ok values ∧ job.values = values := by
  obtain ⟨values, hcanonical, hjob⟩ := checked_bind_eq_ok_iff.mp h
  refine ⟨values, hcanonical, ?_⟩
  split at hjob
  · cases hjob
    rfl
  · exact absurd hjob (by simp)

/-- `to_dict`. -/
def toDict (job : AgentJob) : Values := job.values

variable (job : AgentJob)

theorem presence : ∀ guard ∈ job.values.presenceGuards, guard.1 = false :=
  (job.values.validate_eq_ok_iff.mp job.valid).1

theorem invariants : job.values.validateInvariants = .ok () :=
  (job.values.validate_eq_ok_iff.mp job.valid).2.2

theorem invariant_guard {guard : Guard} (h : guard ∈ job.values.invariantGuards) :
    guard.1 = false :=
  (job.values.validateInvariants_eq_ok_iff.mp job.invariants).2.1 guard h

theorem release_guard {guard : Guard} (h : guard ∈ job.values.releaseGuards) :
    guard.1 = false :=
  (job.values.validateInvariants_eq_ok_iff.mp job.invariants).2.2.2 guard h

theorem adapter_check {check : Checked Unit} (h : check ∈ job.values.adapterChecks) :
    check = .ok () :=
  (job.values.validateInvariants_eq_ok_iff.mp job.invariants).1 check h

theorem operation_check {check : Checked Unit} (h : check ∈ job.values.operationChecks) :
    check = .ok () :=
  (job.values.validateInvariants_eq_ok_iff.mp job.invariants).2.2.1 check h

end AgentJob

end VoiceHarness
