import VoiceHarness.Job.Evolve

/-!
# Observing and resolving operations

`record_operation_observation` counts the observations of an uncertain agent, fork or worktree
operation until it is confirmed absent or handed to the operator. `resolve_manual_operation` is the
operator's answer. The five operations share one slot, `manual_reconcile_operation` with its token;
the fences of a prompt and of a pane write the slot too.
-/

set_option autoImplicit false
set_option relaxedAutoImplicit false

namespace VoiceHarness

/-- The operations `record_operation_observation` observes. -/
inductive ObservedOperation
  | agent | fork | worktree
  deriving DecidableEq, Repr

namespace ObservedOperation

def manual : ObservedOperation → ManualOperation
  | agent => .agent
  | fork => .fork
  | worktree => .worktree

/-- `<operation>_reconcile_attempts`. -/
def attemptsField : ObservedOperation → IntField
  | agent => .agentReconcileAttempts
  | fork => .forkReconcileAttempts
  | worktree => .worktreeReconcileAttempts

/-- `<operation>_absent_observations`. -/
def absentField : ObservedOperation → IntField
  | agent => .agentAbsentObservations
  | fork => .forkAbsentObservations
  | worktree => .worktreeAbsentObservations

/-- `<operation>_last_reconciled_at`. -/
def lastReconciledField : ObservedOperation → FloatField
  | agent => .agentLastReconciledAt
  | fork => .forkLastReconciledAt
  | worktree => .worktreeLastReconciledAt

/-- `<operation>_next_reconcile_at`. -/
def nextReconcileField : ObservedOperation → FloatField
  | agent => .agentNextReconcileAt
  | fork => .forkNextReconcileAt
  | worktree => .worktreeNextReconcileAt

/-- `<operation>_confirmed_absent_at`. -/
def confirmedAbsentField : ObservedOperation → FloatField
  | agent => .agentConfirmedAbsentAt
  | fork => .forkConfirmedAbsentAt
  | worktree => .worktreeConfirmedAbsentAt

/-- `<operation>_automatic_reconcile_stopped_at`. -/
def stoppedField : ObservedOperation → FloatField
  | agent => .agentAutomaticReconcileStoppedAt
  | fork => .forkAutomaticReconcileStoppedAt
  | worktree => .worktreeAutomaticReconcileStoppedAt

end ObservedOperation

/-- The limits and the delays of an observation. -/
structure ReconcileLimits where
  failedMaxAttempts : ℤ
  uncertainMaxAttempts : ℤ
  baseSeconds : Time
  maxSeconds : Time

/-- `base_seconds * (2 ** (attempts - 1))`; a power from 2 ^ 1024 on cannot be converted to a float. -/
def ReconcileLimits.backoff (limits : ReconcileLimits) (attempts : ℤ) : Checked Time :=
  if 1024 ≤ attempts - 1 then .error "int too large to convert to float"
  else .ok (limits.baseSeconds * 2 ^ (attempts - 1))

namespace AgentJob

variable [TextLibrary] (job : AgentJob)

/-- The agent a job gives up: its target, its pane and the participant that ran in it. -/
def droppedAgent : List Change :=
  [⟨.text .herdrTarget, .null⟩, ⟨.participant .activeParticipant, .null⟩,
    ⟨.text .herdrPaneId, .null⟩, ⟨.text .herdrWorkspaceId, .null⟩, ⟨.text .agentName, .null⟩,
    ⟨.bool .agentDispatchExited, .null⟩]

/-- The target field of the active participant. -/
def droppedParticipant : List Change :=
  match job.values.activeParticipant with
  | none => []
  | some participant => [⟨.text (Values.participantTargetField participant), .null⟩]

/-- The fields of an observed operation moved to a settled checkout or agent state, or to a bare
label where no typed operation is stored. -/
def observedState (operation : ObservedOperation) (checkout : CheckoutState)
    (session : AgentSessionState) (label : OperationLabel) : Checked (List Change) := do
  let bare : List Change := [.put (.operation operation.manual.field) (some label)]
  match operation with
  | .worktree =>
    match ← job.values.checkoutOperation with
    | some current => .ok (← current.transition checkout).fields
    | none => .ok bare
  | .agent =>
    match ← job.values.agentSessionOperation with
    | some current => .ok (← current.transition session).fields
    | none => .ok bare
  | .fork => .ok bare

/-- The slot of an operation that is handed to the operator. -/
def manualSlot (operation : ManualOperation) (token : String) (now : Time) : List Change :=
  [.put (.text .manualReconcileOperation) (some operation.value),
    .put (.text .manualReconcileToken) (some token),
    .put (.float .manualReconcileRequiredAt) (some now)]

/-- What an observation concludes. -/
inductive Conclusion
  | confirmAbsent | requireManual | retry
  deriving DecidableEq

/-- The conclusion after so many attempts and absent answers. -/
def conclude (operation : ObservedOperation) (state : OperationLabel) (attempts absent : ℤ)
    (limits : ReconcileLimits) : Conclusion :=
  if state = .failedObserving ∧ limits.failedMaxAttempts ≤ absent ∧
      ¬ (operation = .fork ∧ job.values.bool .forkCommitted = true) then .confirmAbsent
  else if limits.uncertainMaxAttempts ≤ attempts then .requireManual
  else .retry

/-- The changes of a conclusion. -/
def conclusionChanges (operation : ObservedOperation) (now : Time) (token : String)
    (attempts : ℤ) (limits : ReconcileLimits) : Conclusion → Checked (List Change)
  | .confirmAbsent => do
    let state ← job.observedState operation .confirmedAbsent .confirmedAbsent .confirmedAbsent
    let cleanup := finishCleanupReconciliation (← job.values.cleanupState)
    .ok (state ++
      [.put (.float operation.confirmedAbsentField) (some now),
        ⟨.float operation.nextReconcileField, .null⟩, ⟨.text .workerOperation, .null⟩] ++
      cleanup.fields ++
      if operation = .agent then droppedAgent ++ job.droppedParticipant else [])
  | .requireManual => do
    let state ← job.observedState operation .manualRequired .manualRequired .manualRequired
    let cleanup := finishCleanupReconciliation (← job.values.cleanupState)
    .ok (state ++
      [⟨.float operation.nextReconcileField, .null⟩,
        .put (.float operation.stoppedField) (some now)] ++
      manualSlot operation.manual token now ++ [⟨.text .workerOperation, .null⟩] ++
      cleanup.fields)
  | .retry => do
    let delay ← limits.backoff attempts
    .ok [.put (.float operation.nextReconcileField) (some (now + min limits.maxSeconds delay))]

/-- `record_operation_observation`; the token is the fresh one a manual conclusion stores. -/
def recordOperationObservation (operation : ObservedOperation)
    (expectedStates : List OperationLabel) (now : Time) (observedAbsent : Bool) (token : String)
    (limits : ReconcileLimits) : Checked (Option AgentJob) :=
  match job.values.operation operation.manual.field with
  | none => .ok none
  | some state =>
    if state ∉ expectedStates then .ok none
    else do
      let attempts := job.values.count operation.attemptsField + 1
      let absent := job.values.count operation.absentField + if observedAbsent then 1 else 0
      let conclusion := job.conclude operation state attempts absent limits
      let changes ← job.conclusionChanges operation now token attempts limits conclusion
      some <$> job.evolveRecovery
        ([.put (.int operation.attemptsField) (some attempts),
          .put (.float operation.lastReconciledField) (some now)] ++
          (if observedAbsent then [.put (.int operation.absentField) (some absent)] else []) ++
          changes)
        now none []
        (conclusion = .requireManual && job.values.terminalIntentStatus.isNone)

/-- What `record_operation_observation` does to a job it does not leave alone. -/
theorem recordOperationObservation_ok {job next : AgentJob} {operation : ObservedOperation}
    {expectedStates : List OperationLabel} {now : Time} {observedAbsent : Bool} {token : String}
    {limits : ReconcileLimits}
    (h : job.recordOperationObservation operation expectedStates now observedAbsent token limits =
      .ok (some next)) :
    ∃ state, job.values.operation operation.manual.field = some state ∧ state ∈ expectedStates ∧
      ∃ attempts absent changes,
        job.conclusionChanges operation now token attempts limits
          (job.conclude operation state attempts absent limits) = .ok changes ∧
        job.evolveRecovery
          ([.put (.int operation.attemptsField) (some attempts),
            .put (.float operation.lastReconciledField) (some now)] ++
            (if observedAbsent then [.put (.int operation.absentField) (some absent)] else []) ++
            changes)
          now none []
          (job.conclude operation state attempts absent limits = .requireManual &&
            job.values.terminalIntentStatus.isNone) = .ok next := by
  unfold recordOperationObservation at h
  rcases hstate : job.values.operation operation.manual.field with _ | state
  · rw [hstate] at h
    exact absurd h (by simp)
  · rw [hstate] at h
    by_cases hexpected : state ∈ expectedStates
    · simp only [hexpected, not_true_eq_false, if_false] at h
      obtain ⟨changes, hchanges, h⟩ := checked_bind_eq_ok_iff.mp h
      obtain ⟨value, hvalue, heq⟩ := checked_map_eq_ok_iff.mp h
      cases heq
      exact ⟨state, rfl, hexpected, _, _, changes, hchanges, hvalue⟩
    · simp [hexpected] at h

/-! ### Manual resolution -/

inductive ManualOutcome
  | materialized | confirmedAbsent
  deriving DecidableEq, Repr

def ManualOutcome.value : ManualOutcome → String
  | materialized => "materialized"
  | confirmedAbsent => "confirmed_absent"

/-- The time a resolution is stored under: `<operation>_<outcome>_at`. The record has no typed field
for the confirmed absence of a pane. -/
def resolvedAt (resolvedAt : Time) : ManualOperation → ManualOutcome → List Change
  | .prompt, _ => []
  | .agent, .confirmedAbsent => [.put (.float .agentConfirmedAbsentAt) (some resolvedAt)]
  | .agent, .materialized => [.put (.float .agentRetainedAt) (some resolvedAt)]
  | .fork, .confirmedAbsent => [.put (.float .forkConfirmedAbsentAt) (some resolvedAt)]
  | .fork, .materialized => [.put (.float .forkRetainedAt) (some resolvedAt)]
  | .worktree, .confirmedAbsent => [.put (.float .worktreeConfirmedAbsentAt) (some resolvedAt)]
  | .worktree, .materialized => [.put (.float .worktreeRetainedAt) (some resolvedAt)]
  | .pane, .confirmedAbsent =>
    [.put (.other "pane_confirmed_absent_at") (some (.float resolvedAt))]
  | .pane, .materialized => [.put (.float .paneRetainedAt) (some resolvedAt)]

/-- The slot, the outcome and the worker claim after a resolution. -/
def releasedSlot (now : Time) (outcome : ManualOutcome) : List Change :=
  [⟨.text .manualReconcileOperation, .null⟩, ⟨.text .manualReconcileToken, .null⟩,
    .put (.float .manualReconcileResolvedAt) (some now),
    .put (.text .manualReconcileOutcome) (some outcome.value),
    ⟨.text .workerOperation, .null⟩, ⟨.int .workerPid, .null⟩, ⟨.text .workerBootId, .null⟩,
    ⟨.text .workerProcessStart, .null⟩, ⟨.text .workerToken, .null⟩]

/-- The cleanup after a resolution: a staged terminal outcome and a manual release keep their
fence, every other release is dropped. -/
def resolvedCleanup (cleanup : CleanupState) : CleanupState :=
  if job.values.terminalIntentStatus.isSome || job.values.bool .targetReleaseManualRequired then
    finishCleanupReconciliation (abandonCleanupOwner cleanup)
  else .settled

/-- The changes of an agent that was confirmed absent: what the operation was bound to stays, the
job lets the agent go. -/
def absentAgent : List Change :=
  [⟨.text .agentOperationTarget, .ofOption
      (firstText (job.values.text .agentOperationTarget) (job.values.text .herdrTarget))⟩,
    ⟨.text .agentOperationWorkspaceId, .ofOption (firstText
      (job.values.text .agentOperationWorkspaceId) (job.values.text .herdrWorkspaceId))⟩,
    ⟨.text .agentOperationPaneId, .ofOption
      (firstText (job.values.text .agentOperationPaneId) (job.values.text .herdrPaneId))⟩,
    ⟨.text .agentOperationCheckout, .ofOption
      (firstText (job.values.text .agentOperationCheckout)
        (firstText (job.values.text .worktreePath) (job.values.text .repository)))⟩] ++
  droppedAgent ++ [⟨.float .agentNextReconcileAt, .null⟩] ++ job.droppedParticipant

/-- The changes that belong to the operation and the outcome; none where the job lacks what the
outcome needs. -/
def resolvedOperation (outcome : ManualOutcome) (paneId workspaceId : Option String) :
    ManualOperation → Checked (Option (List Change))
  | .prompt =>
    match outcome with
    | .materialized =>
      .ok (some [.put (.operation .promptOperationState) (some .submitted)])
    | .confirmedAbsent =>
      .ok (some [.put (.operation .promptOperationState) (some .none),
        ⟨.phase .promptOperationPhase, .null⟩, ⟨.int .promptOperationTurn, .null⟩,
        ⟨.text .promptOperationTarget, .null⟩, ⟨.int .promptBaselineSequence, .null⟩])
  | .pane =>
    match outcome with
    | .confirmedAbsent =>
      .ok (some [.put (.operation .participantCreationState) (some .none),
        ⟨.participant .participantCreationParticipant, .null⟩,
        ⟨.text .participantCreationTarget, .null⟩, ⟨.text .participantCreationLabel, .null⟩,
        ⟨.text .participantCreationWorkspaceId, .null⟩,
        ⟨.text .participantCreationPaneId, .null⟩])
    | .materialized => do
      let pane := firstText paneId (job.values.text .participantCreationPaneId)
      let workspace := firstText workspaceId (job.values.text .participantCreationWorkspaceId)
      if truthy pane && truthy workspace then
        let creation := (← job.values.participantLifecycle).creation
        match creation.created (pane.getD "") (workspace.getD "") with
        | .error _ => .ok none
        | .ok creation =>
          .ok (some [.put (.operation .participantCreationState) (some creation.state.label),
            ⟨.text .participantCreationPaneId, .ofOption creation.paneId⟩,
            ⟨.text .participantCreationWorkspaceId, .ofOption creation.workspaceId⟩,
            ⟨.text .herdrPaneId, .ofOption pane⟩, ⟨.text .herdrWorkspaceId, .ofOption workspace⟩,
            ⟨.text .agentName, .ofOption (job.values.text .participantCreationTarget)⟩])
      else .ok none
  | .worktree =>
    match outcome with
    | .confirmedAbsent =>
      .ok (some [.put (.operation .worktreeProvisionState) (some .confirmedAbsent)])
    | .materialized => do
      let pane := firstText paneId (job.values.text .worktreeRootPaneId)
      let workspace := firstText workspaceId (job.values.text .worktreeWorkspaceId)
      match ← job.values.checkoutOperation with
      | none => .ok none
      | some checkout =>
        if truthy pane && truthy workspace then
          match checkout.transition .retained workspace pane with
          | .error _ => .ok none
          | .ok retained => .ok (some retained.fields)
        else .ok none
  | .fork =>
    match outcome with
    | .confirmedAbsent =>
      .ok (some [.put (.operation .forkOperationState) (some .confirmedAbsent)])
    | .materialized =>
      if job.values.hasText .forkOperationTarget then
        .ok (some [.put (.operation .forkOperationState) (some .retained),
          .put (.bool .forkExists) (some true),
          ⟨.text .forkRepository, .ofOption (job.values.text .forkOperationTarget)⟩])
      else .ok none
  | .agent =>
    match outcome with
    | .confirmedAbsent =>
      .ok (some (.put (.operation .agentDispatchState) (some .confirmedAbsent) ::
        job.absentAgent))
    | .materialized =>
      if job.values.hasText .herdrTarget && (job.values.text .agentProvider).isSome &&
          (job.values.text .agentProviderSessionId).isSome &&
          (job.values.int .agentStateSequence).isSome then
        .ok (some [.put (.operation .agentDispatchState) (some .retained)])
      else .ok none

/-- The changes a confirmed absence or a materialisation makes. -/
def resolutionChanges (operation : ManualOperation) (outcome : ManualOutcome) (now : Time)
    (cleanup : CleanupState) (resolved : List Change) : List Change :=
  releasedSlot now outcome ++ resolvedAt now operation outcome ++
    (job.resolvedCleanup cleanup).fields ++ resolved

/-- `resolve_manual_operation`. -/
def resolveManualOperation (operation : ManualOperation) (outcome : ManualOutcome) (now : Time)
    (paneId workspaceId : Option String := none) (jobChanges : List Change := []) :
    Checked (Option AgentJob) := do
  let cleanup ← job.values.cleanupState
  if job.values.terminalIntentStatus.isSome && !job.values.bool .targetReleasePending then
    .error "terminal reconciliation requires release cleanup"
  else
    match ← job.resolvedOperation outcome paneId workspaceId operation with
    | none => .ok none
    | some resolved =>
      some <$> job.evolveRecovery
        (job.resolutionChanges operation outcome now cleanup resolved ++ jobChanges) now none []
        true

/-- What `resolve_manual_operation` does to a job it accepts. -/
theorem resolveManualOperation_ok {job next : AgentJob} {operation : ManualOperation}
    {outcome : ManualOutcome} {now : Time} {paneId workspaceId : Option String}
    {jobChanges : List Change}
    (h : job.resolveManualOperation operation outcome now paneId workspaceId jobChanges =
      .ok (some next)) :
    ∃ cleanup resolved, job.values.cleanupState = .ok cleanup ∧
      job.resolvedOperation outcome paneId workspaceId operation = .ok (some resolved) ∧
      job.evolveRecovery
        (job.resolutionChanges operation outcome now cleanup resolved ++ jobChanges) now none []
        true = .ok next := by
  obtain ⟨cleanup, hcleanup, h⟩ := checked_bind_eq_ok_iff.mp h
  split_ifs at h
  obtain ⟨resolved, hresolved, h⟩ := checked_bind_eq_ok_iff.mp h
  rcases resolved with _ | resolved
  · exact absurd h (by simp)
  · obtain ⟨value, hvalue, heq⟩ := checked_map_eq_ok_iff.mp h
    cases heq
    exact ⟨cleanup, resolved, hcleanup, hresolved, hvalue⟩

end AgentJob

end VoiceHarness
