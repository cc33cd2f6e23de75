import VoiceHarness.Job.AgentJob

/-!
# Transitions

`validate_transition`: what one revision of a job may change in the next. The operations keep their
identities and follow their own transitions, a terminal outcome materialises only after cleanup and
is then immutable, the status follows a legal edge, and the participant, approval and workflow state
machines agree with the step. The last check is the lifecycle event the step was made by.
-/

set_option autoImplicit false
set_option relaxedAutoImplicit false

namespace VoiceHarness

/-- `LEGACY_BOOT_ID`. -/
def legacyBootId : String := "legacy-unknown"

/-- `LEGACY_BOOT_ID in repr(spec)`, for the texts of a spec. -/
def isLegacySpec (texts : List String) : Bool :=
  texts.any fun text ↦ decide (legacyBootId.toList <:+: text.toList)

/-! ### Operation transitions -/

/-- One operation of `_validate_operation_transitions`. A pane may be discarded, the others not. -/
def validateOperation {α : Type} (name : String) (discardable : Bool)
    (change : α → α → Checked Unit) : Option α → Option α → Checked Unit
  | none, _ => .ok ()
  | some _, none =>
    if discardable then .ok () else .error s!"{name} operation identity cannot be discarded"
  | some previous, some current => change previous current

def rewritten (name : String) : Checked Unit :=
  .error s!"{name} operation identity cannot be rewritten"

def checkoutChange (previous current : CheckoutOperation) : Checked Unit :=
  if previous.spec ≠ current.spec then
    if isLegacySpec [previous.spec.repository, previous.spec.branch, previous.spec.path] &&
        previous.state ∈ [CheckoutState.quarantined, .ambiguous, .failedObserving,
          .manualRequired] && current.state.isSettled then .ok ()
    else rewritten "checkout"
  else if previous.state ≠ current.state then
    parses (previous.transition current.state current.workspaceId current.rootPaneId)
  else .ok ()

def forkChange (previous current : ForkOperation) : Checked Unit :=
  if previous.spec ≠ current.spec then
    if isLegacySpec ([previous.spec.source, previous.spec.sourceUrl,
          previous.spec.sourceDefaultBranch, previous.spec.login, previous.spec.target] ++
          previous.spec.sourceParent.toList) &&
        previous.state ∈ [OperationState.unknown, .manual] && current.state = .settled then
      .ok ()
    else rewritten "fork"
  else if previous.state ≠ current.state then parses (previous.transition current.state)
  else .ok ()

/-- The session of an agent that was archived before its operation was replaced. -/
def isArchived (owners : List SessionOwner) (operation : AgentSessionOperation) : Bool :=
  operation.session.any fun session ↦ owners.any fun owner ↦
    owner.provider = session.provider && owner.sessionId = session.sessionId &&
      owner.target = session.target && owner.stateSequence = session.stateSequence &&
      owner.checkout = operation.spec.checkout &&
      owner.workspaceId = operation.spec.workspaceId && owner.paneId = operation.spec.paneId

def agentSessionChange (owners : List SessionOwner) (previous current : AgentSessionOperation) :
    Checked Unit :=
  if previous.spec ≠ current.spec then
    if (previous.state = .confirmedAbsent &&
          current.state ∈ [AgentSessionState.dispatching, .ready, .retained]) ||
        (isLegacySpec [previous.spec.target, previous.spec.checkout, previous.spec.workspaceId,
            previous.spec.paneId] &&
          previous.state ∈ [AgentSessionState.ambiguous, .failedObserving, .manualRequired] &&
          current.state.isSettled) ||
        isArchived owners previous then .ok ()
    else rewritten "agent session"
  else do
    if previous.state ≠ current.state then
      parses (previous.transition current.state current.session)
    match previous.session, current.session with
    | some _, none => .error "agent session identity cannot be discarded"
    | some _, some identity =>
      if previous.acceptsObservation identity then .ok ()
      else .error "agent session identity or sequence is stale"
    | none, _ => .ok ()

def participantPaneChange (previous current : ParticipantPaneOperation) : Checked Unit :=
  if previous.spec ≠ current.spec then
    if (previous.state = .failed && current.state = .planned) ||
        (isLegacySpec [previous.spec.participant, previous.spec.target, previous.spec.label,
            previous.spec.checkout, previous.spec.workspaceId] &&
          previous.state ∈ [OperationState.unknown, .manual] && current.state = .settled) then
      .ok ()
    else rewritten "participant pane"
  else if previous.state ≠ current.state then
    parses (previous.transition current.state current.paneId)
  else .ok ()

/-- `_validate_operation_transitions`. -/
def validateOperationTransitions (before after : Values) : Checked Unit := do
  validateOperation "checkout" false checkoutChange (← before.checkoutOperation)
    (← after.checkoutOperation)
  validateOperation "fork" false forkChange (← before.forkOperation) (← after.forkOperation)
  validateOperation "agent session" false (agentSessionChange after.participantSessionOwners)
    (← before.agentSessionOperation) (← after.agentSessionOperation)
  validateOperation "participant pane" true participantPaneChange
    (← before.participantPaneOperation) (← after.participantPaneOperation)

/-! ### Job transitions -/

/-- What no transition of a job changes. -/
def identityChangeGuards (before after : Values) : List Guard :=
  [(before.jobId ≠ after.jobId, "Cursor job transition cannot change id"),
    (before.createdAt ≠ after.createdAt, "Cursor job transition cannot change created_at"),
    (before.text .parentJobId ≠ after.text .parentJobId,
      "Cursor job transition cannot change parent_job_id"),
    (before.identity.request ≠ after.identity.request,
      "Cursor job transition cannot change the original request"),
    (before.harnessKind ≠ after.harnessKind, "agent job transition cannot change harness_kind"),
    (before.text .issueProvider ≠ after.text .issueProvider,
      "agent job transition cannot change issue_provider")]

def TerminalState.isMaterialized : TerminalState → Bool
  | materialized _ => true
  | .open | .intent _ => false

/-- The fields of its parent's checkout that a follow-up child keeps. -/
def inheritedFields : List (TextField × String) :=
  [(.repository, "repository"), (.worktreeBranch, "worktree_branch"),
    (.worktreePath, "worktree_path"), (.worktreeWorkspaceId, "worktree_workspace_id"),
    (.worktreeRootPaneId, "worktree_root_pane_id")]

def terminalChangeGuards (before after : Values) (beforeTerminal afterTerminal : TerminalState) :
    List Guard :=
  [(before.terminalIntentStatus.isSome && after.terminalIntentStatus.isSome &&
        before.terminalIntentStatus ≠ after.terminalIntentStatus,
      "terminal intent status cannot be rewritten"),
    (afterTerminal.isMaterialized && !beforeTerminal.isMaterialized &&
        (after.bool .targetReleasePending || after.bool .cancellationReconciliationPending ||
          after.hasParticipantTarget),
      "terminal outcome cannot materialize before cleanup settles")] ++
  (inheritedFields.map fun inherited : TextField × String ↦
    (((after.text .parentJobId).isSome && before.text inherited.1 ≠ after.text inherited.1,
      s!"follow-up child cannot change inherited {inherited.2}") : Guard)) ++
  [((after.revision ≠ before.revision + 1 : Bool),
      s!"Cursor job revision must increase by exactly one ({before.revision} -> {after.revision})")]

def statusChangeGuards (recovery : Bool) (before after : Values)
    (beforeTerminal afterTerminal : TerminalState) : List Guard :=
  [(before.status ≠ after.status && after.status ∉ before.status.legalEdges && !recovery,
      s!"illegal Cursor job transition {before.status.value} -> {after.status.value}"),
    (beforeTerminal.isMaterialized && afterTerminal ≠ beforeTerminal,
      "materialized terminal outcome is immutable")]

/-- A held job yields its capacity only for a repository question that holds nothing. -/
def yieldsForRepository (before after : Values) : Bool :=
  (before.status = .routing || before.status = .running) && after.status = .awaitingUser &&
    after.text .clarificationKind = some "repository" && (after.text .workerToken).isNone &&
    after.activeParticipant.isNone && !after.hasParticipantTarget &&
    !after.hasText .participantCreationTarget && !after.hasText .worktreePath

/-- A terminal job that released every participant. -/
def cleanupConfirmed (after : Values) : Bool :=
  after.status.isTerminal && !after.bool .targetReleasePending && !after.hasParticipantTarget

/-- The admission part of `validate_transition`. -/
def validateAdmission (before after : Values) (previous current : ParticipantLifecycle) :
    Checked Unit :=
  if previous.admission = current.admission then .ok ()
  else
    match current.admission with
    | .held => parses previous.admitHeld
    | .waiting =>
      if yieldsForRepository before after then parses previous.yieldCapacity
      else .error ("held participant capacity can only yield for a " ++
        "resource-free repository clarification")
    | .released => parses (previous.release (cleanupConfirmed after))

/-- The workflow part of `validate_transition`. -/
def validateWorkflow (previous current : WorkflowState) : Checked Unit :=
  match previous.classification, current.classification with
  | none, some classification => do
    let expected ← previous.classify classification.tier classification.reason
    if expected ≠ current then .error "classification selected an invalid workflow phase"
    else .ok ()
  | none, none =>
    if previous.phase ≠ current.phase then parses (previous.transition current.phase) else .ok ()
  | some _, none => .error "classified workflow cannot discard classification"
  | some classification, some next => do
    let promoted ← if next ≠ classification then
      classification.promote next.tier next.reason else .ok classification
    let workflow ← WorkflowState.make previous.phase (some promoted)
    parses (workflow.transition current.phase)

/-- `validate_lifecycle_event`. -/
def validateLifecycleEvent (before after : Values) (event : JobEvent) : Checked Unit := do
  let next ← after.lifecycle
  if event.nextState ≠ next then .error "lifecycle event payload does not match update"
  else
    let current ← before.lifecycle
    parses (applyEvent current event)

/-- The event of a transition that recorded none. -/
def defaultEvent (before after : Values) : Checked JobEvent := do
  .ok { kind := .lifecycle, expectedRevision := before.revision, nextState := ← after.lifecycle }

/-- `validate_transition`. -/
def validateTransition (before : AgentJob) (after : AgentJob) : Checked Unit := do
  let old := before.values
  let new := after.values
  runGuards (identityChangeGuards old new)
  validateOperationTransitions old new
  let beforeTerminal ← old.terminalState
  let afterTerminal ← new.terminalState
  runGuards (terminalChangeGuards old new beforeTerminal afterTerminal)
  let recovery := after.lifecycleEvent.any (·.kind = .recovery)
  runGuards (statusChangeGuards recovery old new beforeTerminal afterTerminal)
  let previous ← old.participantLifecycle
  let current ← new.participantLifecycle
  validateAdmission old new previous current
  previous.creation.validateTransition current.creation
  (← old.planApproval).validateTransition (← new.planApproval)
  runGuards [(old.participantAdmissionState = .held &&
      new.participantAdmissionState = .released && !cleanupConfirmed new,
    "held participant capacity requires confirmed terminal cleanup")]
  validateWorkflow (← old.workflowState) (← new.workflowState)
  new.validateInvariants
  let event ← match after.lifecycleEvent with
    | some event => .ok event
    | none => defaultEvent old new
  validateLifecycleEvent old new event

/-- What an accepted transition has passed, with the terminal states before and after it. -/
structure AcceptedTransition (before after : AgentJob) (old new : TerminalState) : Prop where
  oldTerminal : before.values.terminalState = .ok old
  newTerminal : after.values.terminalState = .ok new
  identity : ∀ guard ∈ identityChangeGuards before.values after.values, guard.1 = false
  operations : validateOperationTransitions before.values after.values = .ok ()
  terminal : ∀ guard ∈ terminalChangeGuards before.values after.values old new, guard.1 = false
  status : ∀ guard ∈ statusChangeGuards (after.lifecycleEvent.any (·.kind = .recovery))
    before.values after.values old new, guard.1 = false
  event : ∃ event, (after.lifecycleEvent = some event ∨ after.lifecycleEvent = none ∧
      defaultEvent before.values after.values = .ok event) ∧
    validateLifecycleEvent before.values after.values event = .ok ()

theorem validateTransition_accepted {before after : AgentJob}
    (h : validateTransition before after = .ok ()) :
    ∃ old new, AcceptedTransition before after old new := by
  unfold validateTransition at h
  simp only [checked_bind_eq_ok_iff] at h
  obtain ⟨⟨⟩, hidentity, ⟨⟩, hoperations, old, hold, new, hnew, ⟨⟩, hterminal, ⟨⟩, hstatus, hrest⟩ := h
  obtain ⟨previous, -, current, -, ⟨⟩, -, ⟨⟩, -, approval, -, next, -, ⟨⟩, -, ⟨⟩, -, workflow, -,
    phase, -, ⟨⟩, -, ⟨⟩, -, hevent⟩ := hrest
  rw [runGuards_eq_ok_iff] at hidentity hterminal hstatus
  refine ⟨old, new, hold, hnew, hidentity, hoperations, hterminal, hstatus, ?_⟩
  rcases hrecorded : after.lifecycleEvent with _ | event
  · rw [hrecorded] at hevent
    obtain ⟨event, hdefault, hvalid⟩ := checked_bind_eq_ok_iff.mp hevent
    exact ⟨event, .inr ⟨rfl, hdefault⟩, hvalid⟩
  · rw [hrecorded] at hevent
    exact ⟨event, .inl rfl, hevent⟩

end VoiceHarness
