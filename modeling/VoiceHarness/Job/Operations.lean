import VoiceHarness.Job.Labels

/-!
# Typed external operations

`cursor/operations.py`: the typed values over the flat fields of a checkout, a fork, an agent
session, a participant pane and a worker claim. A value carries the facts its `__post_init__`
checks, so an incomplete operation cannot be built; `make` is the constructor call, and answers the
message of the exception where the source raises.
-/

set_option autoImplicit false
set_option relaxedAutoImplicit false

namespace VoiceHarness

/-- `OperationState`. -/
inductive OperationState
  | planned | active | settled | unknown | failed | manual
  deriving DecidableEq, Repr

namespace OperationState

def value : OperationState → String
  | planned => "planned"
  | active => "active"
  | settled => "settled"
  | unknown => "unknown"
  | failed => "failed"
  | manual => "manual"

/-- `_TRANSITIONS`. -/
def transitions : OperationState → List OperationState
  | planned => [active, settled, failed]
  | active => [settled, unknown, failed, manual]
  | unknown => [settled, failed, manual]
  | manual => [settled, failed]
  | settled => [failed]
  | failed => []

end OperationState

/-- `CheckoutState`. -/
inductive CheckoutState
  | planned | dispatching | ready | retained | quarantined | ambiguous | failedObserving
  | confirmedAbsent | manualRequired
  deriving DecidableEq, Repr

namespace CheckoutState

def label : CheckoutState → OperationLabel
  | planned => .planned
  | dispatching => .dispatching
  | ready => .ready
  | retained => .retained
  | quarantined => .quarantined
  | ambiguous => .ambiguous
  | failedObserving => .failedObserving
  | confirmedAbsent => .confirmedAbsent
  | manualRequired => .manualRequired

/-- `CheckoutState(label)`, where the label is one of the class. -/
def ofLabel? : OperationLabel → Option CheckoutState
  | .planned => some planned
  | .dispatching => some dispatching
  | .ready => some ready
  | .retained => some retained
  | .quarantined => some quarantined
  | .ambiguous => some ambiguous
  | .failedObserving => some failedObserving
  | .confirmedAbsent => some confirmedAbsent
  | .manualRequired => some manualRequired
  | _ => none

/-- `_SETTLED_CHECKOUT_STATES`. -/
def isSettled : CheckoutState → Bool
  | ready | retained => true
  | _ => false

/-- `_CHECKOUT_TRANSITIONS`. -/
def transitions : CheckoutState → List CheckoutState
  | planned => [dispatching, ready, retained, confirmedAbsent]
  | dispatching =>
    [ready, retained, quarantined, ambiguous, failedObserving, confirmedAbsent, manualRequired]
  | quarantined =>
    [ready, retained, ambiguous, failedObserving, confirmedAbsent, manualRequired]
  | ambiguous => [ready, retained, quarantined, failedObserving, confirmedAbsent, manualRequired]
  | failedObserving => [ready, retained, quarantined, ambiguous, confirmedAbsent, manualRequired]
  | manualRequired => [ready, retained, confirmedAbsent]
  | ready => [retained, confirmedAbsent]
  | retained => [ready, confirmedAbsent]
  | confirmedAbsent => []

end CheckoutState

/-- `AgentSessionState`. -/
inductive AgentSessionState
  | dispatching | ready | retained | ambiguous | failedObserving | confirmedAbsent
  | manualRequired
  deriving DecidableEq, Repr

namespace AgentSessionState

def label : AgentSessionState → OperationLabel
  | dispatching => .dispatching
  | ready => .ready
  | retained => .retained
  | ambiguous => .ambiguous
  | failedObserving => .failedObserving
  | confirmedAbsent => .confirmedAbsent
  | manualRequired => .manualRequired

/-- `AgentSessionState(label)`, where the label is one of the class. -/
def ofLabel? : OperationLabel → Option AgentSessionState
  | .dispatching => some dispatching
  | .ready => some ready
  | .retained => some retained
  | .ambiguous => some ambiguous
  | .failedObserving => some failedObserving
  | .confirmedAbsent => some confirmedAbsent
  | .manualRequired => some manualRequired
  | _ => none

/-- `_SETTLED_SESSION_STATES`. -/
def isSettled : AgentSessionState → Bool
  | ready | retained => true
  | _ => false

/-- `_SESSION_TRANSITIONS`. -/
def transitions : AgentSessionState → List AgentSessionState
  | dispatching => [ready, retained, ambiguous, failedObserving, confirmedAbsent, manualRequired]
  | ambiguous => [ready, retained, failedObserving, confirmedAbsent, manualRequired]
  | failedObserving => [ready, retained, ambiguous, confirmedAbsent, manualRequired]
  | manualRequired => [ready, retained, ambiguous, confirmedAbsent]
  | ready => [retained, confirmedAbsent]
  | retained => [ready, confirmedAbsent]
  | confirmedAbsent => []

end AgentSessionState

/-- The message of `_required` when a value is missing. -/
def requiredMessage (subject : String) (values : List (String × String)) : String :=
  subject ++ " requires complete " ++
    ", ".intercalate ((values.filter fun value ↦ value.2 = "").map Prod.fst) ++ " identity"

structure CheckoutSpec where
  repository : String
  branch : String
  path : String
  complete : repository ≠ "" ∧ branch ≠ "" ∧ path ≠ ""
  deriving DecidableEq

def CheckoutSpec.make (repository branch path : String) : Checked CheckoutSpec :=
  if complete : repository ≠ "" ∧ branch ≠ "" ∧ path ≠ "" then
    .ok { repository, branch, path, complete }
  else .error (requiredMessage "checkout spec"
    [("repository", repository), ("branch", branch), ("path", path)])

structure CheckoutOperation where
  state : CheckoutState
  spec : CheckoutSpec
  workspaceId : Option String
  rootPaneId : Option String
  paired : truthy workspaceId = truthy rootPaneId
  settled : state.isSettled = true → truthy workspaceId = true ∧ truthy rootPaneId = true
  deriving DecidableEq

namespace CheckoutOperation

def make (state : CheckoutState) (spec : CheckoutSpec) (workspaceId rootPaneId : Option String) :
    Checked CheckoutOperation :=
  if paired : truthy workspaceId = truthy rootPaneId then
    if settled : state.isSettled = true →
        truthy workspaceId = true ∧ truthy rootPaneId = true then
      .ok { state, spec, workspaceId, rootPaneId, paired, settled }
    else .error "settled checkout requires workspace and root-pane identity"
  else .error "checkout workspace and root-pane identity must be paired"

def transition (operation : CheckoutOperation) (state : CheckoutState)
    (workspaceId rootPaneId : Option String := none) : Checked CheckoutOperation :=
  if state ≠ operation.state ∧ state ∉ operation.state.transitions then
    .error s!"checkout cannot transition from {operation.state.label.value} to {state.label.value}"
  else make state operation.spec
    (if truthy workspaceId then workspaceId else operation.workspaceId)
    (if truthy rootPaneId then rootPaneId else operation.rootPaneId)

end CheckoutOperation

/-- `checkout_blocks_reservation`. -/
def checkoutBlocksReservation : Option CheckoutState → Bool
  | some .quarantined | some .manualRequired => true
  | _ => false

structure ForkSpec where
  source : String
  sourceUrl : String
  sourceDefaultBranch : String
  sourcePrivate : Bool
  login : String
  target : String
  sourceParent : Option String
  complete : source ≠ "" ∧ sourceUrl ≠ "" ∧ sourceDefaultBranch ≠ "" ∧ login ≠ "" ∧ target ≠ ""
  deriving DecidableEq

def ForkSpec.make (source sourceUrl sourceDefaultBranch : String) (sourcePrivate : Bool)
    (login target : String) (sourceParent : Option String) : Checked ForkSpec :=
  if complete : source ≠ "" ∧ sourceUrl ≠ "" ∧ sourceDefaultBranch ≠ "" ∧ login ≠ "" ∧
      target ≠ "" then
    .ok { source, sourceUrl, sourceDefaultBranch, sourcePrivate, login, target, sourceParent,
          complete }
  else .error (requiredMessage "fork spec" [("source", source), ("source_url", sourceUrl),
    ("source_default_branch", sourceDefaultBranch), ("login", login), ("target", target)])

structure ForkOperation where
  state : OperationState
  spec : ForkSpec
  deriving DecidableEq

def ForkOperation.transition (operation : ForkOperation) (state : OperationState) :
    Checked ForkOperation :=
  if state ∉ operation.state.transitions then
    .error s!"fork cannot transition from {operation.state.value} to {state.value}"
  else .ok { operation with state }

structure SessionIdentity where
  provider : String
  sessionId : String
  target : String
  stateSequence : ℕ
  complete : provider ≠ "" ∧ sessionId ≠ "" ∧ target ≠ ""
  deriving DecidableEq

def SessionIdentity.make (provider sessionId target : String) (stateSequence : ℤ) :
    Checked SessionIdentity :=
  if complete : provider ≠ "" ∧ sessionId ≠ "" ∧ target ≠ "" then
    if stateSequence < 0 then .error "session state sequence must not be negative"
    else .ok { provider, sessionId, target, stateSequence := stateSequence.toNat, complete }
  else .error (requiredMessage "session identity"
    [("provider", provider), ("session_id", sessionId), ("target", target)])

/-- `accepts`. -/
def SessionIdentity.accepts (session observed : SessionIdentity) : Bool :=
  observed.provider = session.provider && observed.sessionId = session.sessionId &&
    observed.target = session.target && session.stateSequence ≤ observed.stateSequence

structure AgentSessionSpec where
  target : String
  checkout : String
  workspaceId : String
  paneId : String
  complete : target ≠ "" ∧ checkout ≠ "" ∧ workspaceId ≠ "" ∧ paneId ≠ ""
  deriving DecidableEq

def AgentSessionSpec.make (target checkout workspaceId paneId : String) :
    Checked AgentSessionSpec :=
  if complete : target ≠ "" ∧ checkout ≠ "" ∧ workspaceId ≠ "" ∧ paneId ≠ "" then
    .ok { target, checkout, workspaceId, paneId, complete }
  else .error (requiredMessage "agent session spec" [("target", target), ("checkout", checkout),
    ("workspace_id", workspaceId), ("pane_id", paneId)])

structure AgentSessionOperation where
  state : AgentSessionState
  spec : AgentSessionSpec
  session : Option SessionIdentity
  sameTarget : ∀ identity, session = some identity → identity.target = spec.target
  settled : state.isSettled = true → session.isSome = true
  deriving DecidableEq

namespace AgentSessionOperation

def make (state : AgentSessionState) (spec : AgentSessionSpec)
    (session : Option SessionIdentity) : Checked AgentSessionOperation :=
  match session with
  | none =>
    if settled : state.isSettled = true → (none : Option SessionIdentity).isSome = true then
      .ok ⟨state, spec, none, by simp, settled⟩
    else .error "settled agent operation requires provider session identity"
  | some identity =>
    if sameTarget : identity.target = spec.target then
      .ok ⟨state, spec, some identity, by rintro _ ⟨⟩; exact sameTarget, fun _ ↦ rfl⟩
    else .error "agent session target does not match its spec"

def transition (operation : AgentSessionOperation) (state : AgentSessionState)
    (session : Option SessionIdentity := none) : Checked AgentSessionOperation :=
  if state ≠ operation.state ∧ state ∉ operation.state.transitions then
    .error ("agent session cannot transition from " ++ operation.state.label.value ++ " to " ++
      state.label.value)
  else make state operation.spec (session.or operation.session)

def acceptsObservation (operation : AgentSessionOperation) (identity : SessionIdentity) : Bool :=
  operation.session.any (·.accepts identity)

end AgentSessionOperation

structure ParticipantPaneSpec where
  participant : String
  target : String
  label : String
  checkout : String
  workspaceId : String
  complete : participant ≠ "" ∧ target ≠ "" ∧ label ≠ "" ∧ checkout ≠ "" ∧ workspaceId ≠ ""
  deriving DecidableEq

def ParticipantPaneSpec.make (participant target label checkout workspaceId : String) :
    Checked ParticipantPaneSpec :=
  if complete : participant ≠ "" ∧ target ≠ "" ∧ label ≠ "" ∧ checkout ≠ "" ∧
      workspaceId ≠ "" then
    .ok { participant, target, label, checkout, workspaceId, complete }
  else .error (requiredMessage "participant pane spec" [("participant", participant),
    ("target", target), ("label", label), ("checkout", checkout), ("workspace_id", workspaceId)])

structure ParticipantPaneOperation where
  state : OperationState
  spec : ParticipantPaneSpec
  paneId : Option String
  settled : state = .settled → truthy paneId = true
  deriving DecidableEq

namespace ParticipantPaneOperation

def make (state : OperationState) (spec : ParticipantPaneSpec) (paneId : Option String) :
    Checked ParticipantPaneOperation :=
  if settled : state = .settled → truthy paneId = true then
    .ok { state, spec, paneId, settled }
  else .error "settled participant pane requires pane identity"

def transition (operation : ParticipantPaneOperation) (state : OperationState)
    (paneId : Option String := none) : Checked ParticipantPaneOperation :=
  if state ∉ operation.state.transitions then
    .error s!"participant pane cannot transition from {operation.state.value} to {state.value}"
  else make state operation.spec (if truthy paneId then paneId else operation.paneId)

end ParticipantPaneOperation

structure WorkerOwnership where
  token : String
  pid : ℤ
  bootId : String
  processStart : String
  operation : String
  claimedAt : Time
  complete : token ≠ "" ∧ bootId ≠ "" ∧ processStart ≠ "" ∧ operation ≠ ""
  live : 0 < pid ∧ 0 ≤ claimedAt
  deriving DecidableEq

/-- `load_worker_ownership`: all six fields or none. -/
def loadWorkerOwnership (token : Option String) (pid : Option ℤ)
    (bootId processStart operation : Option String) (claimedAt : Option Time) :
    Checked (Option WorkerOwnership) :=
  match token, pid, bootId, processStart, operation, claimedAt with
  | none, none, none, none, none, none => .ok none
  | some token, some pid, some bootId, some processStart, some operation, some claimedAt =>
    if complete : token ≠ "" ∧ bootId ≠ "" ∧ processStart ≠ "" ∧ operation ≠ "" then
      if live : 0 < pid ∧ 0 ≤ claimedAt then
        .ok (some { token, pid, bootId, processStart, operation, claimedAt, complete, live })
      else .error "worker ownership has invalid process identity"
    else .error (requiredMessage "worker ownership" [("token", token), ("boot_id", bootId),
      ("process_start", processStart), ("operation", operation)])
  | _, _, _, _, _, _ => .error "worker ownership is incomplete"

end VoiceHarness
