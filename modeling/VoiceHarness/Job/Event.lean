import VoiceHarness.Job.Operations
import VoiceHarness.Job.Lifecycle
import VoiceHarness.Job.Workflow
import VoiceHarness.Job.Prompt

/-!
# The job lifecycle and its events

`job_lifecycle.py`: a job as one variant for each status, and the events that move it from one
revision to the next. `applyEvent` is the fence of every transition: the event names the revision it
was decided on, the identity moves by exactly one revision, and the status follows a legal edge.
-/

set_option autoImplicit false
set_option relaxedAutoImplicit false

namespace VoiceHarness

/-- `[0-9a-f]{12}`. -/
def isJobId (text : String) : Bool := text.toList.length = 12 && text.toList.all isLowerHex

/-- `[a-z][a-z0-9-]*`. -/
def isProviderName (text : String) : Bool :=
  match text.toList with
  | [] => false
  | first :: rest =>
    ('a' ≤ first && first ≤ 'z') &&
      rest.all fun c ↦ ('a' ≤ c && c ≤ 'z') || ('0' ≤ c && c ≤ '9') || c = '-'

structure JobIdentity where
  id : String
  createdAt : Time
  parentId : Option String
  request : String
  harness : HarnessKind
  provider : Option String
  revision : ℤ
  deriving DecidableEq

namespace JobIdentity

/-- `JobIdentity.__post_init__`. -/
def guards (identity : JobIdentity) : List Guard :=
  [(!isJobId identity.id, "job id must be 12 lowercase hexadecimal characters"),
    (identity.parentId.any fun parentId ↦ !isJobId parentId || parentId = identity.id,
      "job parent identity is invalid"),
    (identity.provider.any (!isProviderName ·), "job provider identity is invalid"),
    (identity.revision < 0, "job revision must not be negative")]

def nextRevision (identity : JobIdentity) : JobIdentity :=
  { identity with revision := identity.revision + 1 }

end JobIdentity

structure ExecutionComponents where
  prompt : Option PromptOperation
  workflow : WorkflowState
  deriving DecidableEq

inductive JobLifecycle
  | queued (identity : JobIdentity) (queuedAt : Time) (execution : ExecutionComponents)
      (worker : Option WorkerOwnership)
  | routing (identity : JobIdentity) (worker : WorkerOwnership) (execution : ExecutionComponents)
  | running (identity : JobIdentity) (worker : WorkerOwnership) (execution : ExecutionComponents)
  | awaitingUser (identity : JobIdentity) (question result : String)
      (execution : ExecutionComponents)
  | blocked (identity : JobIdentity) (result : String) (blockedAt : Time)
      (execution : ExecutionComponents)
  | reconciling (identity : JobIdentity) (execution : ExecutionComponents)
      (cleanup : CleanupState) (intent : Option TerminalOutcome) (worker : Option WorkerOwnership)
  | terminal (identity : JobIdentity) (execution : ExecutionComponents)
      (outcome : TerminalOutcome)
  deriving DecidableEq

namespace JobLifecycle

def identity : JobLifecycle → JobIdentity
  | queued identity .. | routing identity .. | running identity .. | awaitingUser identity ..
  | blocked identity .. | reconciling identity .. | terminal identity .. => identity

def state : JobLifecycle → JobStatus
  | queued .. => .queued
  | routing .. => .routing
  | running .. => .running
  | awaitingUser .. => .awaitingUser
  | blocked .. => .blocked
  | reconciling .. => .reconciling
  | terminal _ _ outcome => outcome.status

/-- `getattr(current, "worker", None)`. -/
def worker : JobLifecycle → Option WorkerOwnership
  | queued _ _ _ worker | reconciling _ _ _ _ worker => worker
  | routing _ worker _ | running _ worker _ => some worker
  | awaitingUser .. | blocked .. | terminal .. => none

end JobLifecycle

/-- The classes of `JobEvent`. -/
inductive EventKind
  | lifecycle | recovery | cancellation
  | workerCallback (expectedWorker : WorkerOwnership)
  deriving DecidableEq

structure JobEvent where
  kind : EventKind
  expectedRevision : ℤ
  nextState : JobLifecycle
  deriving DecidableEq

/-- A recovery observation may end a queued job without another worker. -/
def recoveryEnds (kind : EventKind) (current after : JobStatus) : Bool :=
  kind = .recovery && current = .queued && (after = .completed || after = .blocked)

/-- `apply_event`. -/
def applyEvent (current : JobLifecycle) (event : JobEvent) : Checked JobLifecycle :=
  let after := event.nextState
  if event.expectedRevision ≠ current.identity.revision then
    .error "stale job lifecycle event revision"
  else if after.identity ≠ current.identity.nextRevision then
    .error ("job identity, creation, parent, request, harness, provider, " ++
      "or revision changed outside a transition")
  else if staleWorker event.kind then .error "stale worker callback identity"
  else if current.state = after.state then
    match current, after with
    | .terminal _ _ outcome, .terminal _ _ next =>
      if outcome ≠ next then .error "materialized terminal outcome is immutable" else .ok after
    | _, _ => .ok after
  else if recoveryEnds event.kind current.state after.state then .ok after
  else if after.state ∉ current.state.legalEdges then
    .error s!"illegal job lifecycle transition {current.state.value} -> {after.state.value}"
  else .ok after
where
  /-- A worker callback that does not come from the current worker. -/
  staleWorker : EventKind → Bool
    | .workerCallback expectedWorker => current.worker ≠ some expectedWorker
    | _ => false

end VoiceHarness
