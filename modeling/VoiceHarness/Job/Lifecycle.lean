import VoiceHarness.Job.Labels

/-!
# Terminal, cleanup and delivery state

The state machines of `cursor/lifecycle.py` that a job record is parsed into: the staged or
materialised terminal outcome, the cleanup that releases the agent's targets, and the announcement
delivery. A load answers the message of `LifecycleTransitionError` where the flat fields are not a
state.
-/

set_option autoImplicit false
set_option relaxedAutoImplicit false

namespace VoiceHarness

/-- `TerminalIntent`, and the data of `MaterializedTerminalOutcome`. -/
structure TerminalOutcome where
  status : JobStatus
  result : String
  error : Option String
  completedAt : Time
  terminal : status.isTerminal = true
  failed_error : status = .failed → truthy error = true
  deriving DecidableEq

def TerminalOutcome.make (status : JobStatus) (result : String) (error : Option String)
    (completedAt : Time) : Checked TerminalOutcome :=
  if terminal : status.isTerminal = true then
    if failed_error : status = .failed → truthy error = true then
      .ok { status, result, error, completedAt, terminal, failed_error }
    else .error "failed terminal intent requires an error"
  else .error "terminal intent requires a terminal status"

inductive TerminalState
  | open
  | intent (outcome : TerminalOutcome)
  | materialized (outcome : TerminalOutcome)
  deriving DecidableEq

/-- `load_terminal_state`. -/
def loadTerminalState (status : JobStatus) (result error : Option String)
    (completedAt : Option Time) (intentStatus : Option JobStatus)
    (intentResult intentError : Option String) (intentCompletedAt : Option Time) :
    Checked TerminalState :=
  match intentStatus with
  | some intentStatus =>
    match intentResult, intentCompletedAt with
    | some intentResult, some intentCompletedAt =>
      .intent <$> TerminalOutcome.make intentStatus intentResult intentError intentCompletedAt
    | _, _ => .error "terminal intent requires result and completion"
  | none =>
    if status.isTerminal then
      match result, completedAt with
      | some result, some completedAt =>
        .materialized <$> TerminalOutcome.make status result error completedAt
      | _, _ => .error "materialized terminal outcome requires result and completion"
    else .ok .open

/-- The owner of a target release. -/
structure CleanupOwner where
  pid : ℤ
  bootId : String
  start : String
  complete : 0 < pid ∧ bootId ≠ "" ∧ start ≠ ""
  deriving DecidableEq

inductive CleanupState
  | settled
  | reconciling
  | pending (token : Option String) (reconciliationPending : Bool)
  | owned (token : Option String) (owner : CleanupOwner) (reconciliationPending : Bool)
  deriving DecidableEq

/-- `load_cleanup_state`. -/
def loadCleanupState (pending : Bool) (token : Option String) (ownerPid : Option ℤ)
    (ownerBootId ownerStart : Option String) (reconciliationPending : Bool) :
    Checked CleanupState :=
  if pending then
    match ownerPid, ownerBootId, ownerStart with
    | none, none, none => .ok (.pending token reconciliationPending)
    | some pid, some bootId, some start =>
      if complete : 0 < pid ∧ bootId ≠ "" ∧ start ≠ "" then
        .ok (.owned token { pid, bootId, start, complete } reconciliationPending)
      else .error "owned cleanup requires complete ownership"
    | _, _, _ => .error "cleanup owner PID, boot ID, and process start must be paired"
  else if truthy token || ownerPid.isSome || ownerBootId.isSome || ownerStart.isSome then
    .error "settled cleanup cannot retain release ownership"
  else .ok (if reconciliationPending then .reconciling else .settled)

/-- `finish_cleanup_reconciliation`. -/
def finishCleanupReconciliation : CleanupState → CleanupState
  | .settled | .reconciling => .settled
  | .pending token _ => .pending token false
  | .owned token owner _ => .owned token owner false

/-- `abandon_cleanup_owner` under the owner's own token; any other state is left as it is. -/
def abandonCleanupOwner : CleanupState → CleanupState
  | .owned token _ reconciliationPending => .pending token reconciliationPending
  | state => state

structure AnnouncementState where
  acknowledgement : AnnouncementAck
  repeated : Bool
  deriving DecidableEq

inductive DeliveryState
  | pending (generation : ℤ) (retryAt : Time) (attempts : ℤ) (announcement : AnnouncementState)
  | claimed (generation : ℤ) (token : String) (claimedAt retryAt : Time) (attempts : ℤ)
      (announcement : AnnouncementState)
  | delivered (generation : ℤ) (deliveredAt : Option Time) (attempts : ℤ)
      (announcement : AnnouncementState)
  deriving DecidableEq

namespace DeliveryState

def generation : DeliveryState → ℤ
  | pending generation .. | claimed generation .. | delivered generation .. => generation

def announcement : DeliveryState → AnnouncementState
  | pending _ _ _ announcement | claimed _ _ _ _ _ announcement
  | delivered _ _ _ announcement => announcement

end DeliveryState

/-- `load_delivery_state`. -/
def loadDeliveryState (delivered : Bool) (generation : ℤ) (claimToken : Option String)
    (claimedAt : Option Time) (retryAt : Time) (attempts : ℤ) (deliveredAt : Option Time)
    (ack : AnnouncementAck) (repeated : Bool) : Checked DeliveryState :=
  let announcement : AnnouncementState := { acknowledgement := ack, repeated }
  if truthy claimToken ≠ claimedAt.isSome then
    .error "delivery claim token and timestamp must be paired"
  else if delivered then
    if truthy claimToken then .error "delivered state cannot retain a claim"
    else if ack ∉ [AnnouncementAck.spoken, .dismissed] then
      .error "delivered state requires spoken or dismissed acknowledgement"
    else .ok (.delivered generation deliveredAt attempts announcement)
  else if ack ∈ [AnnouncementAck.spoken, .dismissed] then
    .error "pending delivery cannot have a final acknowledgement"
  else
    match claimToken, claimedAt with
    | some token, some claimedAt =>
      .ok (.claimed generation token claimedAt retryAt attempts announcement)
    | _, _ => .ok (.pending generation retryAt attempts announcement)

/-- `prepare_delivery`. -/
def prepareDelivery (state : DeliveryState) : DeliveryState :=
  .pending (state.generation + 1) 0 0
    { acknowledgement := .pending, repeated := state.announcement.repeated }

end VoiceHarness
