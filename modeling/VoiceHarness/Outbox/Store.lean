import VoiceHarness.Outbox.Table
import VoiceHarness.Library.Machine

/-!
# The outbox operations of the job store

The methods of `JobStore` in `cursor/store.py` that touch the outbox, each one SQLite transaction,
and the machine whose inputs are their calls. The executors of `cursor/outbox.py` run between these
calls and hold nothing but the lease `claim_outbox` gave them, so a run of the machine over any list
of calls, with any lease in each of them, covers every interleaving of any number of executors.

`last_error` is written here and read by no modelled function; it is left out.
-/

set_option autoImplicit false
set_option relaxedAutoImplicit false

namespace VoiceHarness

def OUTBOX_LEASE_SECONDS : Time := 30
def OUTBOX_RETRY_SECONDS : Time := 5
def OUTBOX_MAX_ATTEMPTS : ℕ := 8

inductive ObservationOutcome
  | confirmed | confirmedAbsent | failed | outcomeUnknown | manualRequired
  deriving DecidableEq, Repr

/-- The stored text of an outcome. -/
def ObservationOutcome.value : ObservationOutcome → String
  | .confirmed => "Confirmed"
  | .confirmedAbsent => "ConfirmedAbsent"
  | .failed => "Failed"
  | .outcomeUnknown => "OutcomeUnknown"
  | .manualRequired => "ManualRequired"

/-- `EffectObservation`: its constructor refuses a retryable outcome other than `Failed`. -/
structure EffectObservation where
  outcome : ObservationOutcome
  retryable : Bool := false
  detail : Dict := []
  retryable_failed : retryable = true → outcome = .failed := by simp

/-- A claimed row, as the executor holds it. -/
structure OutboxLease where
  effectId : String
  jobId : String
  kind : String
  idempotencyKey : String
  concurrencyKey : String
  payload : Dict
  leaseToken : String
  attempts : ℕ
  deriving Repr

/-- The part of the job database the outbox reads and writes: `jobs.revision` and `outbox`. -/
structure OutboxDb where
  revision : String → Option ℕ
  outbox : OutboxTable

namespace OutboxDb

def empty : OutboxDb := ⟨fun _ ↦ none, .empty⟩

/-- What a committed decision does here: its effects are admitted and the job has a new revision.
A refused effect rolls the transaction back. -/
def admitEffects (db : OutboxDb) (jobId : String) (revision : ℕ) (effects : List OutboxEffect) :
    OutboxDb :=
  match db.outbox.insertOutboxEffects effects with
  | none => db
  | some outbox => { outbox, revision := fun id ↦ if id = jobId then some revision
      else db.revision id }

def leaseOf (row : OutboxRow) (token : String) : OutboxLease where
  effectId := row.effectId
  jobId := row.jobId
  kind := row.kind
  idempotencyKey := row.idempotencyKey
  concurrencyKey := row.concurrencyKey
  payload := row.payload
  leaseToken := token
  attempts := row.attempts

def abandonStaleOutboxEffects (db : OutboxDb) (kinds : List String) (now : Time) : OutboxDb :=
  { db with outbox := db.outbox.abandonStaleOutboxEffects db.revision kinds now }

def claimOutbox (db : OutboxDb) (kinds : List String) (now : Time) (leaseToken : String)
    (exclude : List String) : OutboxDb × Option OutboxLease :=
  let abandoned := db.abandonStaleOutboxEffects kinds now
  let claimed := abandoned.outbox.claimDueOutbox kinds now leaseToken exclude
  ({ db with outbox := claimed.1 }, claimed.2.map (leaseOf · leaseToken))

def markOutboxDispatched (db : OutboxDb) (lease : OutboxLease) : OutboxDb × Bool :=
  let marked := db.outbox.markOutboxDispatched db.revision lease.effectId lease.leaseToken
    (OutboxTable.expectedRevision lease.payload)
  ({ db with outbox := marked.1 }, marked.2)

def renewOutboxLease (db : OutboxDb) (lease : OutboxLease) (now : Time) : OutboxDb × Bool :=
  let renewed := db.outbox.renewOutboxLease lease.effectId lease.leaseToken now
  ({ db with outbox := renewed.1 }, renewed.2)

/-- `{**detail, "error": detail.get("error", default)}`. -/
def withError (detail : Dict) (default : String) : Dict :=
  detail.set "error" ((detail.get? "error").getD (.str default))

/-- The observation `observe_outbox` records: a retry requested after the submit fence is an
unknown outcome, and a retry past the attempt bound is a failure. -/
def effectiveObservation (row : OutboxRow) (lease : OutboxLease)
    (observation : EffectObservation) : EffectObservation :=
  if observation.retryable ∧ row.dispatched then
    { outcome := .outcomeUnknown
      detail := withError observation.detail "retry requested after submit fence" }
  else if observation.retryable ∧ OUTBOX_MAX_ATTEMPTS ≤ lease.attempts then
    { outcome := .failed
      detail := withError observation.detail "outbox retry attempts exhausted" }
  else observation

def completionOf (effective : EffectObservation) (now : Time) : OutboxTable.Completion where
  status :=
    if effective.outcome = .outcomeUnknown ∨ effective.outcome = .manualRequired then .unknown
    else if effective.retryable then .failedRetryable
    else if effective.outcome = .failed then .failed
    else .succeeded
  outcome := Dict.merge
    [("outcome", .str effective.outcome.value), ("retryable", .bool effective.retryable)]
    effective.detail
  now := now
  nextAt :=
    if effective.outcome = .outcomeUnknown ∨ effective.outcome = .manualRequired then none
    else if effective.retryable then some (now + OUTBOX_RETRY_SECONDS)
    else none

def observeOutbox (db : OutboxDb) (lease : OutboxLease) (observation : EffectObservation)
    (now : Time) : OutboxDb × OutboxTable.ObservationReply :=
  match db.outbox.load lease.effectId with
  | none => (db, .missing)
  | some row =>
    let completed := db.outbox.completeOutboxObservation lease.effectId lease.idempotencyKey
      lease.leaseToken (completionOf (effectiveObservation row lease observation) now)
    ({ db with outbox := completed.1 }, completed.2)

/-- What `release_outbox_lease` records for a handler that failed before dispatch. -/
def releaseCompletion (lease : OutboxLease) (error : Option String) (now : Time) :
    OutboxTable.Completion where
  status := if lease.attempts < OUTBOX_MAX_ATTEMPTS then .failedRetryable else .failed
  outcome := [("outcome", .str "Failed"),
    ("retryable", .bool (lease.attempts < OUTBOX_MAX_ATTEMPTS)),
    ("error", .str (if error.getD "" = "" then "effect handler failed before dispatch"
      else error.getD ""))]
  now := now
  nextAt := if lease.attempts < OUTBOX_MAX_ATTEMPTS then some (now + OUTBOX_RETRY_SECONDS)
    else none

def releaseOutboxLease (db : OutboxDb) (lease : OutboxLease) (error : Option String)
    (now : Time) : OutboxDb × Bool :=
  match db.outbox.load lease.effectId with
  | none => (db, false)
  | some row =>
    if row.leaseToken.getD "" ≠ lease.leaseToken then (db, false)
    else if row.dispatched then (db, false)
    else
      let completed := db.outbox.completeOutboxObservation lease.effectId lease.idempotencyKey
        lease.leaseToken (releaseCompletion lease error now)
      ({ db with outbox := completed.1 }, completed.2 = .applied)

/-- What the reaper records for an expired lease. -/
def reapCompletion (row : OutboxRow) (now : Time) : OutboxTable.Completion :=
  if row.dispatched then
    { status := .unknown
      outcome := [("outcome", .str "OutcomeUnknown"), ("retryable", .bool false)]
      now := now, nextAt := none }
  else if row.attempts < OUTBOX_MAX_ATTEMPTS then
    { status := .failedRetryable
      outcome := [("outcome", .str "Failed"), ("retryable", .bool true)]
      now := now, nextAt := some (now + OUTBOX_RETRY_SECONDS) }
  else
    { status := .failed
      outcome := [("outcome", .str "Failed"), ("retryable", .bool false),
        ("error", .str "outbox retry attempts exhausted")]
      now := now, nextAt := none }

/-- One pass of the reaper's loop; the expired rows were read before it. -/
def reapRow (now : Time) (state : OutboxTable × ℕ) (row : OutboxRow) : OutboxTable × ℕ :=
  let completed := state.1.completeOutboxObservation row.effectId row.idempotencyKey
    (row.leaseToken.getD "") (reapCompletion row now)
  (completed.1, if completed.2 = .applied then state.2 + 1 else state.2)

def reapExpiredOutboxLeases (db : OutboxDb) (now leaseSeconds : Time) : OutboxDb × ℕ :=
  let reaped := (db.outbox.expiredOutboxLeases now leaseSeconds).foldl (reapRow now)
    (db.outbox, 0)
  ({ db with outbox := reaped.1 }, reaped.2)

end OutboxDb

/-- The calls of the outbox machine. Every argument is the caller's choice. -/
inductive OutboxCall
  | admitEffects (jobId : String) (revision : ℕ) (effects : List OutboxEffect)
  | abandonStale (kinds : List String) (now : Time)
  | claim (kinds : List String) (now : Time) (leaseToken : String) (exclude : List String)
  | markDispatched (lease : OutboxLease)
  | renew (lease : OutboxLease) (now : Time)
  | observe (lease : OutboxLease) (observation : EffectObservation) (now : Time)
  | release (lease : OutboxLease) (error : Option String) (now : Time)
  | reapExpired (now leaseSeconds : Time)

inductive OutboxReply
  | done
  | leased (lease : Option OutboxLease)
  | confirmed (result : Bool)
  | observed (reply : OutboxTable.ObservationReply)
  | reaped (count : ℕ)

namespace OutboxDb

/-- The transaction a call runs and what it returns. -/
def step (db : OutboxDb) : OutboxCall → OutboxDb × OutboxReply
  | .admitEffects jobId revision effects => (db.admitEffects jobId revision effects, .done)
  | .abandonStale kinds now => (db.abandonStaleOutboxEffects kinds now, .done)
  | .claim kinds now leaseToken exclude =>
    Prod.map id .leased (db.claimOutbox kinds now leaseToken exclude)
  | .markDispatched lease => Prod.map id .confirmed (db.markOutboxDispatched lease)
  | .renew lease now => Prod.map id .confirmed (db.renewOutboxLease lease now)
  | .observe lease observation now =>
    Prod.map id .observed (db.observeOutbox lease observation now)
  | .release lease error now => Prod.map id .confirmed (db.releaseOutboxLease lease error now)
  | .reapExpired now leaseSeconds =>
    Prod.map id .reaped (db.reapExpiredOutboxLeases now leaseSeconds)

end OutboxDb

/-- The outbox as a machine over the calls of its executors. -/
def outboxMachine : Library.Machine OutboxDb OutboxCall OutboxReply := ⟨OutboxDb.step⟩

end VoiceHarness
