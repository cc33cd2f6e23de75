import VoiceHarness.Json
import Mathlib.Data.List.Nodup
import Mathlib.Data.List.Forall2
import Mathlib.Logic.Relation

/-!
# The outbox table

The `outbox` table of `cursor/sqlite_store.py` and the statements that read and write it. An effect
row has immutable cells, written once by `insert_outbox_effects`, and cells the statements update;
`outbox_concurrency`, inserted with the row and never updated, is its `concurrencyKey`. The table
keeps its rows in `rowid` order, and its two keys, the primary key and the unique idempotency key,
are fields of the structure, so that every `UPDATE` here keeps them by construction.

`UPDATE ... WHERE` is `OutboxTable.update`: it rewrites the matching rows and leaves their immutable
cells alone. Each statement below is one such update, so the rows of the table after any statement
are reached from the rows before by the row transitions `RowStep` of `Outbox.Rows`.
-/

set_option autoImplicit false
set_option relaxedAutoImplicit false

namespace VoiceHarness

/-- The values of `outbox.status`. -/
inductive OutboxStatus
  | pending | running | failedRetryable | succeeded | failed | unknown
  deriving DecidableEq, Repr

/-- `status IN ('succeeded', 'failed', 'unknown')`. -/
def OutboxStatus.isTerminal : OutboxStatus → Bool
  | .succeeded | .failed | .unknown => true
  | .pending | .running | .failedRetryable => false

/-- `status IN ('pending', 'failed-retryable')`. -/
def OutboxStatus.isWaiting : OutboxStatus → Bool
  | .pending | .failedRetryable => true
  | .running | .succeeded | .failed | .unknown => false

/-- The cells of an effect that are written once, at admission. -/
structure OutboxEffect where
  effectId : String
  jobId : String
  kind : String
  idempotencyKey : String
  concurrencyKey : String
  payload : Dict
  deriving Repr

/-- `lease_token` and `leased_at`: the table's `CHECK` makes them null together. -/
structure OutboxHold where
  token : String
  leasedAt : Time
  deriving Repr

structure OutboxRow extends OutboxEffect where
  status : OutboxStatus := .pending
  attempts : ℕ := 0
  nextAt : Option Time := none
  hold : Option OutboxHold := none
  completedAt : Option Time := none
  outcome : Option Dict := none
  deriving Repr

namespace OutboxRow

/-- `lease_token`. -/
def leaseToken (row : OutboxRow) : Option String := row.hold.map OutboxHold.token

/-- `{"fence": "submitted"}`, what `mark_outbox_dispatched` writes. -/
def submitFence : Dict := [("fence", .str "submitted")]

/-- `fence.get("fence") == "submitted"` on `json.loads(outcome_json) if outcome_json else {}`. -/
def dispatched (row : OutboxRow) : Bool :=
  match (row.outcome.getD []).get? "fence" with
  | some (.str fence) => fence = "submitted"
  | _ => false

/-- The rows a claim or an abandonment may take: waiting and without a lease. -/
def unleased (row : OutboxRow) : Bool := row.hold.isNone && row.status.isWaiting

/-- The rows a fence, a renewal or an observation under a lease token may write. -/
def heldBy (row : OutboxRow) (effectId leaseToken : String) : Bool :=
  row.effectId = effectId && row.leaseToken = some leaseToken && row.status = .running

end OutboxRow

/-- The `outbox` table with its primary key and its unique idempotency key. -/
structure OutboxTable where
  rows : List OutboxRow
  effectId_unique : (rows.map (·.effectId)).Nodup
  idempotencyKey_unique : (rows.map (·.idempotencyKey)).Nodup

namespace OutboxTable

def empty : OutboxTable := ⟨[], List.nodup_nil, List.nodup_nil⟩

/-- An update of the matching rows that keeps the cells written at admission keeps any key of
them. -/
theorem map_key_update {α : Type*} (rows : List OutboxRow) (key : OutboxEffect → α)
    (matching : OutboxRow → Bool) (write : OutboxRow → OutboxRow)
    (hwrite : ∀ row, (write row).toOutboxEffect = row.toOutboxEffect) :
    (rows.map fun row ↦ if matching row then write row else row).map
        (fun row ↦ key row.toOutboxEffect) =
      rows.map fun row ↦ key row.toOutboxEffect := by
  rw [List.map_map]
  refine List.map_congr_left fun row _ ↦ ?_
  simp only [Function.comp_apply]
  split_ifs
  · rw [hwrite]
  · rfl

/-- `UPDATE outbox SET write WHERE matching`, on the cells that are not written at admission. -/
def update (table : OutboxTable) (matching : OutboxRow → Bool) (write : OutboxRow → OutboxRow)
    (hwrite : ∀ row, (write row).toOutboxEffect = row.toOutboxEffect := by intro _; rfl) :
    OutboxTable where
  rows := table.rows.map fun row ↦ if matching row then write row else row
  effectId_unique := by
    rw [map_key_update table.rows OutboxEffect.effectId matching write hwrite]
    exact table.effectId_unique
  idempotencyKey_unique := by
    rw [map_key_update table.rows OutboxEffect.idempotencyKey matching write hwrite]
    exact table.idempotencyKey_unique

/-- `SELECT changes()` after an update of the matching rows. -/
def changes (table : OutboxTable) (matching : OutboxRow → Bool) : ℕ :=
  (table.rows.filter matching).length

/-- `SELECT * FROM outbox WHERE effect_id = ?`. -/
def load (table : OutboxTable) (effectId : String) : Option OutboxRow :=
  table.rows.find? fun row ↦ row.effectId = effectId

/-- One `INSERT INTO outbox`, refused when the primary key or the idempotency key is taken. -/
def insert (table : OutboxTable) (effect : OutboxEffect) : Option OutboxTable :=
  if h : effect.effectId ∉ table.rows.map (·.effectId) ∧
      effect.idempotencyKey ∉ table.rows.map (·.idempotencyKey) then
    some {
      rows := table.rows ++ [{ toOutboxEffect := effect }]
      effectId_unique := by
        rw [List.map_append, List.map_singleton]
        exact List.nodup_append.mpr ⟨table.effectId_unique, List.nodup_singleton _,
          fun _ ha _ hb hab ↦ h.1 (List.mem_singleton.mp hb ▸ hab ▸ ha)⟩
      idempotencyKey_unique := by
        rw [List.map_append, List.map_singleton]
        exact List.nodup_append.mpr ⟨table.idempotencyKey_unique, List.nodup_singleton _,
          fun _ ha _ hb hab ↦ h.2 (List.mem_singleton.mp hb ▸ hab ▸ ha)⟩ }
  else none

/-- The rows of other jobs, after the job of these was deleted. -/
def discardJob (table : OutboxTable) (jobId : String) : OutboxTable where
  rows := table.rows.filter fun row ↦ row.jobId ≠ jobId
  effectId_unique := table.effectId_unique.sublist (List.filter_sublist.map _)
  idempotencyKey_unique := table.idempotencyKey_unique.sublist (List.filter_sublist.map _)

/-- `insert_outbox_effects`. A refused row fails the transaction, so nothing is inserted. -/
def insertOutboxEffects (table : OutboxTable) : List OutboxEffect → Option OutboxTable
  | [] => some table
  | effect :: effects => (table.insert effect).bind fun table ↦ table.insertOutboxEffects effects

/-- `json_extract(payload_json, '$.expected_revision')` when it is an integer. -/
def expectedRevision (payload : Dict) : Option ℤ := (payload.get? "expected_revision").bind
  Json.asInt?

/-- The rows `abandon_stale_outbox_effects` closes: waiting, unleased, and admitted at a revision
the job no longer has. -/
def staleAdmission (revision : String → Option ℕ) (kinds : List String) (row : OutboxRow) : Bool :=
  kinds.contains row.kind && row.unleased &&
    match expectedRevision row.payload with
    | some expected => (revision row.jobId).map Int.ofNat ≠ some expected
    | none => false

def abandonStaleOutboxEffects (table : OutboxTable) (revision : String → Option ℕ)
    (kinds : List String) (now : Time) : OutboxTable :=
  table.update (staleAdmission revision kinds) fun row ↦ { row with
    status := .failed
    outcome := some [("outcome", .str "Failed"), ("retryable", .bool false),
      ("error", .str "effect admission revision was superseded before dispatch")]
    completedAt := some now
    nextAt := none }

/-- The rows `claim_due_outbox` may select. -/
def due (table : OutboxTable) (kinds : List String) (now : Time) (exclude : List String)
    (row : OutboxRow) : Bool :=
  kinds.contains row.kind && !exclude.contains row.effectId && row.unleased &&
    !(table.rows.any fun active ↦ active.concurrencyKey = row.concurrencyKey &&
      active.status = .running && active.hold.isSome) &&
    row.nextAt.all fun nextAt ↦ nextAt ≤ now

/-- The update of `claim_due_outbox` on the selected effect. -/
def lease (table : OutboxTable) (effectId leaseToken : String) (now : Time) : OutboxTable :=
  table.update (fun row ↦ row.effectId = effectId && row.unleased) fun row ↦ { row with
    status := .running
    hold := some ⟨leaseToken, now⟩
    attempts := row.attempts + 1 }

def claimDueOutbox (table : OutboxTable) (kinds : List String) (now : Time) (leaseToken : String)
    (exclude : List String) : OutboxTable × Option OutboxRow :=
  match table.rows.find? (table.due kinds now exclude) with
  | none => (table, none)
  | some row =>
    let claimed := table.changes fun other ↦ other.effectId = row.effectId && other.unleased
    let leased := table.lease row.effectId leaseToken now
    if claimed = 1 then (leased, leased.load row.effectId) else (leased, none)

/-- `EXISTS (SELECT 1 FROM jobs WHERE jobs.job_id = outbox.job_id AND jobs.revision = ?)`, when
the lease carries an expected revision. -/
def revisionGuard (revision : String → Option ℕ) (expected : Option ℤ) (row : OutboxRow) : Bool :=
  expected.all fun expected ↦ (revision row.jobId).map Int.ofNat = some expected

def markOutboxDispatched (table : OutboxTable) (revision : String → Option ℕ)
    (effectId leaseToken : String) (expected : Option ℤ) : OutboxTable × Bool :=
  let matching := fun row : OutboxRow ↦
    row.heldBy effectId leaseToken && revisionGuard revision expected row
  (table.update matching fun row ↦ { row with outcome := some OutboxRow.submitFence },
    table.changes matching = 1)

def renewOutboxLease (table : OutboxTable) (effectId leaseToken : String) (now : Time) :
    OutboxTable × Bool :=
  let matching := fun row : OutboxRow ↦ row.heldBy effectId leaseToken
  (table.update matching fun row ↦ { row with hold := some ⟨leaseToken, now⟩ },
    table.changes matching = 1)

/-- What `complete_outbox_observation` answers. -/
inductive ObservationReply
  | missing | mismatch | duplicate | stale | applied
  deriving DecidableEq, Repr

/-- The cells `complete_outbox_observation` writes. -/
structure Completion where
  status : OutboxStatus
  outcome : Dict
  now : Time
  nextAt : Option Time

def Completion.write (completion : Completion) (row : OutboxRow) : OutboxRow :=
  { row with
    status := completion.status
    outcome := some completion.outcome
    completedAt := if completion.status = .failedRetryable then none else some completion.now
    nextAt := completion.nextAt
    hold := none }

/-- The update of `complete_outbox_observation`. -/
def complete (table : OutboxTable) (effectId leaseToken : String) (completion : Completion) :
    OutboxTable :=
  table.update (fun row ↦ row.heldBy effectId leaseToken) completion.write

def completeOutboxObservation (table : OutboxTable) (effectId idempotencyKey leaseToken : String)
    (completion : Completion) : OutboxTable × ObservationReply :=
  match table.load effectId with
  | none => (table, .missing)
  | some existing =>
    if existing.idempotencyKey ≠ idempotencyKey then (table, .mismatch)
    else if existing.status.isTerminal ∧ existing.hold.isNone then (table, .duplicate)
    else if existing.leaseToken.getD "" ≠ leaseToken ∨ existing.status ≠ .running then
      (table, .stale)
    else (table.complete effectId leaseToken completion, .applied)

/-- `expired_outbox_leases`. -/
def expiredOutboxLeases (table : OutboxTable) (now leaseSeconds : Time) : List OutboxRow :=
  table.rows.filter fun row ↦ row.status = .running &&
    row.hold.any fun hold ↦ hold.leasedAt ≤ now - leaseSeconds

end OutboxTable

end VoiceHarness
