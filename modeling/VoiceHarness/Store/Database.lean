import VoiceHarness.Store.Inventory
import VoiceHarness.Store.Reservations
import VoiceHarness.Library.Rows
import VoiceHarness.Library.Transaction
import VoiceHarness.Outbox.Table

/-!
# The job tables

The tables of `cursor/sqlite_store.py`: the core row of a job, the named state with its presence
table, the reservations, the delivery and worker claims, the artifacts, the events, the outbox with
its consumptions, and the maintenance lease. `saveStatements` is `save_job` statement by statement,
each with the constraints of its table; `loadJob` reads a record back.
-/

set_option autoImplicit false
set_option relaxedAutoImplicit false

namespace VoiceHarness

open Library

/-- What a store call raises: `JobValidationError`, `sqlite3.IntegrityError`, `FileNotFoundError`,
`sqlite3.DatabaseError`, one of the exceptions no caller of the store catches, or the answer that a
job is not available. -/
inductive StoreError
  | validation (message : String)
  | integrity (constraint : String)
  | missing (jobId : String)
  | database (message : String)
  | value (message : String)
  | overflow
  | maintenance (message : String)
  | activeTicket (owner : String)
  | followUp (message : String)
  | checkoutBusy (message : String)
  deriving DecidableEq

/-! ### Rows -/

structure JobRow where
  jobId : String
  parentJobId : Option String
  revision : ℤ
  status : JobStatus
  harnessKind : HarnessKind
  issueProvider : Option String
  createdAt : Time

/-- The row of a job in each of the named tables, and its rows in the presence table. -/
structure NamedRow where
  jobId : String
  lifecycleKind : String
  columns : Field → SqlValue
  presence : List Field

structure ReservationEntry where
  resource : Resource
  jobId : String
  reason : String

structure DeliveryClaimRow where
  jobId : String
  claimToken : Option String
  claimedAt : Option Time
  generation : ℤ
  attempts : ℤ
  retryAt : Time
  delivered : Bool
  deliveredAt : Option Time

structure WorkerClaimRow where
  jobId : String
  token : Option String
  pid : Option ℤ
  bootId : Option String
  processStart : Option String
  operation : Option String

structure ArtifactRow where
  reference : String
  jobId : String
  kind : ArtifactKind
  round : ℕ
  digest : String

/-- A row of `events`, with the command kind its payload holds. -/
structure EventRow where
  commandId : String
  jobId : String
  revision : ℤ
  kind : String
  commandKind : String
  deriving DecidableEq

structure ConsumptionRow where
  effectId : String
  disposition : String
  deriving DecidableEq

structure Database where
  jobs : List JobRow
  named : List NamedRow
  reservations : List ReservationEntry
  deliveryClaims : List DeliveryClaimRow
  workerClaims : List WorkerClaimRow
  artifacts : List ArtifactRow
  events : List EventRow
  outbox : OutboxTable
  consumptions : List ConsumptionRow
  maintenance : Option String

/-- A statement of a save. -/
abbrev SaveStatement := Statement Database StoreError

/-- The first of the given violations. -/
def firstViolation (violations : List (Bool × StoreError)) : Option StoreError :=
  (violations.find? Prod.fst).map Prod.snd

/-! ### The core row and the named state -/

/-- `_lifecycle_kind`. -/
def lifecycleKind (status : JobStatus) : String :=
  if status.isTerminal then "terminal" else status.value

namespace Values

variable (values : Values)

def jobRow : JobRow :=
  { jobId := values.jobId
    parentJobId := values.text .parentJobId
    revision := values.revision
    status := values.status
    harnessKind := values.harnessKind
    issueProvider := values.text .issueProvider
    createdAt := values.createdAt }

/-- What the constraints of `jobs` refuse. -/
def coreViolations : List (Bool × StoreError) :=
  [(!fitsInteger values.revision, .overflow),
    (!isJobId values.jobId, .integrity "CHECK constraint failed: jobs.job_id"),
    (values.revision < 0, .integrity "CHECK constraint failed: jobs.revision")]

/-- `_save_job_core`. -/
def saveJobCore : SaveStatement :=
  guarded (fun _ ↦ firstViolation values.coreViolations)
    fun database ↦ { database with jobs := upsert JobRow.jobId database.jobs values.jobRow }

/-- The keys of the record outside the inventory. -/
def unknownFields : List Field :=
  (knownFields ++ values.others.map Field.other).filter fun field ↦
    (values field).isPresent && decide (field ∉ knownFields)

/-- The check of `_save_named_state` before it writes. -/
def checkInventory : SaveStatement :=
  guarded
    (fun _ ↦ if values.unknownFields = [] then none
      else some (.value "schema-v18 persistence inventory is incomplete"))
    id

/-- The columns of a table. -/
def tableColumns (fields : List Field) (columns : Field → SqlValue) : Field → SqlValue :=
  fun field ↦ if field ∈ fields then databaseCell field (values field) else columns field

/-- The named row after the insert into one of its tables. -/
def namedRow (fields : List Field) (row : Option NamedRow) : NamedRow :=
  { jobId := values.jobId
    lifecycleKind := if .jobStatus .status ∈ fields then lifecycleKind values.status
      else (row.map (·.lifecycleKind)).getD ""
    columns := values.tableColumns fields ((row.map (·.columns)).getD fun _ ↦ .null)
    presence := (row.map (·.presence)).getD [] }

/-- What the columns of a table refuse. -/
def tableViolations (fields : List Field) : List (Bool × StoreError) :=
  [(fields.any fun field ↦ !(databaseCell field (values field)).fits, .overflow),
    (.int .revision ∈ fields && values.revision < 0,
      .integrity "CHECK constraint failed: revision"),
    (.int .reviewRound ∈ fields &&
        (values.int .reviewRound).any (fun round ↦ round < 0 || 2 < round),
      .integrity "CHECK constraint failed: review_round")]

/-- The named rows after the insert into one table. -/
def savedTable (named : List NamedRow) (fields : List Field) : List NamedRow :=
  upsert NamedRow.jobId named
    (values.namedRow fields (findRow NamedRow.jobId named values.jobId))

/-- The insert into one named table. -/
def saveTable (fields : List Field) : SaveStatement :=
  guarded (fun _ ↦ firstViolation (values.tableViolations fields)) fun database ↦
    { database with named := values.savedTable database.named fields }

/-- The named rows after the presence rows are written. -/
def savedPresence (named : List NamedRow) : List NamedRow :=
  upsert NamedRow.jobId named
    { values.namedRow [] (findRow NamedRow.jobId named values.jobId) with
      presence := inventory.filter fun field ↦ (values field).isPresent }

/-- The presence rows. -/
def savePresence : SaveStatement :=
  guarded (fun _ ↦ none) fun database ↦
    { database with named := values.savedPresence database.named }

/-! ### Reservations -/

/-- The constraint `_save` reads the conflict of two jobs from. -/
def reservationConstraint : String :=
  "UNIQUE constraint failed: reservations.resource_kind, reservations.resource_key"

def deleteReservations (jobId : String) : SaveStatement :=
  guarded (fun _ ↦ none) fun database ↦
    { database with
      reservations := discard ReservationEntry.jobId database.reservations jobId }

def reservationEntry (jobId : String) (row : ReservationRow) : ReservationEntry :=
  { resource := row.resource, jobId, reason := row.reason }

def insertReservation (jobId : String) (row : ReservationRow) : SaveStatement :=
  guarded
    (fun database ↦ firstViolation
      [(database.reservations.any fun entry ↦ entry.resource = row.resource,
        .integrity reservationConstraint)])
    fun database ↦
      { database with
        reservations := database.reservations ++ [reservationEntry jobId row] }

/-! ### Delivery and worker claims -/

def deliveryClaimRow : DeliveryClaimRow :=
  { jobId := values.jobId
    claimToken := values.text .deliveryClaimToken
    claimedAt := values.float .deliveryClaimedAt
    generation := values.count .deliveryGeneration
    attempts := values.count .deliveryAttempts
    retryAt := (values.float .deliveryRetryAt).getD 0
    delivered := values.bool .delivered
    deliveredAt := values.float .deliveredAt }

def deleteDeliveryClaim (jobId : String) : SaveStatement :=
  guarded (fun _ ↦ none) fun database ↦
    { database with
      deliveryClaims := discard DeliveryClaimRow.jobId database.deliveryClaims jobId }

/-- What the constraints of `delivery_claims` refuse. -/
def deliveryViolations (row : DeliveryClaimRow) (claims : List DeliveryClaimRow) :
    List (Bool × StoreError) :=
  [(!fitsInteger row.generation || !fitsInteger row.attempts, .overflow),
    (row.generation < 0 || row.attempts < 0,
      .integrity "CHECK constraint failed: generation >= 0 AND attempts >= 0"),
    (row.claimToken.isNone ≠ row.claimedAt.isNone,
      .integrity "CHECK constraint failed: (claim_token IS NULL) = (claimed_at IS NULL)"),
    (row.delivered && row.claimToken.isSome,
      .integrity "CHECK constraint failed: NOT delivered OR claim_token IS NULL"),
    (row.claimToken.isSome && claims.any fun claim ↦ claim.claimToken = row.claimToken,
      .integrity "UNIQUE constraint failed: delivery_claims.claim_token")]

def insertDeliveryClaim : SaveStatement :=
  guarded
    (fun database ↦ firstViolation
      (deliveryViolations values.deliveryClaimRow database.deliveryClaims))
    fun database ↦
      { database with deliveryClaims := values.deliveryClaimRow :: database.deliveryClaims }

def workerClaimRow : WorkerClaimRow :=
  { jobId := values.jobId
    token := values.text .workerToken
    pid := values.int .workerPid
    bootId := values.text .workerBootId
    processStart := values.text .workerProcessStart
    operation := values.text .workerOperation }

def deleteWorkerClaim (jobId : String) : SaveStatement :=
  guarded (fun _ ↦ none) fun database ↦
    { database with workerClaims := discard WorkerClaimRow.jobId database.workerClaims jobId }

/-- `not any(worker_identity) or all(value is not None ...)`. -/
def storesWorkerClaim (row : WorkerClaimRow) : Bool :=
  !(truthy row.token || row.pid.any (· ≠ 0) || truthy row.bootId || truthy row.processStart) ||
    (row.token.isSome && row.pid.isSome && row.bootId.isSome && row.processStart.isSome)

/-- What the constraints of `worker_claims` refuse. -/
def workerViolations (row : WorkerClaimRow) : List (Bool × StoreError) :=
  [(row.pid.any (!fitsInteger ·), .overflow),
    (!((row.token.isNone && row.pid.isNone && row.bootId.isNone && row.processStart.isNone) ||
        (row.token.isSome && row.pid.any (0 < ·) && row.bootId.isSome && row.processStart.isSome)),
      .integrity "CHECK constraint failed: worker_claims")]

/-- Why the worker claim is refused, where there is one to store. -/
def workerViolation : Option StoreError :=
  if storesWorkerClaim values.workerClaimRow then
    firstViolation (workerViolations values.workerClaimRow) else none

def savedWorkerClaims (claims : List WorkerClaimRow) : List WorkerClaimRow :=
  if storesWorkerClaim values.workerClaimRow then values.workerClaimRow :: claims else claims

def insertWorkerClaim : SaveStatement :=
  guarded (fun _ ↦ values.workerViolation) fun database ↦
    { database with workerClaims := values.savedWorkerClaims database.workerClaims }

/-! ### Artifacts -/

/-- `text.split(separator)`. -/
def splitText (separator : Char) : List Char → List (List Char)
  | [] => [[]]
  | c :: rest =>
    match splitText separator rest with
    | [] => [[]]
    | head :: tail => if c = separator then [] :: head :: tail else (c :: head) :: tail

/-- `Path(reference).name.removesuffix(".json").split("-")`. -/
def artifactParts (reference : String) : List (List Char) :=
  let name := (splitText '/' reference.toList).getLastD []
  let suffix := ".json".toList
  splitText '-' (if suffix.isSuffixOf name then name.take (name.length - suffix.length) else name)

/-- `int(text)` of a text of digits. -/
def parseRound? (digits : List Char) : Option ℕ :=
  if digits ≠ [] ∧ digits.all Char.isDigit then
    some (digits.foldl (fun number c ↦ 10 * number + (c.toNat - '0'.toNat)) 0)
  else none

/-- The row of an artifact reference; a reference without a digest has none. -/
def artifactRow (jobId reference : String) (kind : ArtifactKind) :
    Except StoreError (Option ArtifactRow) :=
  match artifactParts reference with
  | _ :: round :: digest :: rest =>
    match parseRound? round with
    | none => .error (.value "invalid literal for int()")
    | some round =>
      .ok (some { reference, jobId, kind, round,
                  digest := String.ofList ((digest :: rest).getLastD []) })
  | _ => .ok none

def deleteArtifacts (jobId : String) : SaveStatement :=
  guarded (fun _ ↦ none) fun database ↦
    { database with artifacts := discard ArtifactRow.jobId database.artifacts jobId }

/-- What the constraints of `artifacts` refuse. -/
def artifactViolations (row : ArtifactRow) (artifacts : List ArtifactRow) :
    List (Bool × StoreError) :=
  [(2 < row.round, .integrity "CHECK constraint failed: round BETWEEN 0 AND 2"),
    (artifacts.any fun artifact ↦ artifact.reference = row.reference,
      .integrity "UNIQUE constraint failed: artifacts.reference"),
    (artifacts.any fun artifact ↦ artifact.jobId = row.jobId && artifact.kind = row.kind &&
        artifact.round = row.round && artifact.digest = row.digest,
      .integrity "UNIQUE constraint failed: artifacts.job_id, kind, round, digest")]

/-- The row of a reference the job holds. -/
def heldArtifact (field : TextField) (kind : ArtifactKind) :
    Except StoreError (Option ArtifactRow) :=
  match values.text field with
  | none => .ok none
  | some reference => artifactRow values.jobId reference kind

/-- Why the reference is refused. -/
def artifactViolation (field : TextField) (kind : ArtifactKind) (artifacts : List ArtifactRow) :
    Option StoreError :=
  match values.heldArtifact field kind with
  | .error error => some error
  | .ok none => none
  | .ok (some row) => firstViolation (artifactViolations row artifacts)

def savedArtifact (field : TextField) (kind : ArtifactKind) (artifacts : List ArtifactRow) :
    List ArtifactRow :=
  match values.heldArtifact field kind with
  | .ok (some row) => artifacts ++ [row]
  | .ok none | .error _ => artifacts

def insertArtifact (field : TextField) (kind : ArtifactKind) : SaveStatement :=
  guarded (fun database ↦ values.artifactViolation field kind database.artifacts) fun database ↦
    { database with artifacts := values.savedArtifact field kind database.artifacts }

/-! ### Saving and loading -/

/-- `_save_named_state`. -/
def namedStatements : List SaveStatement :=
  [values.checkInventory] ++ namedTables.map values.saveTable ++ [values.savePresence]

/-- The statements of `save_job` after the core row and the named state. -/
def claimStatements (rows : List ReservationRow) : List SaveStatement :=
  [deleteReservations values.jobId] ++ rows.map (insertReservation values.jobId) ++
    [deleteDeliveryClaim values.jobId, values.insertDeliveryClaim,
      deleteWorkerClaim values.jobId, values.insertWorkerClaim,
      deleteArtifacts values.jobId, values.insertArtifact .planArtifact .plan,
      values.insertArtifact .reviewArtifact .review]

/-- `save_job`. -/
def saveStatements (rows : List ReservationRow) : List SaveStatement :=
  [values.saveJobCore] ++ values.namedStatements ++ values.claimStatements rows

end Values

namespace Database

/-- A store without jobs. -/
def empty : Database :=
  { jobs := [], named := [], reservations := [], deliveryClaims := [], workerClaims := []
    artifacts := [], events := [], outbox := .empty, consumptions := [], maintenance := none }

variable (database : Database)

/-- `load_job`. -/
def loadJob (jobId : String) : Except StoreError Values :=
  match findRow NamedRow.jobId database.named jobId with
  | none =>
    if (findRow JobRow.jobId database.jobs jobId).isNone then .error (.missing jobId)
    else .error (.database "missing schema-v2 identity state")
  | some row =>
    match modelValue (.jobStatus .status) (row.columns (.jobStatus .status)) with
    | none => .error (.value "unsupported top-level lifecycle discriminator")
    | some status =>
      if row.lifecycleKind ≠ lifecycleKind status then
        .error (.database "top-level lifecycle discriminator disagrees with status")
      else
        .ok (((Values.empty.set (.text .id) (.val jobId)).set (.int .schemaVersion)
          (.val currentSchemaVersion)).update (inventory.map fun field ↦
            ⟨field, modelCell field (decide (field ∈ row.presence)) (row.columns field)⟩))

/-- `_save`: the statements, and the message for a constraint they break. -/
def save [TextLibrary] (values : Values) : Database × Option StoreError :=
  let saved := runStatements (values.saveStatements values.reservationRows) database
  (saved.1, saved.2.map fun
    | .integrity constraint =>
      if constraint = Values.reservationConstraint then
        .validation "resource is reserved by both this job and another Cursor job"
      else if constraint = "UNIQUE constraint failed: delivery_claims.claim_token" then
        .validation "delivery claim token is already owned by another Cursor job"
      else .validation ("SQLite job constraint failed: " ++ constraint)
    | error => error)

end Database

end VoiceHarness
