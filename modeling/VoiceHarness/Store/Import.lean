import VoiceHarness.Store.Exclusivity

/-!
# The import of JSON sources

`JobStore._import_json_sources`: every JSON file beside the database is archived, refused or saved,
all in one transaction whose handler catches the exception of a source inside the loop. What a save
wrote before it raised is therefore kept while its source is moved aside as failed.

A source is what its file gives: the record to save, or the exception of reading it. The evidence a
failed source leaves is part of what the files say about the sources after it.
-/

set_option autoImplicit false
set_option relaxedAutoImplicit false

namespace VoiceHarness

open Library

/-- What `_parse_path` reads: the id of the job, and the record `_normalize_for_durable_write` reads
again or the message it raises. -/
structure ParsedSource where
  id : String
  durableRecord : Checked Values
  id_eq : ∀ record, durableRecord = .ok record → record.jobId = id
  transient : ∀ record, durableRecord = .ok record →
    ∀ field ∈ transientFields, record field = .absent

/-- A JSON source: its file name without the suffix, what parsing it gives, and whether a migration
lets it supersede the stored job after the cutover. -/
structure ImportSource where
  stem : String
  parsed : Checked ParsedSource
  supersedes : Bool

/-- What the artifact files and the quarantine evidence say; the evidence grows with every source
that failed before. -/
structure ImportFiles where
  validateCandidateArtifacts : AgentJob → Option AgentJob → Checked Unit
  validateQuarantineReservation : List String → QuarantineReservation → AgentJob → Checked Unit

/-- The stems of the sources that `_import_json_sources` collects. -/
structure ImportLists where
  archived : List String
  failedSources : List String

instance Field.decidableEqType : (field : Field) → DecidableEq field.type
  | .bool _ => inferInstanceAs (DecidableEq Bool)
  | .int _ => inferInstanceAs (DecidableEq ℤ)
  | .float _ => inferInstanceAs (DecidableEq Time)
  | .text _ => inferInstanceAs (DecidableEq String)
  | .operation _ => inferInstanceAs (DecidableEq OperationLabel)
  | .phase _ => inferInstanceAs (DecidableEq WorkflowPhase)
  | .participant _ => inferInstanceAs (DecidableEq WorkflowParticipant)
  | .jobStatus _ => inferInstanceAs (DecidableEq JobStatus)
  | .harnessKind => inferInstanceAs (DecidableEq HarnessKind)
  | .workflowTier => inferInstanceAs (DecidableEq WorkflowTier)
  | .reviewDecision => inferInstanceAs (DecidableEq ReviewDecision)
  | .reviewApprovalSource => inferInstanceAs (DecidableEq ReviewApprovalSource)
  | .planApprovalState => inferInstanceAs (DecidableEq PlanApprovalState)
  | .planApprovalSource => inferInstanceAs (DecidableEq PlanApprovalSource)
  | .participantAdmissionState => inferInstanceAs (DecidableEq ParticipantAdmissionState)
  | .sessionControl => inferInstanceAs (DecidableEq SessionControlMode)
  | .announcementAck => inferInstanceAs (DecidableEq AnnouncementAck)
  | .targetReleaseUnverifiedTargets => inferInstanceAs (DecidableEq (List TargetName))
  | .participantSessionOwners => inferInstanceAs (DecidableEq (List SessionOwner))
  | .groupedRepositoryTargets => inferInstanceAs (DecidableEq (List Dict))
  | .structured _ => inferInstanceAs (DecidableEq Json)
  | .other _ => inferInstanceAs (DecidableEq Json)

/-- `first.to_dict() == second.to_dict()`. -/
def AgentJob.sameRecord (first second : AgentJob) : Bool :=
  (knownFields ++ (first.values.others ++ second.values.others).map Field.other).all fun field ↦
    first.toDict field = second.toDict field

section

variable [TextLibrary]

/-- The candidate of a source. -/
def ImportSource.candidate (source : ImportSource) : Checked AgentJob := do
  let parsed ← source.parsed
  if parsed.id ≠ source.stem then .error "Cursor job id must match its filename"
  else AgentJob.fromDict (← parsed.durableRecord)

/-- The stored job of an id, where there is one. -/
def Database.storedJob (database : Database) (jobId : String) :
    Except StoreError (Option AgentJob) :=
  match database.loadJob jobId with
  | .error (.missing _) => .ok none
  | .error error => .error error
  | .ok raw => (AgentJob.fromDict raw).mapError .validation |>.map some

/-- The checks of the files on a candidate that is to be saved. -/
def ImportFiles.check (files : ImportFiles) (failed : List String) (candidate : AgentJob)
    (current : Option AgentJob) : Checked Unit := do
  files.validateCandidateArtifacts candidate current
  if current.isNone then
    files.validateQuarantineReservation failed .target candidate
    files.validateQuarantineReservation failed .worktree candidate

/-- What the loop decides about a source before it saves: the candidate to save, or none for a source
that is archived. -/
def importDecision (files : ImportFiles) (cutoverComplete : Bool) (failed : List String)
    (database : Database) (source : ImportSource) : Except StoreError (Option AgentJob) := do
  let candidate ← source.candidate.mapError .validation
  match ← database.storedJob candidate.id with
  | none => do
    (files.check failed candidate none).mapError .validation
    .ok (some candidate)
  | some current =>
    let same := current.sameRecord candidate
    if current.values.createdAt ≠ candidate.values.createdAt ∨ current.id ≠ candidate.id then
      .error (.validation
        "import identity/created_at lineage conflicts with the durable job")
    else if cutoverComplete && !source.supersedes then
      if same then .ok none
      else .error (.validation
        "post-cutover import conflicts with the authoritative SQLite job")
    else if candidate.values.revision < current.values.revision then .ok none
    else if current.values.revision = candidate.values.revision then
      if same then .ok none
      else .error (.validation "import conflicts with durable job at the same revision")
    else do
      (files.check failed candidate (some current)).mapError .validation
      .ok (some candidate)

/-- The save of a candidate and the check of what is read back. -/
def saveImported (candidate : AgentJob) : StoreProgram PUnit := do
  let _ ← saveJob candidate
  let raw ← valueOrRaise ((← get).loadJob candidate.id)
  let projected ← checked (AgentJob.fromDict raw)
  checked projected.values.validateInvariants
  refuse [(raw.int .schemaVersion ≠ some currentSchemaVersion || !projected.sameRecord candidate,
    .validation "legacy import relational projection is not a lossless native schema-v18 job")]

/-- The body of the loop inside its handler. -/
def importSource (files : ImportFiles) (cutoverComplete : Bool) (failed : List String)
    (source : ImportSource) : StoreProgram PUnit := do
  match ← valueOrRaise (importDecision files cutoverComplete failed (← get) source) with
  | none => pure ⟨⟩
  | some candidate => saveImported candidate

/-- The handler catches `JobValidationError` and `sqlite3.IntegrityError`. -/
def StoreError.isCaught : StoreError → Bool
  | .validation _ | .integrity _ => true
  | _ => false

/-- The loop over the sources that parse. -/
def importLoop (files : ImportFiles) (cutoverComplete : Bool) :
    List ImportSource → ImportLists → StoreProgram ImportLists
  | [], lists => pure lists
  | source :: sources, lists => do
    match ← attempt (importSource files cutoverComplete lists.failedSources source) with
    | .ok _ =>
      importLoop files cutoverComplete sources
        { lists with archived := lists.archived ++ [source.stem] }
    | .error error =>
      if error.isCaught then
        importLoop files cutoverComplete sources
          { lists with failedSources := lists.failedSources ++ [source.stem] }
      else throw error

/-- The sources whose candidate cannot be read, which are moved aside before any import. -/
def invalidSources (sources : List ImportSource) : List ImportSource :=
  sources.filter fun source ↦ !source.candidate.isOk

def validSources (sources : List ImportSource) : List ImportSource :=
  sources.filter fun source ↦ source.candidate.isOk

/-- `_import_json_sources`, over the sources in the order of their paths. -/
def importJsonSources (files : ImportFiles) (cutoverComplete : Bool)
    (sources : List ImportSource) : StoreProgram ImportLists :=
  importLoop files cutoverComplete (validSources sources)
    { archived := [], failedSources := (invalidSources sources).map (·.stem) }

end

end VoiceHarness
