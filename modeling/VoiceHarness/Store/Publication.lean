import VoiceHarness.Store.ArtifactJobs
import VoiceHarness.Workflow.Review
import Mathlib.Data.Set.Function

/-!
# The publication of artifacts

Any number of workers publish, read and change jobs. A publication writes its file and then saves the job in
one transaction, so a file may outlive a publication that fails. A read takes the job first and its files
afterwards, with other calls between. Both digests together tie a review to one text of the plan.
-/

set_option autoImplicit false
set_option relaxedAutoImplicit false

namespace VoiceHarness

open Library

/-- A change that publishes a plan drops the review, and one that publishes a review keeps the plan. -/
def ArtifactKind.KeepsOther (kind : ArtifactKind) (current changed : AgentJob) : Prop :=
  match kind with
  | plan => changed.values.text .reviewArtifact = none
  | review => changed.values.text .planArtifact = current.values.text .planArtifact

/-- The arguments of `publish_artifact`. -/
structure Publication where
  jobId : String
  claim : ArtifactClaim
  text : String
  change : AgentJob → String → Except StoreError AgentJob
  keepsOther : ∀ current reference changed, change current reference = .ok changed →
    claim.kind.KeepsOther current changed

/-- A `read_artifact` under way: the job as `get` answered it, and the text of its plan once parsed. -/
structure Reading where
  jobId : String
  reference : String
  kind : ArtifactKind
  round : ℕ
  job : AgentJob
  plan : Option String := none

/-- The plan of a review is parsed. -/
def Reading.isReady (reading : Reading) : Bool := reading.kind = .plan || reading.plan.isSome

/-- The store, its artifact files and the reads under way. -/
structure Workspace where
  database : Database
  artifacts : ArtifactFiles
  readings : ℕ → Option Reading

/-- A step of a worker. A transition names the candidates whose files it checks, in order; a new job is
checked under an id of its own. -/
inductive ArtifactEvent
  | publish (publication : Publication)
  | transition (call : StoreCall) (validated : List AgentJob) (keeps : call.KeepsReviews)
  | write (jobId : String) (kind : ArtifactKind) (round : ℤ) (text : String) (planText : Option String)
  | beginRead (reader : ℕ) (jobId reference : String) (kind : ArtifactKind)
  | readPlan (reader : ℕ)
  | readText (reader : ℕ)

inductive ArtifactAnswer
  | saved (result : Except StoreError StoreAnswer)
  | wrote (result : Except StoreError String)
  | read (result : Except StoreError String)
  | waiting

section

variable [TextLibrary] [Hashlib]

namespace Publication

/-- The publication gets to its file. -/
def fits (publication : Publication) (database : Database) : Bool :=
  decide (0 ≤ publication.claim.round ∧ publication.claim.round ≤ 2) &&
    match getJob publication.jobId database with
    | .ok current _ => !publication.claim.isStale current
    | .error _ _ => false

/-- The reference of the file, and the files after it. -/
def write (publication : Publication) (workspace : Workspace) :
    Except StoreError String × ArtifactFiles :=
  if publication.fits workspace.database then
    match publication.claim.writeFile publication.jobId publication.text workspace.artifacts with
    | .ok reference artifacts => (.ok reference, artifacts)
    | .error message artifacts => (.error (.validation message), artifacts)
  else (.error (.validation "the claim does not fit"), workspace.artifacts)

end Publication

/-- The text of the plan of a read. -/
def Reading.parseSource (reading : Reading) : FileProgram String :=
  match reading.job.values.text .planArtifact with
  | none => throw "workflow review has no current plan"
  | some plan => parsePlan reading.jobId plan

/-- The last step of a read. -/
def Reading.parseText (reading : Reading) : FileProgram String :=
  parseArtifact reading.reference reading.jobId reading.kind reading.round (reading.plan.map sha256)

namespace Workspace

/-- The store without jobs, beside any files. -/
def start (files : ArtifactFiles) : Workspace :=
  { database := .empty, artifacts := files, readings := fun _ ↦ none }

/-- `publish_artifact`. -/
def publish (workspace : Workspace) (publication : Publication) : Workspace × ArtifactAnswer :=
  let (reference, artifacts) := publication.write workspace
  let (database, answer) := storeMachine.step workspace.database
    (.publishArtifact publication.jobId publication.claim reference publication.change)
  ({ workspace with database, artifacts }, .saved answer)

/-- The stored job of a candidate. -/
def stored (workspace : Workspace) (candidate : AgentJob) : Option AgentJob :=
  match getJob candidate.id workspace.database with
  | .ok job _ => some job
  | .error _ _ => none

/-- The checks of the files of candidates, in order. -/
def checks (workspace : Workspace) (validated : List AgentJob) : FileProgram PUnit :=
  validated.forM fun candidate ↦ validateCandidateArtifacts candidate (workspace.stored candidate)

/-- Another call of the store. A job that is removed takes its files along; no later job has its id. -/
def transition (workspace : Workspace) (call : StoreCall) (validated : List AgentJob) :
    Workspace × ArtifactAnswer :=
  match workspace.checks validated workspace.artifacts with
  | .error message artifacts => ({ workspace with artifacts }, .saved (.error (.validation message)))
  | .ok _ artifacts =>
    match storeMachine.step workspace.database (call.withArtifacts workspace.artifacts) with
    | (database, .error error) => ({ workspace with database, artifacts }, .saved (.error error))
    | (database, .ok answer) =>
      ({ workspace with database, artifacts := deleteArtifacts answer.removed artifacts },
        .saved (.ok answer))

/-- `write_artifact`. -/
def writeArtifact (workspace : Workspace) (jobId : String) (kind : ArtifactKind) (round : ℤ)
    (text : String) (planText : Option String) : Workspace × ArtifactAnswer :=
  let refused := fun message ↦ (workspace, ArtifactAnswer.wrote (.error (.validation message)))
  if round < 0 ∨ 2 < round then refused "workflow artifact round must be between zero and two"
  else if kind = .review ∧ planText.all isBlank then
    refused "workflow review requires the reviewed plan text"
  else
    match artifactPayload jobId kind round text (planText.map sha256) with
    | .error message => refused message
    | .ok payload =>
      match workspace.database.loadJob jobId with
      | .error error => (workspace, .wrote (.error error))
      | .ok _ =>
        match exclusiveBytes payload.1 payload.2 workspace.artifacts with
        | .ok _ artifacts => ({ workspace with artifacts }, .wrote (.ok payload.1))
        | .error message artifacts =>
          ({ workspace with artifacts }, .wrote (.error (.validation message)))

/-- `read_artifact` up to the files. -/
def beginRead (workspace : Workspace) (jobId reference : String) (kind : ArtifactKind) :
    Except StoreError Reading :=
  match artifactRound? reference jobId kind with
  | none => .error (.validation "workflow artifact reference does not match job")
  | some round =>
    match getJob jobId workspace.database with
    | .error error _ => .error error
    | .ok job _ =>
      if job.values.text kind.field ≠ some reference then
        .error (.validation "workflow artifact reference is stale")
      else if kind = .review ∧ (job.values.text .planArtifact).isNone then
        .error (.validation "workflow review has no current plan")
      else .ok { jobId, reference, kind, round, job }

/-- The files and the read after a step of a reader. -/
def continueRead (workspace : Workspace) (reader : ℕ) (artifacts : ArtifactFiles)
    (reading : Option Reading) : Workspace :=
  { workspace with artifacts, readings := Function.update workspace.readings reader reading }

def readPlan (workspace : Workspace) (reader : ℕ) : Workspace × ArtifactAnswer :=
  match workspace.readings reader with
  | none => (workspace, .waiting)
  | some reading =>
    if reading.isReady then (workspace, .waiting)
    else
      match reading.parseSource workspace.artifacts with
      | .ok text artifacts =>
        (workspace.continueRead reader artifacts (some { reading with plan := some text }), .waiting)
      | .error message artifacts =>
        (workspace.continueRead reader artifacts none, .read (.error (.validation message)))

def readText (workspace : Workspace) (reader : ℕ) : Workspace × ArtifactAnswer :=
  match workspace.readings reader with
  | none => (workspace, .waiting)
  | some reading =>
    if !reading.isReady then (workspace, .waiting)
    else
      match reading.parseText workspace.artifacts with
      | .ok text artifacts => (workspace.continueRead reader artifacts none, .read (.ok text))
      | .error message artifacts =>
        (workspace.continueRead reader artifacts none, .read (.error (.validation message)))

def step (workspace : Workspace) : ArtifactEvent → Workspace × ArtifactAnswer
  | .publish publication => workspace.publish publication
  | .transition call validated _ => workspace.transition call validated
  | .write jobId kind round text planText => workspace.writeArtifact jobId kind round text planText
  | .beginRead reader jobId reference kind =>
    match workspace.beginRead jobId reference kind with
    | .ok reading => (workspace.continueRead reader workspace.artifacts (some reading), .waiting)
    | .error error => (workspace, .read (.error error))
  | .readPlan reader => workspace.readPlan reader
  | .readText reader => workspace.readText reader

/-- `read_artifact` with nothing between its steps. -/
def readArtifact (workspace : Workspace) (jobId reference : String) (kind : ArtifactKind) :
    Except StoreError String :=
  match workspace.beginRead jobId reference kind with
  | .error error => .error error
  | .ok reading =>
    let program : FileProgram String := do
      match kind with
      | .plan => reading.parseText
      | .review => do
        let text ← reading.parseSource
        { reading with plan := some text }.parseText
    match program workspace.artifacts with
    | .ok text _ => .ok text
    | .error message _ => .error (.validation message)

end Workspace

def artifactMachine : Machine Workspace ArtifactEvent ArtifactAnswer where
  step workspace event := workspace.step event

/-! ### A publication -/

/-- The job is the one a publication expects. -/
structure ArtifactClaim.Fits (claim : ArtifactClaim) (current : AgentJob) : Prop where
  unsettled : current.values.terminalIntentStatus = none
  revision : current.values.revision = claim.expectedRevision
  worker : ∃ owner, claim.expectedWorker = some owner ∧ current.values.workerOwnership = .ok (some owner)
  turnToken : current.values.text .turnToken = some claim.expectedTurnToken
  phase : current.values.workflowPhase = claim.expectedPhase
  round : current.values.count .reviewRound = claim.round
  prior : current.values.text claim.kind.field = claim.expectedPriorReference
  plan : claim.kind = .review → ∃ plan, claim.expectedPlanReference = some plan ∧
    current.values.text .planArtifact = some plan

omit [TextLibrary] [Hashlib] in
theorem ArtifactClaim.fits_of_isStale {claim : ArtifactClaim} {current : AgentJob}
    (h : claim.isStale current = false) : claim.Fits current := by
  unfold ArtifactClaim.isStale at h
  simp only [Bool.or_eq_false_iff, Option.isSome_eq_false_iff, Option.isNone_iff_eq_none,
    decide_eq_false_iff_not, ne_eq, not_not, Bool.not_eq_false', Bool.and_eq_false_imp,
    decide_eq_true_eq] at h
  obtain ⟨⟨⟨⟨⟨⟨⟨hsettled, hrevision⟩, hworker⟩, htoken⟩, hphase⟩, hround⟩, hprior⟩, hplan⟩ := h
  have hfield : claim.kind.field = claim.field := by
    unfold ArtifactKind.field ArtifactClaim.field
    cases claim.kind <;> rfl
  refine ⟨hsettled, hrevision, ?_, htoken, hphase, hround, hfield ▸ hprior, fun hkind ↦ ?_⟩
  · cases howner : claim.expectedWorker with
    | none =>
      rw [howner] at hworker
      cases hworker
    | some owner =>
      rw [howner] at hworker
      exact ⟨owner, rfl, of_decide_eq_true hworker⟩
  · obtain ⟨hexpected, hsame⟩ := hplan hkind
    cases hreference : claim.expectedPlanReference with
    | none =>
      rw [hreference] at hexpected
      cases hexpected
    | some plan => exact ⟨plan, rfl, hsame.trans hreference⟩

variable {database next : Database} {claim : ArtifactClaim} {jobId : String}
  {write : Except StoreError String} {change : AgentJob → String → Except StoreError AgentJob}

omit [Hashlib] in
/-- A publication saves nothing, or a candidate that its claim allows under the new reference. -/
theorem publishArtifact_cases {result : Option AgentJob}
    (h : publishArtifact jobId claim write change database = .ok result next) :
    (result = none ∧ next = database) ∨
      ∃ current reference changed saved, (0 ≤ claim.round ∧ claim.round ≤ 2) ∧
        getJob jobId database = .ok current database ∧ claim.isStale current = false ∧
        write = .ok reference ∧ change current reference = .ok changed ∧ result = some saved ∧
        saved.Durable ∧ saved.id = current.id ∧
        saved.values.text .planArtifact = changed.values.text .planArtifact ∧
        saved.values.text .reviewArtifact = changed.values.text .reviewArtifact ∧
        saved.values.text claim.kind.field = some reference ∧
        saved.values.Accepts saved.values.reservationRows database ∧
        next = saved.values.saved saved.values.reservationRows database := by
  unfold publishArtifact at h
  rw [bind_refuse_iff] at h
  obtain ⟨hround, h⟩ := h
  rw [bind_getJob_iff] at h
  obtain ⟨current, hread, h⟩ := h
  split_ifs at h with hstale
  · cases h
    exact .inl ⟨rfl, rfl⟩
  · rw [bind_valueOrRaise_iff] at h
    obtain ⟨reference, hwrite, h⟩ := h
    rw [bind_valueOrRaise_iff] at h
    obtain ⟨changed, hchange, h⟩ := h
    rw [bind_checked_iff] at h
    obtain ⟨published, hpublished, h⟩ := h
    rw [bind_refuse_iff] at h
    obtain ⟨hfield, h⟩ := h
    rw [bind_checked_iff] at h
    obtain ⟨candidate, hnormalized, h⟩ := h
    rw [bind_checked_iff] at h
    obtain ⟨⟨⟩, hvalid, h⟩ := h
    rw [map_eq_ok_iff] at h
    obtain ⟨saved, hsave, rfl⟩ := h
    obtain ⟨rfl, haccepts, hnext⟩ := saveJob_eq_ok_iff.mp hsave
    have hvalues : published.values = changed.values := by
      unfold ArtifactClaim.published at hpublished
      split at hpublished
      · cases hpublished
        rfl
      · obtain ⟨state, -, hpublished⟩ := checked_bind_eq_ok_iff.mp hpublished
        obtain ⟨⟨⟩, -, hpublished⟩ := checked_bind_eq_ok_iff.mp hpublished
        cases hpublished
        rfl
    obtain ⟨-, hplan, hreview⟩ := artifacts_normalizeForDurableWrite hnormalized
    rw [hvalues] at hplan hreview
    have hrange : 0 ≤ claim.round ∧ claim.round ≤ 2 := by
      have hviolation := firstViolation_eq_none_iff.mp hround _ List.mem_cons_self
      simp only [Bool.or_eq_false_iff, decide_eq_false_iff_not, Int.not_lt] at hviolation
      exact hviolation
    have hreference : saved.values.text claim.kind.field = some reference := by
      have hviolation := firstViolation_eq_none_iff.mp hfield _ List.mem_cons_self
      simp only [ne_eq, decide_eq_false_iff_not, not_not] at hviolation
      rw [hvalues] at hviolation
      cases hkind : claim.kind with
      | plan =>
        rw [ArtifactClaim.field, hkind] at hviolation
        exact hplan.trans hviolation
      | review =>
        rw [ArtifactClaim.field, hkind] at hviolation
        exact hreview.trans hviolation
    exact .inr ⟨current, reference, changed, saved, hrange, hread, eq_false_of_ne_true hstale, hwrite,
      hchange, rfl, AgentJob.durable_normalizeForDurableWrite hnormalized,
      (validateTransition_identity hvalid).1, hplan, hreview, hreference, haccepts, hnext⟩

/-! ### The file of a publication -/

variable {files after : ArtifactFiles} {workspace : Workspace} {publication : Publication}

omit [TextLibrary] in
theorem writeFile_ok {text reference : String} (hround : 0 ≤ claim.round ∧ claim.round ≤ 2)
    (h : claim.writeFile jobId text files = .ok reference after) :
    ∃ source contents,
      sourceDigest jobId claim.expectedPlanReference claim.kind files = .ok source files ∧
      IsPayload contents reference jobId claim.kind claim.round.toNat text source ∧
      after reference = some (.text contents) := by
  unfold ArtifactClaim.writeFile at h
  rw [bind_eq_ok_iff] at h
  obtain ⟨source, middle, hsource, h⟩ := h
  rw [bind_valueOrRaise_iff] at h
  obtain ⟨⟨named, contents⟩, hpayload, h⟩ := h
  rw [bind_eq_ok_iff] at h
  obtain ⟨⟨⟩, last, hwrite, h⟩ := h
  cases h
  obtain ⟨rfl, -⟩ := sourceDigest_eq_ok_iff.mp hsource
  exact ⟨source, contents, hsource, isPayload_of_artifactPayload hround hpayload,
    exclusiveBytes_ok hwrite⟩

omit [TextLibrary] in
/-- Writing a file spares each file that passes its checks. -/
theorem finalState_writeFile (claim : ArtifactClaim) (jobId text : String) {path owner read : String}
    {held : ArtifactKind} {bound : Option Digest} (hpath : Holds files path owner held bound read) :
    finalState (claim.writeFile jobId text) files path = files path := by
  unfold ArtifactClaim.writeFile
  rw [finalState_bind]
  have hsource := finalState_sourceDigest jobId claim.expectedPlanReference claim.kind hpath
  rcases hrun : sourceDigest jobId claim.expectedPlanReference claim.kind files with
    ⟨source, middle⟩ | ⟨message, middle⟩
  · obtain ⟨rfl, -⟩ := sourceDigest_eq_ok_iff.mp hrun
    simp only
    rcases hpayload : artifactPayload jobId claim.kind claim.round text source with message | payload
    · rfl
    · obtain ⟨round, contents, -, hfile, -⟩ := hpath
      have hwrite := finalState_exclusiveBytes payload.1 payload.2 hfile
      change finalState (exclusiveBytes payload.1 payload.2 >>= fun _ ↦ pure payload.1) middle path = _
      rw [finalState_bind]
      rcases hexclusive : exclusiveBytes payload.1 payload.2 middle with ⟨⟨⟩, last⟩ | ⟨error, last⟩
      · rw [finalState_of_ok hexclusive] at hwrite
        exact hwrite
      · rw [finalState_of_error hexclusive] at hwrite
        exact hwrite
  · rw [finalState_of_error hrun] at hsource
    exact hsource

omit [TextLibrary] in
theorem fileStep_writeFile {claim : ArtifactClaim} (hround : 0 ≤ claim.round ∧ claim.round ≤ 2)
    (jobId text : String) (files : ArtifactFiles) :
    FileStep files (finalState (claim.writeFile jobId text) files) := by
  unfold ArtifactClaim.writeFile
  rw [finalState_bind]
  have hsource := removes_sourceDigest jobId claim.expectedPlanReference claim.kind files
  rcases hrun : sourceDigest jobId claim.expectedPlanReference claim.kind files with
    ⟨source, middle⟩ | ⟨message, middle⟩
  · obtain ⟨rfl, -⟩ := sourceDigest_eq_ok_iff.mp hrun
    simp only
    rcases hpayload : artifactPayload jobId claim.kind claim.round text source with message | payload
    · exact (Removes.refl middle).fileStep
    · have hwrite := fileStep_exclusiveBytes (isPayload_of_artifactPayload hround hpayload) middle
      change FileStep middle
        (finalState (exclusiveBytes payload.1 payload.2 >>= fun _ ↦ pure payload.1) middle)
      rw [finalState_bind]
      rcases hexclusive : exclusiveBytes payload.1 payload.2 middle with ⟨⟨⟩, last⟩ | ⟨error, last⟩
      · rw [finalState_of_ok hexclusive] at hwrite
        exact hwrite
      · rw [finalState_of_error hexclusive] at hwrite
        exact hwrite
  · rw [finalState_of_error hrun] at hsource
    exact hsource.fileStep

namespace Publication

omit [Hashlib] in
theorem range_of_fits (h : publication.fits database = true) :
    0 ≤ publication.claim.round ∧ publication.claim.round ≤ 2 := by
  unfold fits at h
  rw [Bool.and_eq_true, decide_eq_true_eq] at h
  exact h.1

/-- The files after a publication, and the reference it wrote. -/
theorem write_cases (publication : Publication) (workspace : Workspace) :
    (publication.write workspace).2 = workspace.artifacts ∧
        (∃ error, (publication.write workspace).1 = .error error) ∨
      publication.fits workspace.database = true ∧
        (publication.write workspace).2 =
          finalState (publication.claim.writeFile publication.jobId publication.text)
            workspace.artifacts ∧
        ∀ reference, (publication.write workspace).1 = .ok reference →
          publication.claim.writeFile publication.jobId publication.text workspace.artifacts =
            .ok reference (publication.write workspace).2 := by
  unfold write
  split_ifs with hfits
  · refine .inr ⟨hfits, ?_, ?_⟩
    · rcases hrun : publication.claim.writeFile publication.jobId publication.text
        workspace.artifacts with ⟨reference, artifacts⟩ | ⟨message, artifacts⟩
      · exact (finalState_of_ok hrun).symm
      · exact (finalState_of_error hrun).symm
    · rcases publication.claim.writeFile publication.jobId publication.text
        workspace.artifacts with ⟨reference, artifacts⟩ | ⟨message, artifacts⟩
      · rintro other ⟨⟩
        rfl
      · rintro other ⟨⟩
  · exact .inl ⟨rfl, _, rfl⟩

theorem write_spares (publication : Publication) {path owner read : String} {held : ArtifactKind}
    {bound : Option Digest} (hpath : Holds workspace.artifacts path owner held bound read) :
    (publication.write workspace).2 path = workspace.artifacts path := by
  rcases publication.write_cases workspace with ⟨hsame, -⟩ | ⟨-, hfinal, -⟩
  · rw [hsame]
  · rw [hfinal]
    exact finalState_writeFile _ _ _ hpath

theorem write_fileStep (publication : Publication) (workspace : Workspace) :
    FileStep workspace.artifacts (publication.write workspace).2 := by
  rcases publication.write_cases workspace with ⟨hsame, -⟩ | ⟨hfits, hfinal, -⟩
  · rw [hsame]
    exact (Removes.refl _).fileStep
  · rw [hfinal]
    exact fileStep_writeFile (range_of_fits hfits) _ _ _

/-- The file a publication wrote holds its payload. -/
theorem write_ok {reference : String} (h : (publication.write workspace).1 = .ok reference) :
    ∃ source contents, sourceDigest publication.jobId publication.claim.expectedPlanReference
        publication.claim.kind workspace.artifacts = .ok source workspace.artifacts ∧
      IsPayload contents reference publication.jobId publication.claim.kind
        publication.claim.round.toNat publication.text source ∧
      (publication.write workspace).2 reference = some (.text contents) := by
  rcases publication.write_cases workspace with ⟨-, error, herror⟩ | ⟨hfits, -, hwrite⟩
  · rw [h] at herror
    cases herror
  · exact writeFile_ok (range_of_fits hfits) (hwrite reference h)

end Publication

end

end VoiceHarness
