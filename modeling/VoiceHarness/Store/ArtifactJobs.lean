import VoiceHarness.Store.ArtifactReads
import VoiceHarness.Store.FollowUp

/-!
# The artifacts of the stored jobs

Each stored job has the files of its references, and its review is for the text of its plan. A transition
keeps this: the store checks a reference that is new, and a caller that replaces the plan drops the review.
-/

set_option autoImplicit false
set_option relaxedAutoImplicit false

namespace VoiceHarness

open Library

section

variable [Hashlib]

/-- The files of a job are there, and its review is for its plan. -/
structure Fine (files : ArtifactFiles) (job : AgentJob) : Prop where
  plan : ∀ reference, job.values.text .planArtifact = some reference →
    ∃ text, Holds files reference job.id .plan none text
  review : ∀ reference, job.values.text .reviewArtifact = some reference →
    ∃ plan read text, job.values.text .planArtifact = some plan ∧
      Holds files plan job.id .plan none read ∧
      Holds files reference job.id .review (some (sha256 read)) text

/-- What the files say about a candidate. -/
def verdict (files : ArtifactFiles) (candidate : AgentJob) (previous : Option AgentJob) : Checked Unit :=
  match validateCandidateArtifacts candidate previous files with
  | .ok _ _ => .ok ()
  | .error message _ => .error message

/-- The plan stays, or the review goes or is another one. -/
def KeepsReview (current changed : AgentJob) : Prop :=
  changed.values.text .planArtifact = current.values.text .planArtifact ∨
    changed.values.text .reviewArtifact = none ∨
    changed.values.text .reviewArtifact ≠ current.values.text .reviewArtifact

/-- What the callers of the store promise: a transition that replaces the plan of a job does not keep its
review, and a follow-up starts without artifacts. -/
def StoreCall.KeepsReviews : StoreCall → Prop
  | create _ _ _ => True
  | apply _ _ decide _ _ => ∀ current decision, decide current = .ok (some decision) →
      KeepsReview current decision.job
  | update _ _ _ command _ _ => ∀ current changed, command current = .ok (some changed) →
      KeepsReview current changed
  | stageGroupedChildren _ _ command _ => ∀ current changed, command current = .ok (some changed) →
      KeepsReview current changed
  | createFollowUp _ _ build _ _ _ => ∀ parent child, build parent = .ok child →
      child.values.text .planArtifact = none ∧ child.values.text .reviewArtifact = none
  | claimParticipantCapacity _ => True
  | publishArtifact _ _ _ _ => False
  | prune _ => True

/-- The call with what the artifact files say. -/
def StoreCall.withArtifacts (files : ArtifactFiles) : StoreCall → StoreCall
  | create store job enforceUniqueTicket =>
    .create { store with validateCandidateArtifacts := verdict files } job enforceUniqueTicket
  | apply store command decide reservation rejectsMaintenance =>
    .apply { store with validateCandidateArtifacts := verdict files } command decide reservation
      rejectsMaintenance
  | update store jobId token command reservation rejectsMaintenance =>
    .update { store with validateCandidateArtifacts := verdict files } jobId token command reservation
      rejectsMaintenance
  | stageGroupedChildren store coordinatorId command children =>
    .stageGroupedChildren { store with validateCandidateArtifacts := verdict files } coordinatorId
      command children
  | createFollowUp store parentJobId build expectedParentRevision expectedCompletedAt shared =>
    .createFollowUp { store with validateCandidateArtifacts := verdict files } parentJobId build
      expectedParentRevision expectedCompletedAt shared
  | claimParticipantCapacity limit => .claimParticipantCapacity limit
  | publishArtifact jobId claim write change => .publishArtifact jobId claim write change
  | prune cutoff => .prune cutoff

variable {files : ArtifactFiles} {job candidate current changed : AgentJob}

/-! ### One job -/

theorem Holds.congr {after : ArtifactFiles} {reference jobId text : String} {kind : ArtifactKind}
    {source : Option Digest} (h : Holds files reference jobId kind source text)
    (hsame : after reference = files reference) : Holds after reference jobId kind source text := by
  obtain ⟨round, contents, hround, hfile, hcheck⟩ := h
  exact ⟨round, contents, hround, hsame.trans hfile, hcheck⟩

theorem Holds.text_unique {reference jobId text other : String} {kind : ArtifactKind}
    {source : Option Digest} (h : Holds files reference jobId kind source text)
    (hother : Holds files reference jobId kind source other) : other = text := by
  obtain ⟨round, contents, hround, hfile, hcheck⟩ := h
  obtain ⟨otherRound, otherContents, hotherRound, hotherFile, hotherCheck⟩ := hother
  rw [hround] at hotherRound
  rw [hfile] at hotherFile
  cases hotherRound
  cases hotherFile
  rw [hcheck] at hotherCheck
  cases hotherCheck
  rfl

theorem Fine.congr (h : Fine files job) (hid : candidate.id = job.id)
    (hplan : candidate.values.text .planArtifact = job.values.text .planArtifact)
    (hreview : candidate.values.text .reviewArtifact = job.values.text .reviewArtifact) :
    Fine files candidate := by
  refine ⟨fun reference hreference ↦ ?_, fun reference hreference ↦ ?_⟩
  · rw [hplan] at hreference
    rw [hid]
    exact h.plan reference hreference
  · rw [hreview] at hreference
    rw [hid, hplan]
    exact h.review reference hreference

theorem Fine.of_none (hplan : job.values.text .planArtifact = none)
    (hreview : job.values.text .reviewArtifact = none) : Fine files job := by
  refine ⟨fun reference hreference ↦ ?_, fun reference hreference ↦ ?_⟩
  · rw [hplan] at hreference
    cases hreference
  · rw [hreview] at hreference
    cases hreference

theorem verdict_ok {previous : Option AgentJob} (h : verdict files candidate previous = .ok ()) :
    ReferenceHolds files candidate previous .plan ∧ ReferenceHolds files candidate previous .review := by
  unfold verdict at h
  rcases hrun : validateCandidateArtifacts candidate previous files with ⟨⟨⟩, after⟩ | ⟨message, after⟩
  · exact (validateCandidateArtifacts_ok hrun).2
  · rw [hrun] at h
    cases h

/-- A candidate without a stored job has all its files. -/
theorem fine_of_verdict_none (h : verdict files candidate none = .ok ()) : Fine files candidate := by
  obtain ⟨hplan, hreview⟩ := verdict_ok h
  refine ⟨fun reference hreference ↦ ?_, fun reference hreference ↦ ?_⟩
  · rcases hplan reference hreference with ⟨job, hjob, -⟩ | ⟨source, text, hholds, -⟩
    · cases hjob
    · obtain ⟨round, contents, hround, hfile, hcheck⟩ := hholds
      exact ⟨text, round, contents, hround, hfile, by rw [checkArtifact_plan none source, hcheck]⟩
  · rcases hreview reference hreference with ⟨job, hjob, -⟩ | ⟨source, text, hholds, hsource⟩
    · cases hjob
    · obtain ⟨plan, read, hplanField, hread, rfl⟩ := hsource rfl
      exact ⟨plan, read, text, hplanField, hread, hholds⟩

/-- A candidate that replaces a fine job and keeps no review of another plan is fine. -/
theorem fine_of_verdict (hcurrent : Fine files current) (hid : candidate.id = current.id)
    (hkeeps : KeepsReview current candidate)
    (h : verdict files candidate (some current) = .ok ()) : Fine files candidate := by
  obtain ⟨hplan, hreview⟩ := verdict_ok h
  refine ⟨fun reference hreference ↦ ?_, fun reference hreference ↦ ?_⟩
  · rcases hplan reference hreference with ⟨job, hjob, hsame⟩ | ⟨source, text, hholds, -⟩
    · cases hjob
      rw [hid]
      exact hcurrent.plan reference hsame
    · obtain ⟨round, contents, hround, hfile, hcheck⟩ := hholds
      exact ⟨text, round, contents, hround, hfile, by rw [checkArtifact_plan none source, hcheck]⟩
  · rcases hreview reference hreference with ⟨job, hjob, hsame⟩ | ⟨source, text, hholds, hsource⟩
    · cases hjob
      rcases hkeeps with hplanSame | hnone | hother
      · rw [hid, hplanSame]
        exact hcurrent.review reference hsame
      · rw [hnone] at hreference
        cases hreference
      · exact absurd (hreference.trans hsame.symm) hother
    · obtain ⟨plan, read, hplanField, hread, rfl⟩ := hsource rfl
      exact ⟨plan, read, text, hplanField, hread, hholds⟩

/-! ### The stored jobs -/

variable [TextLibrary] {database next : Database}

/-- Every stored job is fine. -/
def Database.AllFine (files : ArtifactFiles) (database : Database) : Prop :=
  ∀ jobId job, getJob jobId database = .ok job database → Fine files job

omit [Hashlib] in
/-- A written candidate has the artifacts of the job it is made from. -/
theorem artifacts_normalizeForDurableWrite (h : changed.normalizeForDurableWrite = .ok candidate) :
    candidate.id = changed.id ∧
      candidate.values.text .planArtifact = changed.values.text .planArtifact ∧
      candidate.values.text .reviewArtifact = changed.values.text .reviewArtifact := by
  refine ⟨?_, AgentJob.text_normalizeForDurableWrite h (by decide) (by decide),
    AgentJob.text_normalizeForDurableWrite h (by decide) (by decide)⟩
  unfold AgentJob.id Values.jobId Values.textOrEmpty
  rw [AgentJob.text_normalizeForDurableWrite h (by decide) (by decide)]

omit [Hashlib] in
theorem KeepsReview.normalized (h : KeepsReview current changed)
    (hnormalized : changed.normalizeForDurableWrite = .ok candidate) : KeepsReview current candidate := by
  obtain ⟨-, hplan, hreview⟩ := artifacts_normalizeForDurableWrite hnormalized
  unfold KeepsReview
  rw [hplan, hreview]
  exact h

theorem Database.AllFine.sameRows (h : database.AllFine files)
    (hsame : ∀ jobId, database.SameRows next jobId) : next.AllFine files :=
  fun jobId job hjob ↦ h jobId job ((hsame jobId).getJob_eq_ok_iff.mp hjob)

/-- A fine durable job may be saved. -/
theorem Database.AllFine.saved (h : database.AllFine files) (hdurable : candidate.Durable)
    (hfine : Fine files candidate)
    (haccepts : candidate.values.Accepts candidate.values.reservationRows database) :
    (candidate.values.saved candidate.values.reservationRows database).AllFine files := by
  intro jobId job hjob
  by_cases hsame : jobId = candidate.id
  · obtain ⟨stored, hid, hcells, hstores⟩ := Database.stores_saved hdurable haccepts
    obtain ⟨read, hread, hvalues⟩ := hstores.getJob_eq
    rw [hsame, ← hid, hread] at hjob
    cases hjob
    have htext : ∀ field, job.values.text field = candidate.values.text field := by
      intro field
      unfold Values.text Values.get
      rw [hvalues, show stored.values (.text field) = candidate.values (.text field) from
        (congrFun hcells _).symm]
    have hname : job.id = candidate.id := by
      unfold AgentJob.id Values.jobId Values.textOrEmpty
      rw [htext]
    exact hfine.congr hname (htext _) (htext _)
  · exact h jobId job ((Values.sameRows_saved hsame haccepts).getJob_eq_ok_iff.mp hjob)

theorem keepsFine_getJob (jobId : String) :
    Keeps (Database.AllFine files) (getJob jobId) fun job ↦ job.Durable ∧ Fine files job ∧ job.id = jobId := by
  intro database h job next hrun
  obtain ⟨-, hdurable⟩ := keeps_getJob (P := fun _ ↦ True) jobId database trivial job next hrun
  have hid := id_of_getJob hrun
  obtain ⟨hread, rfl⟩ := getJob_eq_ok_iff.mp hrun
  exact ⟨h, hdurable, h jobId job hrun, hid⟩

theorem keepsFine_saveJob (hdurable : candidate.Durable) (hfine : Fine files candidate) :
    Keeps (Database.AllFine files) (saveJob candidate) fun saved ↦ saved = candidate := by
  intro database h saved next hrun
  obtain ⟨hsaved, haccepts, rfl⟩ := saveJob_eq_ok_iff.mp hrun
  exact ⟨h.saved hdurable hfine haccepts, hsaved⟩

theorem keepsFine_recordTransition (command : CoordinatorCommand) (decision : CoordinatorDecision) :
    Keeps (Database.AllFine files) (recordTransition command decision) fun _ ↦ True := by
  intro database h result next hrun
  obtain ⟨-, outbox, -, rfl⟩ := recordTransition_eq_ok_iff.mp hrun
  exact ⟨h.sameRows fun jobId ↦ ⟨rfl, rfl, rfl, rfl, rfl, rfl⟩, trivial⟩

omit [Hashlib] in
/-- A job that was deleted is not there. -/
theorem getJob_deleteJob {jobId : String} {result : PUnit}
    (h : deleteJob jobId database = .ok result next) (job : AgentJob) :
    getJob jobId next ≠ .ok job next := by
  intro hjob
  obtain ⟨⟨raw, hload, -⟩, -⟩ := getJob_eq_ok_iff.mp hjob
  cases h
  have hgone : findRow NamedRow.jobId (discard NamedRow.jobId database.named jobId) jobId = none :=
    findRow_discard_self ..
  unfold Database.loadJob at hload
  simp only [hgone] at hload
  split_ifs at hload

theorem keepsFine_deleteJob (jobId : String) :
    Keeps (Database.AllFine files) (deleteJob jobId) fun _ ↦ True := by
  intro database h result next hrun
  have hremoves := removes_deleteJob hrun
  refine ⟨fun other job hjob ↦ ?_, trivial⟩
  by_cases hsame : other = jobId
  · exact absurd (hsame ▸ hjob) (getJob_deleteJob hrun job)
  · exact h other job ((hremoves.others other (by simpa using hsame)).getJob_eq_ok_iff.mp hjob)

/-! ### The calls of the store -/

variable {store : StoreFiles} (hstore : store.validateCandidateArtifacts = verdict files)

include hstore

theorem keepsFine_create (job : AgentJob) (enforceUniqueTicket : Bool) :
    Keeps (Database.AllFine files) (create store job enforceUniqueTicket) fun _ ↦ True := by
  unfold create
  rw [hstore]
  refine (keeps_rejectMaintenance _).bind fun _ _ ↦ ?_
  refine (keeps_requireAbsent _).bind fun _ _ ↦ ?_
  refine (keeps_normalized job).bind fun candidate hcandidate ↦ ?_
  refine (keeps_refuse _).bind fun _ _ ↦ ?_
  refine (keeps_rejectTicketConflict candidate enforceUniqueTicket).bind fun _ _ ↦ ?_
  refine (keeps_checked (R := fun _ ↦ Fine files candidate) fun _ h ↦ fine_of_verdict_none h).bind
    fun _ hfine ↦ ?_
  refine (keeps_checked fun _ _ ↦ trivial).bind fun _ _ ↦ ?_
  refine (keeps_checked fun _ _ ↦ trivial).bind fun _ _ ↦ ?_
  refine (keepsFine_saveJob hcandidate hfine).bind fun saved _ ↦ ?_
  exact (keepsFine_recordTransition _ _).bind fun _ _ ↦ Keeps.pure trivial

theorem keepsFine_applyDecision {command : CoordinatorCommand}
    {decide : AgentJob → Except StoreError (Option CoordinatorDecision)}
    (hkeeps : ∀ current decision, decide current = .ok (some decision) → KeepsReview current decision.job)
    (reservation : Option QuarantineReservation) {current : AgentJob} (hcurrent : Fine files current) :
    Keeps (Database.AllFine files) (applyDecision store command decide reservation current)
      fun _ ↦ True := by
  unfold applyDecision
  rw [hstore]
  refine Keeps.ite (Keeps.pure trivial) ?_
  refine (Keeps.valueOrRaise (R := fun decision ↦ decide current = .ok decision) fun _ h ↦ h).bind
    fun decision hdecide ↦ ?_
  cases decision with
  | none => exact Keeps.pure trivial
  | some decision =>
    refine (keeps_checked (R := fun candidate ↦ decision.job.normalizeForDurableWrite = .ok candidate)
      fun _ h ↦ h).bind fun candidate hcandidate ↦ ?_
    refine (keeps_checked (R := fun _ ↦ candidate.id = current.id) fun _ h ↦
      (validateTransition_identity h).1).bind fun _ hid ↦ ?_
    refine (keeps_checked (R := fun _ ↦ Fine files candidate) fun _ h ↦ fine_of_verdict hcurrent hid
      ((hkeeps current decision hdecide).normalized hcandidate) h).bind fun _ hfine ↦ ?_
    refine (keeps_checkQuarantine store reservation candidate).bind fun _ _ ↦ ?_
    refine (keepsFine_recordTransition _ _).bind fun _ _ ↦ ?_
    exact (keepsFine_saveJob (AgentJob.durable_normalizeForDurableWrite hcandidate) hfine).map
      fun _ _ ↦ trivial

theorem keepsFine_applyOnConnection {command : CoordinatorCommand}
    {decide : AgentJob → Except StoreError (Option CoordinatorDecision)}
    (hkeeps : ∀ current decision, decide current = .ok (some decision) → KeepsReview current decision.job)
    (reservation : Option QuarantineReservation) {current : Option AgentJob}
    (hcurrent : ∀ job ∈ current, Fine files job) :
    Keeps (Database.AllFine files) (applyOnConnection store command decide reservation current)
      fun _ ↦ True := by
  unfold applyOnConnection
  refine Keeps.get.bind fun database _ ↦ ?_
  split
  · exact Keeps.ite Keeps.throw ((keepsFine_getJob _).map fun _ _ ↦ trivial)
  · cases current with
    | some current => exact keepsFine_applyDecision hstore hkeeps reservation (hcurrent current rfl)
    | none =>
      exact (keepsFine_getJob _).bind fun job hjob ↦
        keepsFine_applyDecision hstore hkeeps reservation hjob.2.1

theorem keepsFine_applyCommand {command : CoordinatorCommand}
    {decide : AgentJob → Except StoreError (Option CoordinatorDecision)}
    (hkeeps : ∀ current decision, decide current = .ok (some decision) → KeepsReview current decision.job)
    (reservation : Option QuarantineReservation) (rejectsMaintenance : Bool) :
    Keeps (Database.AllFine files)
      (applyCommand store command decide reservation rejectsMaintenance) fun _ ↦ True := by
  unfold applyCommand
  refine (keeps_checked fun _ _ ↦ trivial).bind fun _ _ ↦ ?_
  refine Keeps.get.bind fun database _ ↦ Keeps.ite (Keeps.pure trivial) ?_
  exact keepsFine_applyOnConnection hstore hkeeps reservation fun _ hjob ↦ nomatch hjob

theorem keepsFine_updateJob (jobId token : String)
    {command : AgentJob → Except StoreError (Option AgentJob)}
    (hkeeps : ∀ current changed, command current = .ok (some changed) → KeepsReview current changed)
    (reservation : Option QuarantineReservation) (rejectsMaintenance : Bool) :
    Keeps (Database.AllFine files)
      (updateJob store jobId token command reservation rejectsMaintenance) fun _ ↦ True := by
  unfold updateJob
  refine Keeps.get.bind fun database _ ↦ Keeps.ite (Keeps.pure trivial) ?_
  refine (keepsFine_getJob jobId).bind fun current hcurrent ↦ ?_
  refine (keeps_checked fun _ _ ↦ trivial).bind fun _ _ ↦ ?_
  refine keepsFine_applyOnConnection hstore (fun job decision hdecision ↦ ?_) reservation ?_
  · rcases hcommand : command job with error | result
    · rw [hcommand] at hdecision
      cases hdecision
    · rw [hcommand] at hdecision
      cases result with
      | none => cases hdecision
      | some changed =>
        cases hdecision
        exact hkeeps job changed hcommand
  · rintro job ⟨⟩
    exact hcurrent.2.1

theorem keepsFine_saveGroupedChild (child : AgentJob) :
    Keeps (Database.AllFine files) (saveGroupedChild store child) fun _ ↦ True := by
  unfold saveGroupedChild
  rw [hstore]
  refine (keeps_normalized child).bind fun normalized hnormalized ↦ ?_
  refine (keeps_refuse _).bind fun _ _ ↦ ?_
  refine (keeps_checked (R := fun _ ↦ Fine files normalized) fun _ h ↦ fine_of_verdict_none h).bind
    fun _ hfine ↦ ?_
  exact (keepsFine_saveJob hnormalized hfine).bind fun _ _ ↦ Keeps.pure trivial

theorem keepsFine_stageGroupedChildren (coordinatorId : String)
    {command : AgentJob → Except StoreError (Option AgentJob)}
    (hkeeps : ∀ current changed, command current = .ok (some changed) → KeepsReview current changed)
    (children : List AgentJob) :
    Keeps (Database.AllFine files) (stageGroupedChildren store coordinatorId command children)
      fun _ ↦ True := by
  unfold stageGroupedChildren
  rw [hstore]
  refine (keeps_rejectMaintenance _).bind fun _ _ ↦ ?_
  refine (keepsFine_getJob coordinatorId).bind fun current hcurrent ↦ ?_
  refine (Keeps.valueOrRaise (R := fun staged ↦ command current = .ok staged) fun _ h ↦ h).bind
    fun staged hstaged ↦ ?_
  cases staged with
  | none => exact Keeps.pure trivial
  | some staged =>
    refine (keeps_checked (R := fun candidate ↦ staged.normalizeForDurableWrite = .ok candidate)
      fun _ h ↦ h).bind fun candidate hcandidate ↦ ?_
    refine (keeps_checked (R := fun _ ↦ candidate.id = current.id) fun _ h ↦
      (validateTransition_identity h).1).bind fun _ hid ↦ ?_
    refine (keeps_checked (R := fun _ ↦ Fine files candidate) fun _ h ↦
      fine_of_verdict hcurrent.2.1 hid ((hkeeps current staged hstaged).normalized hcandidate) h).bind
        fun _ hfine ↦ ?_
    refine (keepsFine_saveJob (AgentJob.durable_normalizeForDurableWrite hcandidate) hfine).bind
      fun _ _ ↦ ?_
    refine (Keeps.forM fun child _ ↦ keepsFine_saveGroupedChild hstore child).bind fun _ _ ↦ ?_
    exact Keeps.pure trivial

omit hstore

theorem keepsFine_createFollowUp (store : StoreFiles) (parentJobId : String)
    {build : AgentJob → Except StoreError AgentJob}
    (hbuild : ∀ parent child, build parent = .ok child →
      child.values.text .planArtifact = none ∧ child.values.text .reviewArtifact = none)
    (expectedParentRevision : ℤ) (expectedCompletedAt : Option Time) (shared : Bool) :
    Keeps (Database.AllFine files) (createFollowUp store parentJobId build expectedParentRevision
      expectedCompletedAt shared) fun _ ↦ True := by
  unfold createFollowUp
  refine (keeps_rejectMaintenance _).bind fun _ _ ↦ ?_
  refine (keepsFine_getJob parentJobId).raisingAs.bind fun parent _ ↦ ?_
  refine (keeps_refuse _).bind fun _ _ ↦ ?_
  refine (Keeps.valueOrRaise (R := fun child ↦ build parent = .ok child) fun _ h ↦ h).bind
    fun child hchild ↦ ?_
  refine (keeps_checked fun _ _ ↦ trivial).bind fun _ _ ↦ ?_
  refine (keeps_refuse _).bind fun _ _ ↦ ?_
  refine (keeps_requireAbsent _).bind fun _ _ ↦ Keeps.raisingAs ?_
  refine (keeps_checked fun _ _ ↦ trivial).bind fun _ _ ↦ ?_
  refine (keeps_checked (R := fun candidate ↦ child.normalizeForDurableWrite = .ok candidate)
    fun _ h ↦ h).bind fun candidate hcandidate ↦ ?_
  obtain ⟨-, hplan, hreview⟩ := artifacts_normalizeForDurableWrite hcandidate
  obtain ⟨hnoPlan, hnoReview⟩ := hbuild parent child hchild
  exact (keepsFine_saveJob (AgentJob.durable_normalizeForDurableWrite hcandidate)
    (Fine.of_none (hplan.trans hnoPlan) (hreview.trans hnoReview))).weaken fun _ _ ↦ trivial

/-- The admission of a job changes none of its artifacts. -/
theorem keepsFine_claimCapacity (hdurable : job.Durable) (hfine : Fine files job) :
    Keeps (Database.AllFine files) (claimCapacity job) fun _ ↦ True := by
  unfold claimCapacity
  refine (keeps_checked fun _ _ ↦ trivial).bind fun lifecycle _ ↦ ?_
  refine (keeps_checked fun _ _ ↦ trivial).bind fun admitted _ ↦ ?_
  refine (keeps_checked (R := fun candidate ↦ job.evolveParticipant admitted = .ok candidate)
    fun _ h ↦ h).bind fun candidate hcandidate ↦ ?_
  have htext : ∀ field ∈ [TextField.planArtifact, .reviewArtifact],
      candidate.values.text field = job.values.text field := by
    intro field hfield
    have hown : ∀ field ∈ [TextField.planArtifact, .reviewArtifact],
        Field.text field ∉ Values.canonicalFields ∧ Field.text field ∉ Values.evolutionFields ∧
          Field.text field ∉ [Field.participantAdmissionState, .operation .participantCreationState,
            .participant .participantCreationParticipant, .text .participantCreationTarget,
            .text .participantCreationLabel, .text .participantCreationWorkspaceId,
            .text .participantCreationPaneId] := by decide
    obtain ⟨hcanonical, hevolution, hchanges⟩ := hown field hfield
    obtain ⟨values, hvalues, heq⟩ := AgentJob.fromDict_ok (AgentJob.evolve_ok hcandidate).1
    unfold Values.text
    rw [heq, Values.get_of_agreeOff (Values.agreeOff_canonicalise hvalues) hcanonical]
    unfold Values.get
    exact congrArg Cell.get?
      (AgentJob.evolvedRecord_of_notMem List.not_mem_nil hchanges hevolution (by simp))
  have hid := (validateTransition_identity (AgentJob.evolve_ok hcandidate).2).1
  refine (keepsFine_saveJob (AgentJob.durable_evolveParticipant hdurable hcandidate)
    (hfine.congr hid (htext _ (by simp)) (htext _ (by simp)))).weaken fun _ _ ↦ trivial

theorem keepsFine_claimParticipantCapacity (limit : ℤ) :
    Keeps (Database.AllFine files) (claimParticipantCapacity limit) fun _ ↦ True := by
  unfold claimParticipantCapacity
  refine (keeps_refuse _).bind fun _ _ ↦ ?_
  have hlist : Keeps (Database.AllFine files) listJobs
      fun jobs ↦ ∀ job ∈ jobs, job.Durable ∧ Fine files job := by
    unfold listJobs
    refine Keeps.get.bind fun database _ ↦ Keeps.mapM fun jobId _ ↦ ?_
    exact (keepsFine_getJob jobId).weaken fun _ hjob ↦ ⟨hjob.1, hjob.2.1⟩
  refine hlist.bind fun jobs hjobs ↦ Keeps.ite (Keeps.pure trivial) ?_
  refine Keeps.weaken (Keeps.mapM (R := fun _ ↦ True) fun job hjob ↦ ?_) fun _ _ ↦ trivial
  have hwaiting := (List.mergeSort_perm _ _).mem_iff.mp (List.mem_of_mem_take hjob)
  obtain ⟨hdurable, hfine⟩ := hjobs job (List.mem_filter.mp hwaiting).1
  exact keepsFine_claimCapacity hdurable hfine

theorem keepsFine_prune (cutoff : Time) :
    Keeps (Database.AllFine files) (prune cutoff) fun _ ↦ True := by
  unfold prune
  refine Keeps.get.bind fun database _ ↦ Keeps.ite (Keeps.pure trivial) ?_
  refine keeps_listJobs.bind fun jobs _ ↦ ?_
  exact (Keeps.forM fun jobId _ ↦ keepsFine_deleteJob jobId).bind fun _ _ ↦ Keeps.pure trivial

/-- A call whose caller keeps its promise keeps every stored job fine. -/
theorem keepsFine_program {call : StoreCall} (hcall : call.KeepsReviews) :
    Keeps (Database.AllFine files) (call.withArtifacts files).program fun _ ↦ True := by
  cases call with
  | create store job enforceUniqueTicket =>
    exact (keepsFine_create rfl job enforceUniqueTicket).bind fun _ _ ↦ Keeps.pure trivial
  | apply store command decide reservation rejectsMaintenance =>
    exact (keepsFine_applyCommand rfl hcall reservation rejectsMaintenance).bind
      fun _ _ ↦ Keeps.pure trivial
  | update store jobId token command reservation rejectsMaintenance =>
    exact (keepsFine_updateJob rfl jobId token hcall reservation rejectsMaintenance).bind
      fun _ _ ↦ Keeps.pure trivial
  | stageGroupedChildren store coordinatorId command children =>
    exact (keepsFine_stageGroupedChildren rfl coordinatorId hcall children).bind
      fun _ _ ↦ Keeps.pure trivial
  | createFollowUp store parentJobId build expectedParentRevision expectedCompletedAt shared =>
    exact (keepsFine_createFollowUp _ parentJobId hcall expectedParentRevision expectedCompletedAt
      shared).bind fun _ _ ↦ Keeps.pure trivial
  | claimParticipantCapacity limit =>
    exact (keepsFine_claimParticipantCapacity limit).bind fun _ _ ↦ Keeps.pure trivial
  | publishArtifact jobId claim write change => exact absurd hcall id
  | prune cutoff => exact (keepsFine_prune cutoff).bind fun _ _ ↦ Keeps.pure trivial

end

end VoiceHarness
