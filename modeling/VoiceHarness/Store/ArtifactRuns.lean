import VoiceHarness.Store.Maintenance
import VoiceHarness.Store.Publication

/-!
# Artifacts along a run

Every step keeps the files of the stored jobs: a call spares the files that pass their checks, a job that is
removed takes only its own files along, and a publication saves what it wrote.
-/

set_option autoImplicit false
set_option relaxedAutoImplicit false

namespace VoiceHarness

open Library

section

variable [TextLibrary] [Hashlib] {files after : ArtifactFiles} {database next : Database}
  {job : AgentJob} {workspace : Workspace}

/-! ### Steps that spare the files of the stored jobs -/

/-- The job stored under the id holds the reference. -/
def Database.Refers (database : Database) (jobId : String) (kind : ArtifactKind)
    (reference : String) : Prop :=
  ∃ job, getJob jobId database = .ok job database ∧ job.values.text kind.field = some reference

/-- The second files are the first ones wherever a stored job has a file that passes its checks. -/
def Database.Spares (database : Database) (files after : ArtifactFiles) : Prop :=
  ∀ jobId kind reference source text, database.Refers jobId kind reference →
    Holds files reference jobId kind source text → after reference = files reference

theorem Database.AllFine.spared (h : database.AllFine files) (hspares : database.Spares files after) :
    database.AllFine after := by
  intro jobId job hjob
  have hid := id_of_getJob hjob
  obtain ⟨hplan, hreview⟩ := h jobId job hjob
  rw [hid] at hplan hreview
  have hkept : ∀ kind {reference source text}, job.values.text kind.field = some reference →
      Holds files reference jobId kind source text → Holds after reference jobId kind source text :=
    fun _ _ _ _ hreference hholds ↦
      hholds.congr (hspares _ _ _ _ _ ⟨job, hjob, hreference⟩ hholds)
  refine ⟨fun reference hreference ↦ ?_, fun reference hreference ↦ ?_⟩
  · obtain ⟨text, hholds⟩ := hplan reference hreference
    exact ⟨text, hid ▸ hkept .plan hreference hholds⟩
  · obtain ⟨plan, read, text, hfield, hread, hholds⟩ := hreview reference hreference
    exact ⟨plan, read, text, hfield, hid ▸ hkept .plan hfield hread,
      hid ▸ hkept .review hreference hholds⟩

theorem removes_checks (workspace : Workspace) (validated : List AgentJob) (files : ArtifactFiles) :
    Removes files (finalState (workspace.checks validated) files) := by
  unfold Workspace.checks
  induction validated generalizing files with
  | nil => exact Removes.refl files
  | cons candidate validated ih =>
    exact relates_bind (R := Removes) Removes.trans (removes_validateCandidateArtifacts _ _)
      (fun _ ↦ ih) files

theorem checks_ok {validated : List AgentJob} {result : PUnit}
    (h : workspace.checks validated files = .ok result after) : after = files := by
  unfold Workspace.checks at h
  induction validated generalizing files with
  | nil =>
    cases h
    rfl
  | cons candidate validated ih =>
    obtain ⟨middle, hcandidate, hrest⟩ := forM_cons_eq_ok_iff.mp h
    obtain ⟨rfl, -⟩ := validateCandidateArtifacts_ok hcandidate
    exact ih hrest

/-- The checks of candidates spare the files of the stored jobs. -/
theorem spares_checks (workspace : Workspace) (validated : List AgentJob) (files : ArtifactFiles) :
    workspace.database.Spares files (finalState (workspace.checks validated) files) := by
  rintro jobId kind reference source text ⟨job, hjob, hreference⟩ hholds
  have hstored : ∀ candidate : AgentJob, kind = .review → candidate.id = jobId →
      ∃ held, workspace.stored candidate = some held ∧
        held.values.text .reviewArtifact = some reference := by
    rintro candidate rfl rfl
    refine ⟨job, ?_, hreference⟩
    unfold Workspace.stored
    rw [hjob]
  unfold Workspace.checks
  induction validated with
  | nil => rfl
  | cons candidate validated ih =>
    have hspared := finalState_validateCandidateArtifacts candidate (workspace.stored candidate) hholds
      (hstored candidate)
    change finalState (validateCandidateArtifacts candidate (workspace.stored candidate) >>= fun _ ↦
      validated.forM fun other ↦ validateCandidateArtifacts other (workspace.stored other)) files
        reference = _
    rw [finalState_bind]
    rcases hrun : validateCandidateArtifacts candidate (workspace.stored candidate) files with
      ⟨⟨⟩, middle⟩ | ⟨message, middle⟩
    · obtain ⟨rfl, -⟩ := validateCandidateArtifacts_ok hrun
      exact ih
    · rw [finalState_of_error hrun] at hspared
      exact hspared

/-! ### The files of the jobs that are removed -/

omit [TextLibrary] [Hashlib] in
/-- The files of a job are not below the directory of another one. -/
theorem deleteArtifacts_of_notMem {removed : List String} {reference jobId : String}
    {kind : ArtifactKind} {round : ℕ} (hround : artifactRound? reference jobId kind = some round)
    (hjob : isJobId jobId = true) (hremoved : ∀ other ∈ removed, isJobId other = true)
    (hnot : jobId ∉ removed) : deleteArtifacts removed files reference = files reference := by
  have hlength : ∀ {other : String}, isJobId other = true → other.toList.length = 12 := by
    intro other hother
    unfold isJobId at hother
    rw [Bool.and_eq_true, decide_eq_true_eq] at hother
    exact hother.1
  unfold deleteArtifacts
  refine if_neg fun hany ↦ hnot ?_
  obtain ⟨other, hmem, hprefix⟩ := List.any_eq_true.mp hany
  obtain ⟨-, digest, -, hreference⟩ := Values.exists_core_of_artifactRound hround
  rw [List.isPrefixOf_iff_prefix, hreference] at hprefix
  obtain ⟨rest, hrest⟩ := hprefix
  simp only [String.toList_append, List.append_assoc] at hrest
  have hids := (List.append_inj (List.append_cancel_left hrest)
    ((hlength (hremoved other hmem)).trans (hlength hjob).symm)).1
  rwa [← String.toList_inj.mp hids]

omit [Hashlib] in
/-- A job that is deleted is not read again. -/
theorem getJob_deleteJobs {jobIds : List String} {result : PUnit}
    (h : jobIds.forM deleteJob database = .ok result next) {jobId : String} (hmem : jobId ∈ jobIds)
    (job : AgentJob) : getJob jobId next ≠ .ok job next := by
  induction jobIds generalizing database with
  | nil => cases hmem
  | cons head tail ih =>
    obtain ⟨middle, hdelete, hrest⟩ := forM_cons_eq_ok_iff.mp h
    by_cases htail : jobId ∈ tail
    · exact ih hrest htail
    · have hhead : jobId = head := (List.mem_cons.mp hmem).resolve_right htail
      subst hhead
      rw [Ne, ((removes_deleteJobs hrest).others jobId htail).getJob_eq_ok_iff]
      exact getJob_deleteJob hdelete job

omit [Hashlib] in
/-- What a call removes is gone. -/
theorem removed_gone {call : StoreCall} {answer : StoreAnswer}
    (h : call.program database = .ok answer next) :
    ∀ jobId ∈ answer.removed, isJobId jobId = true ∧ ∀ job, getJob jobId next ≠ .ok job next := by
  cases call with
  | prune cutoff =>
    obtain ⟨removed, hprune, rfl⟩ := map_eq_ok_iff.mp h
    intro jobId hmem
    obtain ⟨-, rfl, -⟩ | ⟨-, jobs, -, rfl, hdeleted⟩ := prune_eq_ok_iff.mp hprune
    · cases hmem
    · refine ⟨?_, getJob_deleteJobs hdeleted hmem⟩
      obtain ⟨job, -, rfl⟩ := List.mem_map.mp hmem
      exact job.isJobId_id
  | _ =>
    obtain ⟨_, -, rfl⟩ := map_eq_ok_iff.mp h
    exact fun jobId hmem ↦ absurd hmem List.not_mem_nil

/-- The files of the jobs that stay are kept when the removed ones take theirs along. -/
theorem spares_deleteArtifacts {removed : List String}
    (hgone : ∀ jobId ∈ removed, isJobId jobId = true ∧ ∀ job, getJob jobId next ≠ .ok job next)
    (files : ArtifactFiles) : next.Spares files (deleteArtifacts removed files) := by
  rintro jobId kind reference source text ⟨job, hjob, -⟩ ⟨round, contents, hround, -, -⟩
  have hid : isJobId jobId = true := id_of_getJob hjob ▸ job.isJobId_id
  exact deleteArtifacts_of_notMem hround hid (fun other hother ↦ (hgone other hother).1)
    fun hmem ↦ (hgone jobId hmem).2 job hjob

/-! ### Publications -/

/-- What a publication that commits found and saved. -/
structure Publication.Commits (publication : Publication) (workspace : Workspace) (reference : String)
    (saved : AgentJob) : Prop where
  fits : ∃ current, getJob publication.jobId workspace.database = .ok current workspace.database ∧
    publication.claim.Fits current ∧ saved.id = current.id ∧
    match publication.claim.kind with
    | .plan => saved.values.text .reviewArtifact = none
    | .review => saved.values.text .planArtifact = current.values.text .planArtifact
  wrote : (publication.write workspace).1 = .ok reference
  durable : saved.Durable
  field : saved.values.text publication.claim.kind.field = some reference
  accepts : saved.values.Accepts saved.values.reservationRows workspace.database
  database : (workspace.publish publication).1.database =
    saved.values.saved saved.values.reservationRows workspace.database

theorem publish_cases (workspace : Workspace) (publication : Publication) :
    (∃ result, (workspace.publish publication).2 = .saved result ∧
        (∀ saved, result ≠ .ok { jobs := [saved] }) ∧
        (workspace.publish publication).1.database = workspace.database) ∨
      ∃ reference saved, (workspace.publish publication).2 = .saved (.ok { jobs := [saved] }) ∧
        publication.Commits workspace reference saved := by
  rcases hrun : StoreCall.program (.publishArtifact publication.jobId publication.claim
      (publication.write workspace).1 publication.change) workspace.database with
    ⟨answer, next⟩ | ⟨error, next⟩
  · have hstep : storeMachine.step workspace.database (.publishArtifact publication.jobId
        publication.claim (publication.write workspace).1 publication.change) = (next, .ok answer) :=
      atomically_eq_ok_iff.mpr hrun
    obtain ⟨result, hpublish, rfl⟩ := map_eq_ok_iff.mp hrun
    have hdatabase : (workspace.publish publication).1.database = next := congrArg Prod.fst hstep
    have hanswer : (workspace.publish publication).2 = .saved (.ok { jobs := result.toList }) :=
      congrArg ArtifactAnswer.saved (congrArg Prod.snd hstep)
    rcases publishArtifact_cases hpublish with ⟨rfl, rfl⟩ | ⟨current, reference, changed, saved, -,
      hread, hstale, hwrite, hchange, rfl, hdurable, hid, hplan, hreview, hfield, haccepts, hnext⟩
    · refine .inl ⟨_, hanswer, ?_, hdatabase⟩
      rintro saved ⟨⟩
    · have hkeeps := publication.keepsOther current reference changed hchange
      refine .inr ⟨reference, saved, hanswer, ⟨⟨current, hread, ArtifactClaim.fits_of_isStale hstale,
        hid, ?_⟩, hwrite, hdurable, hfield, haccepts, hdatabase.trans hnext⟩⟩
      unfold ArtifactKind.KeepsOther at hkeeps
      cases hkind : publication.claim.kind with
      | plan =>
        rw [hkind] at hkeeps
        exact hreview.trans hkeeps
      | review =>
        rw [hkind] at hkeeps
        exact hplan.trans hkeeps
  · have hstep : storeMachine.step workspace.database (.publishArtifact publication.jobId
        publication.claim (publication.write workspace).1 publication.change) =
          (workspace.database, .error error) := atomically_of_error hrun
    refine .inl ⟨.error error, congrArg ArtifactAnswer.saved (congrArg Prod.snd hstep), ?_,
      congrArg Prod.fst hstep⟩
    rintro saved ⟨⟩

theorem spares_write (publication : Publication) (workspace : Workspace) :
    workspace.database.Spares workspace.artifacts (publication.write workspace).2 :=
  fun _ _ _ _ _ _ hholds ↦ publication.write_spares hholds

/-- What a publication wrote passes the checks of its job. -/
theorem Publication.holds_of_write {publication : Publication} {reference : String}
    (h : (publication.write workspace).1 = .ok reference) :
    ∃ source, sourceDigest publication.jobId publication.claim.expectedPlanReference
        publication.claim.kind workspace.artifacts = .ok source workspace.artifacts ∧
      Holds (publication.write workspace).2 reference publication.jobId publication.claim.kind source
        publication.text := by
  obtain ⟨source, contents, hsource, hpayload, hfile⟩ := publication.write_ok h
  obtain ⟨raw, hraw⟩ := hpayload.isArtifact (fun _ ↦ rfl)
  exact ⟨source, hsource, _, contents, hpayload.artifactRound?, hfile,
    checkArtifact_eq_ok_iff.mpr ⟨raw, hraw⟩⟩

theorem allFine_publish (h : workspace.database.AllFine workspace.artifacts)
    (publication : Publication) : (workspace.publish publication).1.database.AllFine
      (workspace.publish publication).1.artifacts := by
  have hspared := h.spared (spares_write publication workspace)
  rcases publish_cases workspace publication with
    ⟨result, -, -, hsame⟩ | ⟨reference, saved, -, hcommits⟩
  · rw [hsame]
    exact hspared
  · obtain ⟨⟨current, hread, hfits, hid, hother⟩, hwrote, hdurable, hfield, haccepts, hdatabase⟩ :=
      hcommits
    obtain ⟨source, hsource, hholds⟩ := publication.holds_of_write hwrote
    have hcurrent := hspared publication.jobId current hread
    have hjob := id_of_getJob hread
    rw [hdatabase]
    refine hspared.saved hdurable ?_ haccepts
    rw [← hjob, ← hid] at hholds
    cases hkind : publication.claim.kind with
    | plan =>
      rw [hkind] at hother hfield hholds
      refine ⟨fun other hsome ↦ ?_, fun other hsome ↦ ?_⟩
      · obtain rfl : reference = other := Option.some.inj (hfield.symm.trans hsome)
        obtain ⟨round, contents, hround, hfile, hcheck⟩ := hholds
        exact ⟨publication.text, round, contents, hround, hfile, by
          rw [checkArtifact_plan none source, hcheck]⟩
      · rw [hother] at hsome
        cases hsome
    | review =>
      rw [hkind] at hother hfield hholds hsource
      refine ⟨fun other hsome ↦ ?_, fun other hsome ↦ ?_⟩
      · rw [hother] at hsome
        rw [hid]
        exact hcurrent.plan other hsome
      · obtain rfl : reference = other := Option.some.inj (hfield.symm.trans hsome)
        obtain ⟨-, plan, read, hplan, hreads, rfl⟩ := sourceDigest_eq_ok_iff.mp hsource
        obtain ⟨expected, hexpected, hsame⟩ := hfits.plan hkind
        obtain rfl : expected = plan := Option.some.inj (hexpected.symm.trans hplan)
        refine ⟨expected, read, publication.text, hother.trans hsame, ?_, hholds⟩
        rw [hid, hjob]
        exact hreads.congr (publication.write_spares hreads)

/-! ### Other calls -/

theorem allFine_transition (h : workspace.database.AllFine workspace.artifacts) {call : StoreCall}
    (hcall : call.KeepsReviews) (validated : List AgentJob) :
    (workspace.transition call validated).1.database.AllFine
      (workspace.transition call validated).1.artifacts := by
  have hspared := h.spared (spares_checks workspace validated workspace.artifacts)
  unfold Workspace.transition
  rcases hchecks : workspace.checks validated workspace.artifacts with ⟨⟨⟩, middle⟩ | ⟨message, middle⟩
  · obtain rfl := checks_ok hchecks
    rcases hrun : (call.withArtifacts workspace.artifacts).program workspace.database with
      ⟨answer, next⟩ | ⟨error, next⟩
    · have hstep : storeMachine.step workspace.database (call.withArtifacts workspace.artifacts) =
          (next, .ok answer) := atomically_eq_ok_iff.mpr hrun
      have hnext := (keepsFine_program hcall workspace.database h answer next hrun).1
      simp only [hstep]
      exact hnext.spared (spares_deleteArtifacts (removed_gone hrun) _)
    · have hstep : storeMachine.step workspace.database (call.withArtifacts workspace.artifacts) =
          (workspace.database, .error error) := atomically_of_error hrun
      simp only [hstep]
      exact h
  · rw [finalState_of_error hchecks] at hspared
    exact hspared

theorem fileStep_transition (workspace : Workspace) (call : StoreCall) (validated : List AgentJob) :
    FileStep workspace.artifacts (workspace.transition call validated).1.artifacts := by
  have hremoves := removes_checks workspace validated workspace.artifacts
  unfold Workspace.transition
  rcases hchecks : workspace.checks validated workspace.artifacts with ⟨⟨⟩, middle⟩ | ⟨message, middle⟩
  · obtain rfl := checks_ok hchecks
    simp only
    split
    · exact (Removes.refl _).fileStep
    · next database answer hstep =>
      refine Removes.fileStep fun reference ↦ ?_
      simp only [deleteArtifacts]
      split_ifs
      · exact .inr rfl
      · exact .inl rfl
  · rw [finalState_of_error hchecks] at hremoves
    exact hremoves.fileStep

omit [TextLibrary] in
/-- The bytes of `write_artifact`, where it gets to its file. -/
theorem writeArtifact_cases (workspace : Workspace) (jobId : String) (kind : ArtifactKind) (round : ℤ)
    (text : String) (planText : Option String) :
    (workspace.writeArtifact jobId kind round text planText).1 = workspace ∨
      ∃ reference contents, IsPayload contents reference jobId kind round.toNat text
          (planText.map sha256) ∧
        (workspace.writeArtifact jobId kind round text planText).1 =
          { workspace with
            artifacts := finalState (exclusiveBytes reference contents) workspace.artifacts } := by
  unfold Workspace.writeArtifact
  extract_lets refused
  split_ifs with hround hplan
  · exact .inl rfl
  · exact .inl rfl
  · split
    · exact .inl rfl
    · next payload hpayload =>
      split
      · exact .inl rfl
      · refine .inr ⟨payload.1, payload.2, isPayload_of_artifactPayload (by omega) hpayload, ?_⟩
        split
        · next result artifacts hwrite => rw [finalState_of_ok hwrite]
        · next message artifacts hwrite => rw [finalState_of_error hwrite]

theorem allFine_writeArtifact (h : workspace.database.AllFine workspace.artifacts) (jobId : String)
    (kind : ArtifactKind) (round : ℤ) (text : String) (planText : Option String) :
    (workspace.writeArtifact jobId kind round text planText).1.database.AllFine
      (workspace.writeArtifact jobId kind round text planText).1.artifacts := by
  rcases writeArtifact_cases workspace jobId kind round text planText with
    hsame | ⟨reference, contents, -, hwrite⟩
  · rw [hsame]
    exact h
  · rw [hwrite]
    refine h.spared fun _ _ path _ _ _ hholds ↦ ?_
    obtain ⟨_, _, -, hfile, -⟩ := hholds
    exact finalState_exclusiveBytes reference contents hfile

omit [TextLibrary] in
theorem fileStep_writeArtifact (workspace : Workspace) (jobId : String) (kind : ArtifactKind)
    (round : ℤ) (text : String) (planText : Option String) : FileStep workspace.artifacts
      (workspace.writeArtifact jobId kind round text planText).1.artifacts := by
  rcases writeArtifact_cases workspace jobId kind round text planText with
    hsame | ⟨reference, contents, hpayload, hwrite⟩
  · rw [hsame]
    exact (Removes.refl _).fileStep
  · rw [hwrite]
    exact fileStep_exclusiveBytes hpayload _

theorem readings_transition (workspace : Workspace) (call : StoreCall) (validated : List AgentJob) :
    (workspace.transition call validated).1.readings = workspace.readings := by
  unfold Workspace.transition
  split
  · rfl
  · split <;> rfl

omit [TextLibrary] in
theorem readings_writeArtifact (workspace : Workspace) (jobId : String) (kind : ArtifactKind)
    (round : ℤ) (text : String) (planText : Option String) :
    (workspace.writeArtifact jobId kind round text planText).1.readings = workspace.readings := by
  rcases writeArtifact_cases workspace jobId kind round text planText with
    hsame | ⟨reference, contents, -, hwrite⟩
  · rw [hsame]
  · rw [hwrite]

/-! ### Every step -/

omit [TextLibrary] in
theorem removes_readPlan (workspace : Workspace) (reader : ℕ) :
    Removes workspace.artifacts (workspace.readPlan reader).1.artifacts := by
  unfold Workspace.readPlan
  split
  · exact Removes.refl _
  · next reading hreading =>
    split_ifs
    · exact Removes.refl _
    · have hsource : Removes workspace.artifacts (finalState reading.parseSource workspace.artifacts) := by
        unfold Reading.parseSource
        split
        · exact Removes.refl _
        · exact removes_parsePlan _ _ _
      split
      · next hrun => exact finalState_of_ok hrun ▸ hsource
      · next hrun => exact finalState_of_error hrun ▸ hsource

omit [TextLibrary] in
theorem removes_readText (workspace : Workspace) (reader : ℕ) :
    Removes workspace.artifacts (workspace.readText reader).1.artifacts := by
  unfold Workspace.readText
  split
  · exact Removes.refl _
  · next reading hreading =>
    split_ifs
    · exact Removes.refl _
    · have htext : Removes workspace.artifacts (finalState reading.parseText workspace.artifacts) :=
        removes_parseArtifact _ _ _ _ _ _
      split
      · next hrun => exact finalState_of_ok hrun ▸ htext
      · next hrun => exact finalState_of_error hrun ▸ htext

theorem artifacts_step_beginRead (workspace : Workspace) (reader : ℕ) (jobId reference : String)
    (kind : ArtifactKind) : (workspace.step (.beginRead reader jobId reference kind)).1.artifacts =
      workspace.artifacts := by
  simp only [Workspace.step]
  split <;> rfl

/-- A step moves files away and writes some under their digests. -/
theorem fileStep_step (workspace : Workspace) (event : ArtifactEvent) :
    FileStep workspace.artifacts (workspace.step event).1.artifacts := by
  cases event with
  | publish publication => exact publication.write_fileStep workspace
  | transition call validated keeps => exact fileStep_transition workspace call validated
  | write jobId kind round text planText => exact fileStep_writeArtifact workspace jobId kind round text planText
  | beginRead reader jobId reference kind =>
    rw [artifacts_step_beginRead]
    exact (Removes.refl _).fileStep
  | readPlan reader => exact (removes_readPlan workspace reader).fileStep
  | readText reader => exact (removes_readText workspace reader).fileStep

end

end VoiceHarness
