import VoiceHarness.Store.FollowUp
import Mathlib.Algebra.Order.Ring.Rat
import Mathlib.Data.List.Perm.Subperm

/-!
# The capacity for participants

`claim_participant_capacity` counts the held jobs and admits the oldest waiting ones, while
`validate_transition` checks how each job leaves its admission state. Together they keep the number of
held jobs within the limit.
-/

set_option autoImplicit false
set_option relaxedAutoImplicit false

namespace VoiceHarness

open Library

/-! ### Transitions of one job -/

namespace AgentJob

/-- `participant_admission_state`. -/
def admission (job : AgentJob) : ParticipantAdmissionState := job.values.participantAdmissionState

/-- How an accepted transition changes the admission. -/
structure AdmissionStep (before after : AgentJob) : Prop where
  yields : before.admission = .held → after.admission = .waiting →
    yieldsForRepository before.values after.values = true ∧
      before.values.participantLifecycle =
        .ok { admission := .held, creation := { state := .none } }
  releases : before.admission = .held → after.admission = .released →
    cleanupConfirmed after.values = true
  admits : before.admission ≠ .held → after.admission = .held → before.admission = .waiting
  final : before.admission = .released → after.admission = .released

end AgentJob

theorem participantLifecycle_admission {values : Values} {lifecycle : ParticipantLifecycle}
    (h : values.participantLifecycle = .ok lifecycle) :
    lifecycle.admission = values.participantAdmissionState := by
  unfold Values.participantLifecycle at h
  split at h
  · cases h
  · obtain ⟨⟨⟩, -, h⟩ := checked_bind_eq_ok_iff.mp h
    cases h
    rfl

/-- Every accepted transition is one of the admission edges. -/
theorem validateTransition_admission {before after : AgentJob}
    (h : validateTransition before after = .ok ()) : before.AdmissionStep after := by
  unfold validateTransition at h
  simp only [checked_bind_eq_ok_iff] at h
  obtain ⟨-, -, -, -, -, -, -, -, -, -, -, -, h⟩ := h
  obtain ⟨previous, hprevious, current, hcurrent, ⟨⟩, hadmission, -⟩ := h
  have hbefore : previous.admission = before.admission := participantLifecycle_admission hprevious
  have hafter : current.admission = after.admission := participantLifecycle_admission hcurrent
  unfold validateAdmission at hadmission
  split at hadmission
  · next hsame =>
    rw [hbefore, hafter] at hsame
    constructor
    · intro hheld hwaiting
      rw [hsame, hwaiting] at hheld
      cases hheld
    · intro hheld hreleased
      rw [hsame, hreleased] at hheld
      cases hheld
    · exact fun hother hheld ↦ absurd (hsame.trans hheld) hother
    · exact fun hreleased ↦ hsame ▸ hreleased
  next hchanged =>
  rw [hbefore, hafter] at hchanged
  split at hadmission
  · next hheld =>
    rw [hafter] at hheld
    obtain ⟨lifecycle, hlifecycle⟩ := parses_eq_ok_iff.mp hadmission
    have hwaiting : before.admission = .waiting := by
      unfold ParticipantLifecycle.admitHeld at hlifecycle
      split at hlifecycle
      · cases hlifecycle
      · next hwaiting => exact hbefore ▸ not_not.mp hwaiting
    constructor
    · intro _ hother
      rw [hheld] at hother
      cases hother
    · intro _ hother
      rw [hheld] at hother
      cases hother
    · exact fun _ _ ↦ hwaiting
    · intro hreleased
      rw [hwaiting] at hreleased
      cases hreleased
  · next hwaiting =>
    rw [hafter] at hwaiting
    split at hadmission
    · next hyields =>
      obtain ⟨lifecycle, hlifecycle⟩ := parses_eq_ok_iff.mp hadmission
      unfold ParticipantLifecycle.yieldCapacity at hlifecycle
      split at hlifecycle
      · cases hlifecycle
      next hheld =>
      split at hlifecycle
      · cases hlifecycle
      next hcreation =>
      have hheld : previous.admission = .held := not_not.mp hheld
      have hcreation : previous.creation = { state := .none } := not_not.mp hcreation
      constructor
      · intro _ _
        refine ⟨hyields, hprevious.trans ?_⟩
        rw [← hheld, ← hcreation]
      · intro _ hother
        rw [hwaiting] at hother
        cases hother
      · intro _ hother
        rw [hwaiting] at hother
        cases hother
      · intro hreleased
        rw [← hbefore, hheld] at hreleased
        cases hreleased
    · cases hadmission
  · next hreleased =>
    rw [hafter] at hreleased
    obtain ⟨lifecycle, hlifecycle⟩ := parses_eq_ok_iff.mp hadmission
    unfold ParticipantLifecycle.release at hlifecycle
    constructor
    · intro _ hother
      rw [hreleased] at hother
      cases hother
    · intro hheld _
      rw [if_neg (by rw [hbefore, hheld]; simp)] at hlifecycle
      split at hlifecycle
      · cases hlifecycle
      · next hconfirmed =>
        by_contra hunconfirmed
        exact hconfirmed ⟨hbefore.trans hheld, by simpa using hunconfirmed⟩
    · intro _ hother
      rw [hreleased] at hother
      cases hother
    · exact fun _ ↦ hreleased

section

variable [TextLibrary] {database next : Database}

/-! ### The admissions of a store -/

/-- The admission of a stored job. -/
def Database.admission? (database : Database) (jobId : String) :
    Option ParticipantAdmissionState :=
  match getJob jobId database with
  | .ok job _ => some job.admission
  | .error _ _ => none

/-- The jobs that hold capacity. -/
def Database.held (database : Database) : List String :=
  database.jobIds.filter fun jobId ↦ database.admission? jobId = some .held

theorem Database.Lists.admission? {job : AgentJob} (h : database.Lists job) :
    database.admission? job.id = some job.admission := by
  unfold Database.admission?
  rw [h.2]

theorem Database.SameRows.admission? {jobId : String} (h : database.SameRows next jobId) :
    next.admission? jobId = database.admission? jobId := by
  unfold Database.admission?
  rcases hread : getJob jobId database with ⟨job, same⟩ | ⟨error, same⟩
  · obtain ⟨-, hsame⟩ := VoiceHarness.getJob_eq_ok_iff.mp hread
    subst hsame
    rw [h.getJob_eq_ok_iff.mpr hread]
  · rcases hagain : getJob jobId next with ⟨job, same⟩ | ⟨error, same⟩
    · obtain ⟨-, hsame⟩ := VoiceHarness.getJob_eq_ok_iff.mp hagain
      subst hsame
      rw [h.getJob_eq_ok_iff.mp hagain] at hread
      cases hread
    · rfl

/-- A saved job is read with the admission it was saved with, and no other admission changes. -/
theorem admission?_saveJob {job saved : AgentJob} (hjob : job.Durable)
    (h : saveJob job database = .ok saved next) :
    next.admission? job.id = some job.admission ∧ job.id ∈ next.jobIds ∧
      ∀ other, other ≠ job.id → database.SameRows next other := by
  obtain ⟨-, haccepts, rfl⟩ := saveJob_eq_ok_iff.mp h
  obtain ⟨read, hlists, hid, hcells⟩ := Database.lists_saved hjob haccepts
  refine ⟨?_, hid ▸ hlists.1, fun other hother ↦ Values.sameRows_saved hother haccepts⟩
  rw [← hid, hlists.admission?]
  unfold AgentJob.admission Values.participantAdmissionState Values.get
  rw [show read.values .participantAdmissionState = job.values .participantAdmissionState from
    congrFun hcells _]

/-- The ids of the jobs are different. -/
theorem kept_jobIds : Kept fun database ↦ (database.jobs.map (·.jobId)).Nodup where
  save hjob haccepts h := nodup_upsert h _
  delete jobId database h value next hrun := by
    cases hrun
    exact ⟨nodup_discard h jobId, trivial⟩
  record command decision database h value next hrun := by
    obtain ⟨-, outbox, -, rfl⟩ := recordTransition_eq_ok_iff.mp hrun
    exact ⟨h, trivial⟩

omit [TextLibrary] in
theorem Database.nodup_jobIds (h : (database.jobs.map (·.jobId)).Nodup) :
    database.jobIds.Nodup :=
  (List.mergeSort_perm _ _).nodup_iff.mpr h

/-! ### A claim -/

/-- A present admission is kept where a record is canonicalised. -/
theorem Values.admission_canonicalise {values canonical : Values}
    (h : values.canonicalise = .ok canonical)
    (hpresent : (values .participantAdmissionState).isPresent = true) :
    canonical.participantAdmissionState = values.participantAdmissionState := by
  unfold canonicalise at h
  simp only [checked_bind_eq_ok_iff] at h
  obtain ⟨announced, hannounced, reviewed, hreviewed, issue, hissue, branch, hbranch, h⟩ := h
  cases h
  have hsession : values.sessionDefaults .participantAdmissionState =
      values .participantAdmissionState := agreeOff_sessionDefaults _ (by decide)
  have hcurrent : values.sessionDefaults.currentDefaults.get .participantAdmissionState =
      values.get .participantAdmissionState := by
    unfold get currentDefaults
    rw [setDefault_of_ne _ _ (by decide), setDefault_of_ne _ _ (by decide),
      setDefault_of_isPresent, setDefault_of_ne _ _ (by decide), hsession]
    rw [setDefault_of_ne _ _ (by decide), hsession]
    exact hpresent
  unfold participantAdmissionState
  rw [get_of_agreeOff agreeOff_collectionDefaults (by decide),
    get_of_agreeOff agreeOff_promptOperationDefaults (by decide)]
  have hset : (branch.set (.int .schemaVersion) (.val currentSchemaVersion)).get
      .participantAdmissionState = branch.get .participantAdmissionState := by
    unfold get
    rw [set_of_ne _ _ (by decide)]
  rw [hset, get_of_agreeOff (agreeOff_canonicalizePullRequestBranch hbranch) (by decide),
    get_of_agreeOff (agreeOff_canonicalizeGithubIssueCreationIdentity hissue) (by decide),
    get_of_agreeOff (agreeOff_canonicalizeReviewApproval hreviewed) (by decide),
    get_of_agreeOff (agreeOff_canonicalizeAnnouncementDismissal hannounced) (by decide), hcurrent]

/-- A change of the participant writes its admission. -/
theorem AgentJob.admission_evolveParticipant {job candidate : AgentJob}
    {lifecycle : ParticipantLifecycle} (h : job.evolveParticipant lifecycle = .ok candidate) :
    candidate.admission = lifecycle.admission := by
  obtain ⟨hread, -⟩ := evolve_ok h
  obtain ⟨values, hcanonical, rfl⟩ := fromDict_ok hread
  generalize hchanges : ([.put .participantAdmissionState (some lifecycle.admission),
      .put (.operation .participantCreationState) (some lifecycle.creation.state.label),
      .put (.participant .participantCreationParticipant) lifecycle.creation.participant,
      .put (.text .participantCreationTarget) lifecycle.creation.target,
      .put (.text .participantCreationLabel) lifecycle.creation.label,
      .put (.text .participantCreationWorkspaceId) lifecycle.creation.workspaceId,
      .put (.text .participantCreationPaneId) lifecycle.creation.paneId] : List Change) = changes
    at hcanonical
  have hwritten : job.evolvedRecord changes none [] .participantAdmissionState =
      .val lifecycle.admission := by
    rw [agreeOff_evolvedRecord changes none [] _ (by decide),
      Values.agreeOff_pairWorkerOwnership _ (by decide),
      Values.agreeOff_pairAnnouncementAck _ (by decide), ← hchanges, Values.update_cons,
      Values.update_of_notMem _ (by simp)]
    exact Values.set_self _ _ _
  unfold admission
  rw [Values.admission_canonicalise hcanonical (by rw [hwritten]; rfl)]
  unfold Values.participantAdmissionState Values.get
  rw [hwritten]
  rfl

/-- The admission of one job holds it and leaves the other jobs as they were. -/
theorem claimCapacity_ok {job granted : AgentJob} (hjob : job.Durable)
    (h : claimCapacity job database = .ok granted next) :
    granted.id = job.id ∧ next.admission? job.id = some .held ∧
      ∀ other, other ≠ job.id → database.SameRows next other := by
  unfold claimCapacity at h
  rw [bind_checked_iff] at h
  obtain ⟨lifecycle, -, h⟩ := h
  rw [bind_checked_iff] at h
  obtain ⟨held, hheld, h⟩ := h
  rw [bind_checked_iff] at h
  obtain ⟨candidate, hcandidate, h⟩ := h
  obtain ⟨rfl, -⟩ := saveJob_eq_ok_iff.mp h
  have hid := (validateTransition_identity (AgentJob.evolve_ok hcandidate).2).1
  obtain ⟨hadmission, -, hothers⟩ :=
    admission?_saveJob (AgentJob.durable_evolveParticipant hjob hcandidate) h
  have hholds : held.admission = .held := by
    unfold ParticipantLifecycle.admitHeld at hheld
    split at hheld
    · cases hheld
    · cases hheld
      rfl
  rw [hid, AgentJob.admission_evolveParticipant hcandidate, hholds] at hadmission
  exact ⟨hid, hadmission, fun other hother ↦ hothers other (hid ▸ hother)⟩

/-- The admissions of a claim hold their jobs and leave the other jobs as they were. -/
theorem claimCapacities_ok {jobs granted : List AgentJob} (hjobs : ∀ job ∈ jobs, job.Durable)
    (hnodup : (jobs.map (·.id)).Nodup)
    (h : jobs.mapM claimCapacity database = .ok granted next) :
    granted.map (·.id) = jobs.map (·.id) ∧
      (∀ job ∈ jobs, next.admission? job.id = some .held) ∧
      ∀ other, other ∉ jobs.map (·.id) → database.SameRows next other := by
  induction jobs generalizing database granted with
  | nil =>
    rw [List.mapM_nil] at h
    cases h
    exact ⟨rfl, by simp, fun other _ ↦ .refl _ _⟩
  | cons job jobs ih =>
    rw [List.mapM_cons, bind_eq_ok_iff] at h
    obtain ⟨first, middle, hfirst, h⟩ := h
    rw [bind_eq_ok_iff] at h
    obtain ⟨rest, after, hrest, h⟩ := h
    cases h
    rw [List.map_cons, List.nodup_cons] at hnodup
    obtain ⟨hid, hheld, hothers⟩ := claimCapacity_ok (hjobs job List.mem_cons_self) hfirst
    obtain ⟨hids, hholds, hsame⟩ :=
      ih (fun other hother ↦ hjobs other (List.mem_cons_of_mem _ hother)) hnodup.2 hrest
    refine ⟨?_, ?_, fun other hother ↦ ?_⟩
    · rw [List.map_cons, List.map_cons, hid, hids]
    · intro other hother
      rcases List.mem_cons.mp hother with rfl | hother
      · rw [(hsame _ hnodup.1).admission?]
        exact hheld
      · exact hholds other hother
    · rw [List.map_cons, List.mem_cons, not_or] at hother
      exact (hothers other hother.1).trans (hsame other hother.2)

/-- The first job waits longer than the second: it is older, or as old with a smaller id. -/
def AgentJob.Older (first second : AgentJob) : Prop :=
  first.values.createdAt < second.values.createdAt ∨
    first.values.createdAt = second.values.createdAt ∧ first.id < second.id

/-- The order in which a claim sorts the waiting jobs. -/
def AgentJob.queuesBefore (first second : AgentJob) : Bool :=
  decide (first.values.createdAt < second.values.createdAt ∨
    first.values.createdAt = second.values.createdAt ∧ first.id ≤ second.id)

omit [TextLibrary] in
/-- Sorted jobs with different ids queue from the oldest on. -/
theorem pairwise_older {jobs : List AgentJob} (hnodup : (jobs.map (·.id)).Nodup) :
    (jobs.mergeSort AgentJob.queuesBefore).Pairwise AgentJob.Older := by
  have hsorted : (jobs.mergeSort AgentJob.queuesBefore).Pairwise
      fun first second ↦ AgentJob.queuesBefore first second = true := by
    refine List.pairwise_mergeSort (fun first second third hfirst hsecond ↦ ?_)
      (fun first second ↦ ?_) jobs
    · simp only [AgentJob.queuesBefore, decide_eq_true_eq] at hfirst hsecond ⊢
      rcases hfirst with hfirst | ⟨hfirst, hid⟩
      · rcases hsecond with hsecond | ⟨hsecond, -⟩
        · exact .inl (lt_trans hfirst hsecond)
        · exact .inl (hsecond ▸ hfirst)
      · rcases hsecond with hsecond | ⟨hsecond, hother⟩
        · exact .inl (hfirst ▸ hsecond)
        · exact .inr ⟨hfirst.trans hsecond, String.le_trans hid hother⟩
    · simp only [AgentJob.queuesBefore, Bool.or_eq_true, decide_eq_true_eq]
      rcases lt_trichotomy first.values.createdAt second.values.createdAt with h | h | h
      · exact .inl (.inl h)
      · rcases String.le_total first.id second.id with hid | hid
        · exact .inl (.inr ⟨h, hid⟩)
        · exact .inr (.inr ⟨h.symm, hid⟩)
      · exact .inr (.inl h)
  have hdistinct : (jobs.mergeSort AgentJob.queuesBefore).Pairwise
      fun first second ↦ first.id ≠ second.id := by
    rw [← List.pairwise_map (R := (· ≠ ·))]
    exact ((List.mergeSort_perm jobs _).map (·.id)).nodup_iff.mpr hnodup
  refine (hsorted.and hdistinct).imp ?_
  rintro first second ⟨hbefore, hne⟩
  simp only [AgentJob.queuesBefore, decide_eq_true_eq] at hbefore
  rcases hbefore with holder | ⟨hsame, hle⟩
  · exact .inl holder
  · refine .inr ⟨hsame, ?_⟩
    by_contra hnot
    exact hne (String.le_antisymm hle (String.not_lt.mp hnot))

/-- A claim admits the first jobs of the queue, as many as there is free capacity. -/
structure Database.Grants (database next : Database) (limit : ℤ) (granted : List AgentJob) :
    Prop where
  queue : ∃ queue : List AgentJob,
    (∀ job, job ∈ queue ↔ database.Lists job ∧ job.admission = .waiting ∧
      job.values.status = .queued) ∧
    queue.Pairwise AgentJob.Older ∧
    granted.map (·.id) = (queue.take (limit - database.held.length).toNat).map (·.id)
  holds : ∀ jobId ∈ granted.map (·.id), next.admission? jobId = some .held
  others : ∀ other, other ∉ granted.map (·.id) → database.SameRows next other

/-- The listed held jobs are the held ones. -/
theorem held_eq_of_listJobs {jobs : List AgentJob} (h : listJobs database = .ok jobs next) :
    database.held = (jobs.filter fun job ↦
      decide (job.values.participantAdmissionState = .held)).map (·.id) := by
  obtain ⟨-, hids, -⟩ := listJobs_reads h
  unfold Database.held
  rw [← hids, List.filter_map]
  congr 1
  refine List.filter_congr fun job hjob ↦ ?_
  have hlists := (mem_of_listJobs h).mp hjob
  simp only [Function.comp_apply, hlists.admission?, Option.some.injEq]
  rfl

theorem grants_of_claim {limit : ℤ} {granted : List AgentJob}
    (hids : (database.jobs.map (·.jobId)).Nodup)
    (h : claimParticipantCapacity limit database = .ok granted next) :
    database.Grants next limit granted := by
  unfold claimParticipantCapacity at h
  rw [bind_refuse_iff] at h
  obtain ⟨-, h⟩ := h
  rw [bind_eq_ok_iff] at h
  obtain ⟨jobs, middle, hlist, h⟩ := h
  obtain ⟨rfl, hnames, -⟩ := listJobs_reads hlist
  have hheld := held_eq_of_listJobs hlist
  have hdurable : ∀ job ∈ jobs, job.Durable := (keeps_listJobs (P := fun _ ↦ True) _ trivial _ _
    hlist).2
  have hnodup : (jobs.map (·.id)).Nodup := hnames ▸ Database.nodup_jobIds hids
  let waits := jobs.filter fun job ↦ decide (job.values.participantAdmissionState = .waiting ∧
    job.values.status = .queued)
  have hwaits : (waits.map (·.id)).Nodup := hnodup.sublist (List.filter_sublist.map _)
  have hqueue : ∀ job, job ∈ waits.mergeSort AgentJob.queuesBefore ↔
      middle.Lists job ∧ job.admission = .waiting ∧ job.values.status = .queued := by
    intro job
    rw [(List.mergeSort_perm _ _).mem_iff, List.mem_filter, mem_of_listJobs hlist,
      decide_eq_true_eq]
    rfl
  have hcount : (jobs.filter fun job ↦
      decide (job.values.participantAdmissionState = .held)).length = middle.held.length := by
    rw [hheld, List.length_map]
  rw [hcount] at h
  have hgranted : granted.map (·.id) = ((waits.mergeSort AgentJob.queuesBefore).take
        (limit - middle.held.length).toNat).map (·.id) ∧
      (∀ jobId ∈ granted.map (·.id), next.admission? jobId = some .held) ∧
      ∀ other, other ∉ granted.map (·.id) → middle.SameRows next other := by
    split at h
    · next hfull =>
      cases h
      rw [Int.toNat_of_nonpos hfull]
      exact ⟨rfl, by simp, fun other _ ↦ .refl _ _⟩
    · have htaken : (waits.mergeSort AgentJob.queuesBefore).take
          (limit - middle.held.length).toNat ⊆ waits.mergeSort AgentJob.queuesBefore :=
        List.take_subset _ _
      have hsorted : ((waits.mergeSort AgentJob.queuesBefore).map (·.id)).Nodup :=
        ((List.mergeSort_perm waits _).map (·.id)).nodup_iff.mpr hwaits
      obtain ⟨hsame, hholds, hothers⟩ := claimCapacities_ok
        (fun job hjob ↦ hdurable job (List.mem_filter.mp
          ((List.mergeSort_perm _ _).mem_iff.mp (htaken hjob))).1)
        (hsorted.sublist ((List.take_sublist _ _).map _)) h
      refine ⟨hsame, fun jobId hjobId ↦ ?_, fun other hother ↦ hothers other (hsame ▸ hother)⟩
      rw [hsame] at hjobId
      obtain ⟨job, hjob, rfl⟩ := List.mem_map.mp hjobId
      exact hholds job hjob
  exact ⟨⟨_, hqueue, pairwise_older hwaits, hgranted.1⟩, hgranted.2.1, hgranted.2.2⟩

/-! ### Calls that admit no job -/

theorem Database.mem_held {jobId : String} :
    jobId ∈ database.held ↔
      jobId ∈ database.jobIds ∧ database.admission? jobId = some .held := by
  unfold Database.held
  rw [List.mem_filter, decide_eq_true_eq]

/-- A saved job that is held only where it was held before adds no held job. -/
theorem held_saveJob {job saved : AgentJob} (hjob : job.Durable)
    (h : saveJob job database = .ok saved next)
    (hheld : job.admission = .held → job.id ∈ database.held) : next.held ⊆ database.held := by
  obtain ⟨hadmission, -, hothers⟩ := admission?_saveJob hjob h
  intro jobId hjobId
  obtain ⟨hlisted, hholds⟩ := Database.mem_held.mp hjobId
  by_cases hsame : jobId = job.id
  · subst hsame
    rw [hadmission] at hholds
    exact hheld (Option.some.inj hholds)
  · have hrows := hothers jobId hsame
    exact Database.mem_held.mpr
      ⟨hrows.mem_jobIds_iff.mp hlisted, hrows.admission?.symm.trans hholds⟩

/-- A recorded transition names a stored job and changes no job. -/
theorem recordTransition_jobs {command : CoordinatorCommand} {decision : CoordinatorDecision}
    (h : recordTransition command decision database = .ok ⟨⟩ next) :
    decision.job.id ∈ database.jobIds ∧ next.held = database.held := by
  obtain ⟨hviolations, outbox, -, rfl⟩ := recordTransition_eq_ok_iff.mp h
  constructor
  · have hforeign := firstViolation_eq_none_iff.mp hviolations _ (List.mem_cons_of_mem _
      (List.mem_cons_of_mem _ (List.mem_cons_of_mem _ List.mem_cons_self)))
    rw [List.all_eq_false] at hforeign
    obtain ⟨row, hrow, hid⟩ := hforeign
    have hid : row.jobId = (command.event decision).jobId := by simpa using hid
    exact mem_jobIds.mpr ⟨row, hrow, hid⟩
  · have hsame : ∀ jobId, ({ database with
        events := database.events ++ [command.event decision], outbox } :
          Database).SameRows database jobId := fun jobId ↦ ⟨rfl, rfl, rfl, rfl, rfl, rfl⟩
    unfold Database.held
    refine List.filter_congr fun jobId _ ↦ ?_
    rw [← (hsame jobId).admission?]

/-- The decision holds only a job that was held. -/
def IsPlain (decide : AgentJob → Except StoreError (Option CoordinatorDecision)) : Prop :=
  ∀ job decision candidate, decide job = .ok (some decision) →
    decision.job.normalizeForDurableWrite = .ok candidate →
      candidate.admission = .held → job.admission = .held

theorem held_applyDecision {call : ApplyCall} {current : AgentJob} {result : Option AgentJob}
    (hplain : IsPlain call.decide)
    (hread : getJob call.command.jobId database = .ok current database)
    (h : applyDecision call.files call.command call.decide call.reservation current database =
      .ok result next) : next.held ⊆ database.held := by
  rcases applyDecision_cases h with ⟨-, rfl⟩ | ⟨-, decision, candidate, recorded, hdecide,
    hnormalized, htransition, hrecord, hsave, -⟩
  · exact List.Subset.refl _
  · obtain ⟨hlisted, hheld⟩ := recordTransition_jobs hrecord
    have hid : candidate.id = current.id := (validateTransition_identity htransition).1
    refine List.Subset.trans (held_saveJob
      (AgentJob.durable_normalizeForDurableWrite hnormalized) hsave fun hcandidate ↦ ?_)
      (hheld ▸ List.Subset.refl _)
    rw [hheld]
    refine Database.mem_held.mpr ⟨hlisted, ?_⟩
    rw [hid, id_of_getJob hread]
    unfold Database.admission?
    rw [hread]
    exact congrArg some (hplain current decision candidate hdecide hnormalized hcandidate)

/-! ### Runs -/

/-- A call of a run with one limit: a job that is created waiting, a transition that is applied and
admits no job, or a claim. -/
inductive CapacityCall
  | create (files : StoreFiles) (job : AgentJob) (enforceUniqueTicket : Bool)
      (waiting : ∀ candidate, job.normalizeForDurableWrite = .ok candidate →
        candidate.admission = .waiting)
  | apply (call : ApplyCall) (plain : IsPlain call.decide)
  | update (files : StoreFiles) (jobId token : String)
      (command : AgentJob → Except StoreError (Option AgentJob))
      (reservation : Option QuarantineReservation) (rejectsMaintenance : Bool)
      (plain : IsPlain fun job ↦ do
        match ← command job with
        | none => .ok none
        | some candidate => .ok (some { job := candidate, eventKind := "store.update" }))
  | claim

def CapacityCall.toCall (limit : ℤ) : CapacityCall → StoreCall
  | create files job enforceUniqueTicket _ => .create files job enforceUniqueTicket
  | apply call _ => call.toCall
  | update files jobId token command reservation rejectsMaintenance _ =>
    .update files jobId token command reservation rejectsMaintenance
  | claim => .claimParticipantCapacity limit

theorem held_create {files : StoreFiles} {job created : AgentJob} {enforceUniqueTicket : Bool}
    (hwaiting : ∀ candidate, job.normalizeForDurableWrite = .ok candidate →
      candidate.admission = .waiting)
    (h : create files job enforceUniqueTicket database = .ok created next) :
    next.held ⊆ database.held := by
  unfold create at h
  rw [bind_eq_ok_iff] at h
  obtain ⟨⟨⟩, first, hlease, h⟩ := h
  obtain ⟨rfl, -⟩ := keeps_rejectMaintenance (P := (· = database)) _ _ rfl _ _ hlease
  rw [bind_requireAbsent_iff] at h
  obtain ⟨-, h⟩ := h
  rw [bind_checked_iff] at h
  obtain ⟨candidate, hnormalized, h⟩ := h
  rw [bind_refuse_iff] at h
  obtain ⟨-, h⟩ := h
  rw [bind_eq_ok_iff] at h
  obtain ⟨⟨⟩, second, hticket, h⟩ := h
  obtain ⟨rfl, -⟩ := keeps_rejectTicketConflict (P := (· = first)) _ _ _ rfl _ _ hticket
  simp only [bind_checked_iff] at h
  obtain ⟨⟨⟩, -, ⟨⟩, -, ⟨⟩, -, h⟩ := h
  rw [bind_eq_ok_iff] at h
  obtain ⟨saved, after, hsave, h⟩ := h
  rw [bind_eq_ok_iff] at h
  obtain ⟨⟨⟩, recorded, hrecord, h⟩ := h
  cases h
  have hkept := (recordTransition_jobs hrecord).2
  rw [hkept]
  refine held_saveJob (AgentJob.durable_normalizeForDurableWrite hnormalized) hsave fun hheld ↦ ?_
  rw [hwaiting candidate hnormalized] at hheld
  cases hheld

theorem held_updateJob {files : StoreFiles} {jobId token : String}
    {command : AgentJob → Except StoreError (Option AgentJob)}
    {reservation : Option QuarantineReservation} {rejectsMaintenance : Bool}
    {result : Option AgentJob}
    (hplain : IsPlain fun job ↦ do
      match ← command job with
      | none => .ok none
      | some candidate => .ok (some { job := candidate, eventKind := "store.update" }))
    (h : updateJob files jobId token command reservation rejectsMaintenance database =
      .ok result next) : next.held ⊆ database.held := by
  unfold updateJob at h
  rw [bind_get_iff] at h
  split at h
  · cases h
    exact List.Subset.refl _
  · rw [bind_getJob_iff] at h
    obtain ⟨current, hread, h⟩ := h
    rw [bind_checked_iff] at h
    obtain ⟨⟨⟩, -, h⟩ := h
    let call : ApplyCall :=
      { files
        command :=
          { jobId, expectedRevision := current.values.revision
            commandId := s!"store.update:{jobId}:{token}", kind := "store.update" }
        decide := fun job ↦ do
          match ← command job with
          | none => .ok none
          | some candidate => .ok (some { job := candidate, eventKind := "store.update" })
        reservation
        rejectsMaintenance }
    change applyOnConnection call.files call.command call.decide call.reservation (some current)
      database = .ok result next at h
    unfold applyOnConnection at h
    rw [bind_get_iff] at h
    rcases hfind : database.events.find? (·.commandId = call.command.commandId) with _ | existing
    · simp only [hfind] at h
      have hcall : IsPlain call.decide := hplain
      exact held_applyDecision hcall hread h
    · simp only [hfind] at h
      split_ifs at h
      · cases h
      · rw [map_eq_ok_iff] at h
        obtain ⟨job, hjob, -⟩ := h
        obtain ⟨-, rfl⟩ := VoiceHarness.getJob_eq_ok_iff.mp hjob
        exact List.Subset.refl _

/-- A claim that grants keeps the limit. -/
theorem Database.Grants.held_le {limit : ℤ} {granted : List AgentJob}
    (h : database.Grants next limit granted)
    (hids : (next.jobs.map (·.jobId)).Nodup) (hlimit : (database.held.length : ℤ) ≤ limit) :
    (next.held.length : ℤ) ≤ limit := by
  obtain ⟨queue, -, -, hgranted⟩ := h.queue
  have hsubset : next.held ⊆ database.held ++ granted.map (·.id) := by
    intro jobId hjobId
    obtain ⟨hlisted, hholds⟩ := mem_held.mp hjobId
    by_cases hnew : jobId ∈ granted.map (·.id)
    · exact List.mem_append_right _ hnew
    · have hrows := h.others jobId hnew
      exact List.mem_append_left _ (mem_held.mpr
        ⟨hrows.mem_jobIds_iff.mp hlisted, hrows.admission?.symm.trans hholds⟩)
  have hnodup : next.held.Nodup := (nodup_jobIds hids).filter _
  have hlength := (List.subperm_of_subset hnodup hsubset).length_le
  have htaken : granted.length ≤ (limit - database.held.length).toNat := by
    have hmap := congrArg List.length hgranted
    rw [List.length_map, List.length_map] at hmap
    rw [hmap]
    exact List.length_take_le _ _
  rw [List.length_append, List.length_map] at hlength
  omega

/-- What a call of the store left: the result of its program, or the store as it was. -/
theorem step_of_program {α : Type} {call : StoreCall} {program : StoreProgram α}
    {answer : α → StoreAnswer} {P : Database → Prop}
    (hprogram : call.program = program >>= fun value ↦ pure (answer value))
    (hsame : P database) (hnext : ∀ value next, program database = .ok value next → P next) :
    P (storeMachine.step database call).1 := by
  rcases hrun : storeMachine.step database call with ⟨after, error | result⟩
  · have hfailed : (storeMachine.step database call).2 = .error error := by rw [hrun]
    have hunchanged : (storeMachine.step database call).1 = database := atomically_error hfailed
    rw [hrun] at hunchanged
    exact hunchanged ▸ hsame
  · have hok := atomically_eq_ok_iff.mp hrun
    rw [hprogram, bind_eq_ok_iff] at hok
    obtain ⟨value, middle, hvalue, hpure⟩ := hok
    cases hpure
    exact hnext value _ hvalue

/-- Each call keeps the limit. -/
theorem held_step {limit : ℤ} (hids : (database.jobs.map (·.jobId)).Nodup)
    (hheld : (database.held.length : ℤ) ≤ limit) (call : CapacityCall) :
    ((storeMachine.step database (call.toCall limit)).1.held.length : ℤ) ≤ limit := by
  have hless : ∀ {next : Database}, (next.jobs.map (·.jobId)).Nodup →
      next.held ⊆ database.held → (next.held.length : ℤ) ≤ limit := by
    intro next hnodup hsubset
    have hnext : next.held.Nodup := (Database.nodup_jobIds hnodup).filter _
    have hlength := (List.subperm_of_subset hnext hsubset).length_le
    omega
  have hkept : ((storeMachine.step database (call.toCall limit)).1.jobs.map (·.jobId)).Nodup :=
    (keeps_program kept_jobIds (call.toCall limit)).atomically hids
  cases call with
  | create files job enforceUniqueTicket hwaiting =>
    refine hless hkept (step_of_program (P := fun next ↦ next.held ⊆ database.held) rfl
      (List.Subset.refl _) fun created next h ↦ held_create hwaiting h)
  | apply call hplain =>
    refine hless hkept (step_of_program (P := fun next ↦ next.held ⊆ database.held) rfl
      (List.Subset.refl _) fun result next h ↦ ?_)
    obtain ⟨-, ⟨-, rfl⟩ | ⟨-, -, -, rfl⟩ | ⟨-, current, hread, hdecision⟩⟩ := applyCommand_cases h
    · exact List.Subset.refl _
    · exact List.Subset.refl _
    · exact held_applyDecision hplain hread hdecision
  | update files jobId token command reservation rejectsMaintenance hplain =>
    refine hless hkept (step_of_program (P := fun next ↦ next.held ⊆ database.held) rfl
      (List.Subset.refl _) fun result next h ↦ held_updateJob hplain h)
  | claim =>
    refine step_of_program
      (P := fun next ↦ (next.jobs.map (·.jobId)).Nodup → (next.held.length : ℤ) ≤ limit) rfl
      (fun _ ↦ hheld) (fun granted next h hnodup ↦ ?_) hkept
    exact (grants_of_claim hids h).held_le hnodup hheld

/-- A limit that `claim_participant_capacity` accepts. -/
abbrev CapacityLimit := { limit : ℤ // 0 < limit }

/-- In every state of every run with one limit, at most that many jobs are held, a claim admits exactly
the oldest waiting jobs up to the free capacity and one that raises admits none, and every accepted
transition leaves the held state in one of the two ways and never leaves the released one. -/
theorem participant_capacity (limit : CapacityLimit) (calls : List CapacityCall) :
    let database := storeMachine.exec Database.empty (calls.map (CapacityCall.toCall limit))
    (database.held.length : ℤ) ≤ limit ∧
    (∀ next answer,
      storeMachine.step database (.claimParticipantCapacity limit) = (next, .ok answer) →
        database.Grants next limit answer.jobs) ∧
    (∀ next error,
      storeMachine.step database (.claimParticipantCapacity limit) = (next, .error error) →
        next = database) ∧
    ∀ before after, validateTransition before after = .ok () → before.AdmissionStep after := by
  intro database
  have hids : (database.jobs.map (·.jobId)).Nodup := kept_jobIds.exec List.nodup_nil _
  refine ⟨?_, fun next answer hstep ↦ ?_, fun next error hstep ↦ ?_,
    fun before after ↦ validateTransition_admission⟩
  · suffices hall : ∀ start : Database, (start.jobs.map (·.jobId)).Nodup →
        (start.held.length : ℤ) ≤ limit →
        ((storeMachine.exec start (calls.map (CapacityCall.toCall limit))).held.length : ℤ) ≤
          limit by
      have hempty : Database.empty.held.length = 0 := by simp [Database.held, Database.jobIds, Database.empty]
      have hpositive : 0 < (limit : ℤ) := limit.2
      refine hall Database.empty List.nodup_nil ?_
      omega
    clear hids database
    induction calls with
    | nil => exact fun start _ hheld ↦ hheld
    | cons call calls ih =>
      intro start hnodup hheld
      exact ih _ ((keeps_program kept_jobIds _).atomically hnodup)
        (held_step hnodup hheld call)
  · have hok := atomically_eq_ok_iff.mp hstep
    change (claimParticipantCapacity limit >>= fun granted ↦
      (pure { jobs := granted } : StoreProgram StoreAnswer)) database = _ at hok
    rw [bind_eq_ok_iff] at hok
    obtain ⟨granted, middle, hclaim, hanswer⟩ := hok
    cases hanswer
    exact grants_of_claim hids hclaim
  · have hfailed : (storeMachine.step database (.claimParticipantCapacity limit)).2 =
        .error error := by
      rw [hstep]
    have hsame : (storeMachine.step database (.claimParticipantCapacity limit)).1 = database :=
      atomically_error hfailed
    rw [hstep] at hsame
    exact hsame

end

end VoiceHarness
