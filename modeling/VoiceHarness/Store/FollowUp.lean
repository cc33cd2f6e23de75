import VoiceHarness.Store.Maintenance
import VoiceHarness.Job.Outcome

/-!
# Follow-ups

A follow-up reuses the checkout of a completed parent. Whether the parent can be followed is read from
its record, the one winner is decided by the rows of the reservations inside the transaction, and
`validate_transition` keeps the checkout of the child.
-/

set_option autoImplicit false
set_option relaxedAutoImplicit false

namespace VoiceHarness

open Library

/-- The arguments of a call of `create_follow_up`. -/
structure FollowUpCall where
  files : StoreFiles
  parentJobId : String
  build : AgentJob → Except StoreError AgentJob
  expectedParentRevision : ℤ
  expectedCompletedAt : Option Time
  shared : Bool

def FollowUpCall.toCall (call : FollowUpCall) : StoreCall :=
  .createFollowUp call.files call.parentJobId call.build call.expectedParentRevision
    call.expectedCompletedAt call.shared

def FollowUpCall.program [TextLibrary] (call : FollowUpCall) : StoreProgram AgentJob :=
  createFollowUp call.files call.parentJobId call.build call.expectedParentRevision
    call.expectedCompletedAt call.shared

/-- A call of a client while follow-ups are created. -/
inductive FollowUpStep
  | followUp (call : FollowUpCall)
  | apply (call : ApplyCall)

def FollowUpStep.toCall : FollowUpStep → StoreCall
  | followUp call => call.toCall
  | apply call => call.toCall

/-- The store where nothing is reserved. -/
def Database.unreserved (database : Database) : Database := { database with reservations := [] }

/-- The child has the checkout of the parent. -/
def AgentJob.SharesCheckout (parent child : AgentJob) : Prop :=
  ∀ field ∈ followUpFields, child.values.text field.1 = parent.values.text field.1

section

variable [TextLibrary] {database next : Database}

/-! ### A save in a store that reserves nothing -/

namespace Values

variable {values : Values} {rows : List ReservationRow}

omit [TextLibrary] in
/-- A save that the store would take were nothing reserved is refused for a reservation only. -/
theorem runs_or_reserved (h : values.Accepts rows database.unreserved) :
    values.Accepts rows database ∨
      (runStatements (values.saveStatements rows) database).2 =
        some (.integrity reservationConstraint) := by
  let named : Database :=
    { database with
      jobs := upsert JobRow.jobId database.jobs values.jobRow
      named := values.savedNamed database.named }
  let cleared : Database :=
    { named with
      reservations := discard ReservationEntry.jobId database.reservations values.jobId }
  rcases hrun : runStatements (rows.map (insertReservation values.jobId)) cleared with
    ⟨middle, _ | error⟩
  · have hinsert : Runs (rows.map (insertReservation values.jobId) ++ []) cleared middle := by
      rw [List.append_nil]
      exact hrun
    exact .inl { h with free := (runs_insertReservations.mp hinsert).1.2 }
  · right
    have herror : error = .integrity reservationConstraint := by
      refine runStatements_error (Q := (· = .integrity reservationConstraint)) ?_ hrun
      intro statement hmem state raised hraised
      obtain ⟨row, -, rfl⟩ := List.mem_map.mp hmem
      have hviolated := guarded_eq_error_iff.mp hraised
      simp only [firstViolation, List.find?_cons, List.find?_nil] at hviolated
      split at hviolated <;> cases hviolated
      rfl
    have hnamed : Runs (values.saveJobCore :: (values.namedStatements ++ [])) database named :=
      runs_namedStatements.mpr ⟨⟨h.core, h.fields, h.tables⟩, runs_nil.mpr rfl⟩
    rw [List.append_nil] at hnamed
    have hdelete : deleteReservations values.jobId named = .ok cleared :=
      guarded_eq_ok_iff.mpr ⟨rfl, rfl⟩
    rw [saveStatements, List.append_assoc, List.singleton_append, ← List.cons_append,
      runStatements_append_ok hnamed, claimStatements, List.append_assoc, List.singleton_append,
      runStatements_cons_ok hdelete, runStatements_append_error hrun, herror]

omit [TextLibrary] in
/-- A save reads the reservations of the store for the free resources only. -/
theorem accepts_unreserved (h : values.Accepts rows database) :
    values.Accepts rows database.unreserved := by
  refine { h with free := fun _ _ entry hentry ↦ ?_ }
  exact absurd (mem_discard.mp hentry).1 List.not_mem_nil

/-! ### The checkout of a canonical record -/

/-- A record that has a branch keeps its checkout where it is canonicalised. -/
theorem text_canonicalise {canonical : Values} (h : values.canonicalise = .ok canonical)
    (hbranch : (values.text .worktreeBranch).isSome) :
    ∀ field ∈ followUpFields, canonical.text field.1 = values.text field.1 := by
  intro field hfield
  by_cases hcanonical : Field.text field.1 ∈ canonicalFields
  · have hname : field.1 = .worktreeBranch := by
      revert hcanonical
      revert field
      decide
    rw [hname]
    unfold canonicalise at h
    simp only [checked_bind_eq_ok_iff] at h
    obtain ⟨announced, hannounced, reviewed, hreviewed, issue, hissue, branch, hplanned, h⟩ := h
    cases h
    have hissued : issue.text .worktreeBranch = values.text .worktreeBranch := by
      unfold text
      rw [get_of_agreeOff (agreeOff_canonicalizeGithubIssueCreationIdentity hissue) (by decide),
        get_of_agreeOff (agreeOff_canonicalizeReviewApproval hreviewed) (by decide),
        get_of_agreeOff (agreeOff_canonicalizeAnnouncementDismissal hannounced) (by decide),
        get_of_agreeOff agreeOff_currentDefaults (by decide),
        get_of_agreeOff agreeOff_sessionDefaults (by decide)]
    have hkept : branch.text .worktreeBranch = issue.text .worktreeBranch := by
      unfold canonicalizePullRequestBranch at hplanned
      extract_lets stored planned written at hplanned
      have hsome : planned.isSome = true := by
        unfold planned
        rw [hissued]
        exact hbranch
      have hwritten : written = issue := by
        unfold written
        rw [if_neg]
        simp [Option.isNone_iff_eq_none, Option.isSome_iff_ne_none.mp hsome]
      split_ifs at hplanned
      cases hplanned
      unfold text get
      rw [popAll_of_notMem _ (by decide), hwritten]
    rw [← hissued, ← hkept]
    unfold text
    rw [get_of_agreeOff agreeOff_collectionDefaults (by decide),
      get_of_agreeOff agreeOff_promptOperationDefaults (by decide)]
    unfold get
    rw [set_of_ne _ _ (by decide)]
  · exact get_of_agreeOff (agreeOff_canonicalise h) hcanonical

end Values

/-! ### The checkout of a job -/

namespace AgentJob

variable {job other third : AgentJob}

omit [TextLibrary] in
theorem SharesCheckout.refl (job : AgentJob) : job.SharesCheckout job := fun _ _ ↦ rfl

omit [TextLibrary] in
theorem SharesCheckout.trans (h : job.SharesCheckout other) (hthird : other.SharesCheckout third) :
    job.SharesCheckout third :=
  fun field hfield ↦ (hthird field hfield).trans (h field hfield)

omit [TextLibrary] in
theorem sharesCheckout_of_cells (h : other.values.cells = job.values.cells) :
    job.SharesCheckout other := by
  intro field _
  unfold Values.text Values.get
  rw [h]

omit [TextLibrary] in
/-- An accepted transition keeps the parent of a job, and the checkout of a child. -/
theorem sharesCheckout_of_validateTransition (h : validateTransition job other = .ok ()) :
    other.values.text .parentJobId = job.values.text .parentJobId ∧
      ((job.values.text .parentJobId).isSome → job.SharesCheckout other) := by
  obtain ⟨old, new, haccepted⟩ := validateTransition_accepted h
  have hparent : other.values.text .parentJobId = job.values.text .parentJobId := by
    have hguard := haccepted.identity
      (_, "Cursor job transition cannot change parent_job_id")
      (List.mem_cons_of_mem _ (List.mem_cons_of_mem _ List.mem_cons_self))
    rw [decide_eq_false_iff_not, not_not] at hguard
    exact hguard.symm
  refine ⟨hparent, fun hchild field hfield ↦ ?_⟩
  have hguard := haccepted.terminal
    ((other.values.text .parentJobId).isSome && job.values.text field.1 ≠ other.values.text field.1,
      s!"follow-up child cannot change inherited {field.2}")
    (List.mem_append_left _ (List.mem_append_right _ (List.mem_map.mpr ⟨field, hfield, rfl⟩)))
  simp only [hparent, hchild, Bool.true_and, decide_eq_false_iff_not, ne_eq, not_not] at hguard
  exact hguard.symm

omit [TextLibrary] in
/-- A child keeps its parent and its checkout over every run of accepted transitions. -/
theorem sharesCheckout_of_isRun {run : List AgentJob} (hrun : IsRun (job :: run))
    (hchild : (job.values.text .parentJobId).isSome) :
    ∀ later ∈ run, later.values.text .parentJobId = job.values.text .parentJobId ∧
      job.SharesCheckout later := by
  induction run generalizing job with
  | nil => exact fun _ h ↦ absurd h List.not_mem_nil
  | cons next run ih =>
    rw [IsRun, List.isChain_cons_cons] at hrun
    obtain ⟨hparent, hshares⟩ := sharesCheckout_of_validateTransition hrun.1
    refine List.forall_mem_cons.mpr ⟨⟨hparent, hshares hchild⟩, fun later hlater ↦ ?_⟩
    obtain ⟨hsame, hlaterShares⟩ := ih hrun.2 (hparent ▸ hchild) later hlater
    exact ⟨hsame.trans hparent, (hshares hchild).trans hlaterShares⟩

omit [TextLibrary] in
/-- A durable record differs in the owner of a release, the schema and the fields of an import. -/
theorem text_durableRecord {field : TextField} (hfield : field ∉
    [TextField.targetReleaseOwnerBootId, .targetReleaseOwnerStart]) :
    job.durableRecord.text field = job.values.text field := by
  have howner : Field.text field ∉ [Field.int .targetReleaseOwnerPid,
      .text .targetReleaseOwnerBootId, .text .targetReleaseOwnerStart] := by
    simpa using hfield
  unfold durableRecord Values.text Values.get
  rw [Values.set_of_ne _ _ (by simp)]
  refine (congrArg Cell.get? (Values.popAll_of_notMem _ (by simp))).trans ?_
  split_ifs
  · rw [Values.update_of_notMem _ howner]
  · rfl

/-- A job that is written keeps each text that no canonical form writes. -/
theorem text_normalizeForDurableWrite (h : job.normalizeForDurableWrite = .ok other)
    {field : TextField} (hfield : Field.text field ∉ Values.canonicalFields)
    (howner : field ∉ [TextField.targetReleaseOwnerBootId, .targetReleaseOwnerStart]) :
    other.values.text field = job.values.text field := by
  unfold normalizeForDurableWrite at h
  split_ifs at h
  obtain ⟨normalized, hnormalized, heq⟩ := checked_bind_eq_ok_iff.mp h
  cases heq
  obtain ⟨canonical, hcanonical, hvalues⟩ := fromDict_ok hnormalized
  exact (congrArg (Values.text · field) hvalues).trans
    ((Values.get_of_agreeOff (Values.agreeOff_canonicalise hcanonical) hfield).trans
      (text_durableRecord howner))

/-- A job that is written keeps its id, its parent and its checkout. -/
theorem sharesCheckout_normalizeForDurableWrite
    (h : job.normalizeForDurableWrite = .ok other)
    (hbranch : (job.values.text .worktreeBranch).isSome) :
    other.id = job.id ∧ other.values.text .parentJobId = job.values.text .parentJobId ∧
      job.SharesCheckout other := by
  have hid : other.id = job.id := by
    unfold AgentJob.id Values.jobId Values.textOrEmpty
    rw [text_normalizeForDurableWrite h (by decide) (by decide)]
  have hparent : other.values.text .parentJobId = job.values.text .parentJobId :=
    text_normalizeForDurableWrite h (by decide) (by decide)
  refine ⟨hid, hparent, fun field hfield ↦ ?_⟩
  unfold normalizeForDurableWrite at h
  split_ifs at h
  obtain ⟨normalized, hnormalized, heq⟩ := checked_bind_eq_ok_iff.mp h
  cases heq
  obtain ⟨canonical, hcanonical, hvalues⟩ := fromDict_ok hnormalized
  have howner : ∀ name ∈ followUpFields,
      name.1 ∉ [TextField.targetReleaseOwnerBootId, .targetReleaseOwnerStart] := by decide
  have hsome : (job.durableRecord.text .worktreeBranch).isSome := by
    rw [text_durableRecord (by decide)]
    exact hbranch
  rw [hvalues, Values.text_canonicalise hcanonical hsome field hfield]
  exact text_durableRecord (howner field hfield)

end AgentJob

/-! ### The listed jobs -/

omit [TextLibrary] in
theorem Database.SameRows.mem_jobIds_iff {jobId : String} (h : database.SameRows next jobId) :
    jobId ∈ next.jobIds ↔ jobId ∈ database.jobIds := by
  have hfilter : ∀ state : Database, jobId ∈ state.jobIds ↔
      state.jobs.filter (·.jobId = jobId) ≠ [] := by
    intro state
    rw [mem_jobIds, ne_eq, List.filter_eq_nil_iff]
    simp
  rw [hfilter, hfilter, h.jobs]

/-- A job is listed as before where its rows are as before. -/
theorem Database.SameRows.lists {job : AgentJob} (h : database.SameRows next job.id)
    (hjob : database.Lists job) : next.Lists job := by
  obtain ⟨hread, -⟩ := getJob_eq_ok_iff.mp hjob.2
  refine ⟨h.mem_jobIds_iff.mpr hjob.1, getJob_eq_ok_iff.mpr ⟨?_, rfl⟩⟩
  rw [h.loadJob_eq]
  exact hread

/-- A saved job is listed. -/
theorem Database.lists_saved {job : AgentJob} (hjob : job.Durable)
    (haccepts : job.values.Accepts job.values.reservationRows database) :
    ∃ read, (job.values.saved job.values.reservationRows database).Lists read ∧ read.id = job.id ∧
      read.values.cells = job.values.cells := by
  obtain ⟨stored, hid, hcells, hstores⟩ := Database.stores_saved hjob haccepts
  obtain ⟨read, hread, hvalues⟩ := hstores.getJob_eq
  have hname : read.id = stored.id := id_of_getJob hread
  refine ⟨read, ⟨?_, hname ▸ hread⟩, hname.trans hid, by rw [hvalues, hcells]⟩
  rw [hname, hid]
  exact mem_jobIds.mpr ⟨job.values.jobRow, mem_upsert.mpr (.inl rfl), rfl⟩

/-- Two listed jobs that reserve one checkout are one job. -/
theorem Database.Consistent.worktree_unique (h : database.Consistent) {first second : AgentJob}
    (hfirst : database.Lists first) (hsecond : database.Lists second) {path : String}
    (hpath : path ≠ "") (hfirstPath : first.values.text .worktreePath = some path)
    (hsecondPath : second.values.text .worktreePath = some path)
    (hfirstReserves : first.values.reservesResources = true)
    (hsecondReserves : second.values.reservesResources = true) : first.id = second.id := by
  have hentry : ∀ job, database.Lists job → job.values.text .worktreePath = some path →
      job.values.reservesResources = true →
      ∃ entry ∈ database.reservations, entry.jobId = job.id ∧
        entry.resource = (ReservationKind.worktree, path) := by
    intro job hjob hjobPath hreserves
    have hreserved : path ∈ job.values.reservedWorktrees := by
      simp [Values.reservedWorktrees, Values.hasText, Values.textOrEmpty, hjobPath, truthy, hpath]
    have hmem := (job.values.worktree_mem_reservedResources).mpr ⟨hreserves, hreserved⟩
    obtain ⟨row, hrow, hresource⟩ := List.mem_map.mp hmem
    have hheld : Values.reservationEntry job.id row ∈
        database.reservations.filter (·.jobId = job.id) := by
      rw [h.rows_of_lists hjob]
      exact List.mem_map_of_mem hrow
    obtain ⟨hentry, -⟩ := List.mem_filter.mp hheld
    exact ⟨_, hentry, rfl, hresource⟩
  obtain ⟨entry, hmem, hid, hresource⟩ := hentry first hfirst hfirstPath hfirstReserves
  obtain ⟨other, hother, hotherId, hotherResource⟩ :=
    hentry second hsecond hsecondPath hsecondReserves
  have hsame : entry = other :=
    List.inj_on_of_nodup_map h.exclusive hmem hother (hresource.trans hotherResource.symm)
  exact hid.symm.trans ((congrArg ReservationEntry.jobId hsame).trans hotherId)

/-! ### A call of `create_follow_up` -/

/-- What a call of `create_follow_up` finds before it saves the candidate. -/
structure FollowUpCall.Follows (call : FollowUpCall) (database : Database)
    (parent child candidate : AgentJob) : Prop where
  unleased : database.maintenance = none
  read : getJob call.parentJobId database = .ok parent database
  source : firstViolation
    (followUpViolations parent call.expectedCompletedAt call.shared) = none
  built : call.build parent = .ok child
  event : validateFollowUpEvent parent child call.expectedParentRevision
    call.expectedCompletedAt = .ok ()
  inherits : firstViolation (inheritanceViolations parent child) = none
  fresh : ∃ name, database.loadJob child.id = .error (.missing name)
  quarantine : call.files.validateQuarantineReservation .worktree child = .ok ()
  normalized : child.normalizeForDurableWrite = .ok candidate

omit [TextLibrary] in
theorem bind_requireAbsent_iff {jobId : String} {β : Type} {rest : PUnit → StoreProgram β}
    {result : β} : (requireAbsent jobId >>= rest) database = .ok result next ↔
      (∃ name, database.loadJob jobId = .error (.missing name)) ∧
        rest ⟨⟩ database = .ok result next := by
  rw [bind_apply, requireAbsent, bind_apply, get_apply]
  dsimp only
  rcases hload : database.loadJob jobId with error | raw
  · cases error <;> simp
  · simp

omit [TextLibrary] in
theorem refuse_eq_ok_iff {violations : List (Bool × StoreError)} {result : PUnit} :
    refuse violations database = .ok result next ↔
      firstViolation violations = none ∧ next = database := by
  unfold refuse
  rcases firstViolation violations with _ | error
  · simp [eq_comm]
  · simp

omit [TextLibrary] in
theorem rejectMaintenance_of_unleased {message : String} (h : database.maintenance = none) :
    rejectMaintenance message database = .ok ⟨⟩ database := by
  unfold rejectMaintenance
  rw [bind_of_ok (get_apply database)]
  exact refuse_eq_ok_iff.mpr ⟨by simp [firstViolation, h], rfl⟩

omit [TextLibrary] in
/-- Each refusal of a parent says that it is unavailable. -/
theorem followUp_of_violation {parent : AgentJob} {expectedCompletedAt : Option Time} {shared : Bool}
    {error : StoreError}
    (h : firstViolation (followUpViolations parent expectedCompletedAt shared) = some error) :
    ∃ message, error = .followUp message := by
  unfold firstViolation at h
  obtain ⟨violation, hfound, rfl⟩ := Option.map_eq_some_iff.mp h
  have hmem := List.mem_of_find?_eq_some hfound
  unfold followUpViolations at hmem
  simp only [List.mem_cons, List.not_mem_nil, or_false] at hmem
  rcases hmem with rfl | rfl | rfl | rfl | rfl | rfl <;> exact ⟨_, rfl⟩

namespace FollowUpCall

variable {call : FollowUpCall} {parent child candidate saved : AgentJob}

/-- A call that answers saved its candidate. -/
theorem follows_of_program (h : call.program database = .ok saved next) :
    ∃ parent child, call.Follows database parent child saved ∧
      saveJob saved database = .ok saved next := by
  unfold program createFollowUp rejectMaintenance at h
  rw [bind_assoc, bind_get_iff, bind_refuse_iff, bind_eq_ok_iff] at h
  obtain ⟨hlease, parent, middle, hparent, h⟩ := h
  rw [raisingAs_eq_ok_iff] at hparent
  obtain ⟨-, rfl⟩ := getJob_eq_ok_iff.mp hparent
  rw [bind_refuse_iff, bind_valueOrRaise_iff] at h
  obtain ⟨hsource, child, hbuilt, h⟩ := h
  rw [bind_checked_iff] at h
  obtain ⟨⟨⟩, hevent, h⟩ := h
  rw [bind_refuse_iff, bind_requireAbsent_iff, raisingAs_eq_ok_iff, saveFollowUp,
    bind_checked_iff] at h
  obtain ⟨hinherits, hfresh, ⟨⟩, hquarantine, h⟩ := h
  rw [bind_checked_iff] at h
  obtain ⟨candidate, hnormalized, h⟩ := h
  obtain ⟨rfl, -⟩ := saveJob_eq_ok_iff.mp h
  have hnone : middle.maintenance = none := by simpa [firstViolation] using hlease
  exact ⟨parent, child, ⟨hnone, hparent, hsource, hbuilt, hevent, hinherits, hfresh, hquarantine,
    hnormalized⟩, h⟩

/-- A call that comes to its save raises what the save raises, or that the checkout is taken. -/
theorem Follows.program_eq (h : call.Follows database parent child candidate) :
    call.program database =
      raisingAs (checkoutTaken parent) (saveJob candidate) database := by
  obtain ⟨name, hfresh⟩ := h.fresh
  have hlease : rejectMaintenance "Cursor follow-ups are temporarily unavailable during job deletion"
      database = .ok ⟨⟩ database := rejectMaintenance_of_unleased h.unleased
  have habsent : requireAbsent child.id database = .ok ⟨⟩ database := by
    unfold requireAbsent
    rw [bind_of_ok (get_apply database)]
    simp only [hfresh]
    rfl
  have hsave : saveFollowUp call.files child database = saveJob candidate database := by
    unfold saveFollowUp
    rw [bind_of_ok (checked_eq_ok_iff.mpr ⟨h.quarantine, rfl⟩),
      bind_of_ok (checked_eq_ok_iff.mpr ⟨h.normalized, rfl⟩)]
  have hsource : refuse (followUpViolations parent call.expectedCompletedAt call.shared) database =
      .ok ⟨⟩ database := refuse_eq_ok_iff.mpr ⟨h.source, rfl⟩
  have hinherits : refuse (inheritanceViolations parent child) database = .ok ⟨⟩ database :=
    refuse_eq_ok_iff.mpr ⟨h.inherits, rfl⟩
  unfold program createFollowUp
  rw [bind_of_ok hlease, bind_of_ok (raisingAs_eq_ok_iff.mpr h.read), bind_of_ok hsource,
    bind_of_ok (valueOrRaise_eq_ok_iff.mpr ⟨h.built, rfl⟩),
    bind_of_ok (checked_eq_ok_iff.mpr ⟨h.event, rfl⟩), bind_of_ok hinherits, bind_of_ok habsent]
  unfold raisingAs
  rw [hsave]

/-- What a call finds is no reservation. -/
theorem follows_unreserved_iff :
    call.Follows database.unreserved parent child candidate ↔
      call.Follows database parent child candidate := by
  have hread : getJob call.parentJobId database.unreserved = .ok parent database.unreserved ↔
      getJob call.parentJobId database = .ok parent database := by
    rw [getJob_eq_ok_iff, getJob_eq_ok_iff, eq_self_iff_true, eq_self_iff_true]
    exact Iff.rfl
  constructor
  · intro h
    exact { h with read := hread.mp h.read, unleased := h.unleased, fresh := h.fresh }
  · intro h
    exact { h with read := hread.mpr h.read, unleased := h.unleased, fresh := h.fresh }

/-- A call that would answer were nothing reserved answers, or raises that the checkout is taken. -/
theorem program_or_taken (h : call.program database.unreserved = .ok saved next) :
    (∃ after, call.program database = .ok saved after) ∨
      ∃ message after, call.program database = .error (.checkoutBusy message) after := by
  obtain ⟨parent, child, hfollows, hsave⟩ := follows_of_program h
  obtain ⟨-, haccepts, -⟩ := saveJob_eq_ok_iff.mp hsave
  rw [(follows_unreserved_iff.mp hfollows).program_eq]
  rcases Values.runs_or_reserved haccepts with hagain | hreserved
  · have hsaved := saveJob_eq_ok_iff.mpr ⟨rfl, hagain, rfl⟩
    exact .inl ⟨_, raisingAs_eq_ok_iff.mpr hsaved⟩
  · right
    have hraised : saveJob saved database = .error
        (.validation "resource is reserved by both this job and another Cursor job")
        (runStatements (saved.values.saveStatements saved.values.reservationRows) database).1 := by
      unfold saveJob Database.save AgentJob.toDict
      simp only [hreserved, Option.map_some, if_true]
    have htaken : containsText "resource is reserved by both this job and another Cursor job"
        "reserved by both" = true := by decide
    unfold raisingAs
    rw [hraised]
    simp only [checkoutTaken, htaken, Bool.true_or, if_true]
    exact ⟨_, _, rfl⟩

/-- A call whose parent is not stored or not to be followed raises that it is unavailable. -/
theorem program_of_unavailable (hlease : database.maintenance = none)
    (h : (∃ name, database.loadJob call.parentJobId = .error (.missing name)) ∨
      ∃ parent, getJob call.parentJobId database = .ok parent database ∧
        firstViolation (followUpViolations parent call.expectedCompletedAt call.shared) ≠ none) :
    ∃ message after, call.program database = .error (.followUp message) after := by
  have hopen : rejectMaintenance "Cursor follow-ups are temporarily unavailable during job deletion"
      database = .ok ⟨⟩ database := rejectMaintenance_of_unleased hlease
  unfold program createFollowUp
  rw [bind_of_ok hopen]
  rcases h with ⟨name, hmissing⟩ | ⟨parent, hparent, hviolations⟩
  · have hread : getJob call.parentJobId database = .error (.missing name) database := by
      unfold getJob
      rw [bind_of_ok (get_apply database), hmissing]
      rfl
    have hraised : raisingAs (parentUnavailable call.parentJobId) (getJob call.parentJobId) database =
        .error (parentUnavailable call.parentJobId (.missing name)) database := by
      unfold raisingAs
      rw [hread]
    rw [bind_of_error hraised]
    exact ⟨_, _, rfl⟩
  · obtain ⟨error, herror⟩ := Option.ne_none_iff_exists'.mp hviolations
    obtain ⟨message, rfl⟩ := followUp_of_violation herror
    have hrefused : refuse (followUpViolations parent call.expectedCompletedAt call.shared)
        database = .error (.followUp message) database := by
      unfold refuse
      rw [herror]
      rfl
    rw [bind_of_ok (raisingAs_eq_ok_iff.mpr hparent), bind_of_error hrefused]
    exact ⟨_, _, rfl⟩

end FollowUpCall

/-! ### One step -/

/-- What a read finds depends on the rows of the job only. -/
theorem Database.SameRows.getJob_eq_ok_iff {jobId : String} {job : AgentJob}
    (h : database.SameRows next jobId) :
    getJob jobId next = .ok job next ↔ getJob jobId database = .ok job database := by
  rw [VoiceHarness.getJob_eq_ok_iff, VoiceHarness.getJob_eq_ok_iff, h.loadJob_eq,
    eq_self_iff_true, eq_self_iff_true]

/-- The call creates a child of the parent: the parent is read after it as before, the child is new,
refers to the parent and has its checkout, and the rows of every other job are kept. -/
structure CreatesChild (before after : Database) (call : FollowUpCall) (parent child : AgentJob) :
    Prop where
  read : getJob call.parentJobId before = .ok parent before
  completed : parent.values.status = .completed
  unchanged : getJob call.parentJobId after = .ok parent after
  fresh : ∃ name, before.loadJob child.id = .error (.missing name)
  listed : after.Lists child
  reference : child.values.text .parentJobId = some parent.id
  checkout : parent.SharesCheckout child
  others : ∀ other, other ≠ child.id → before.SameRows after other

omit [TextLibrary] in
/-- A parent that is not refused is completed and has a whole checkout. -/
theorem completed_of_source {parent : AgentJob} {expectedCompletedAt : Option Time} {shared : Bool}
    (h : firstViolation (followUpViolations parent expectedCompletedAt shared) = none) :
    parent.values.status = .completed ∧
      ∀ field ∈ followUpFields, parent.values.hasText field.1 = true := by
  have hviolations := firstViolation_eq_none_iff.mp h
  unfold followUpViolations at hviolations
  simp only [List.forall_mem_cons] at hviolations
  obtain ⟨hstatus, -, hfields, -⟩ := hviolations
  constructor
  · simpa using hstatus
  · simpa only [Bool.not_eq_false', List.all_eq_true] using hfields

omit [TextLibrary] in
/-- A child that is not refused refers to the parent and has its checkout. -/
theorem inherits_of_violations {parent child : AgentJob}
    (h : firstViolation (inheritanceViolations parent child) = none) :
    child.values.text .parentJobId = some parent.id ∧ parent.SharesCheckout child := by
  have hviolations := firstViolation_eq_none_iff.mp h
  unfold inheritanceViolations at hviolations
  simp only [List.forall_mem_append, List.forall_mem_cons, List.forall_mem_map] at hviolations
  obtain ⟨⟨hreference, -⟩, hfields⟩ := hviolations
  constructor
  · simpa using hreference
  · intro field hfield
    simpa using hfields field hfield

/-- A call of `create_follow_up` that answers creates a child. -/
theorem createsChild_of_program {call : FollowUpCall} {saved : AgentJob}
    (h : call.program database = .ok saved next) :
    ∃ parent child, CreatesChild database next call parent child ∧
      child.values.cells = saved.values.cells := by
  obtain ⟨parent, built, hfollows, hsave⟩ := FollowUpCall.follows_of_program h
  obtain ⟨-, haccepts, rfl⟩ := saveJob_eq_ok_iff.mp hsave
  obtain ⟨hcompleted, hcheckout⟩ := completed_of_source hfollows.source
  obtain ⟨hreference, hinherits⟩ := inherits_of_violations hfollows.inherits
  have hbranch : (built.values.text .worktreeBranch).isSome := by
    have htext := hcheckout (.worktreeBranch, "worktree_branch") (by decide)
    rw [hinherits (.worktreeBranch, "worktree_branch") (by decide)]
    unfold Values.hasText at htext
    revert htext
    cases parent.values.text .worktreeBranch <;> simp [truthy]
  obtain ⟨hsame, hparent, hshares⟩ :=
    AgentJob.sharesCheckout_normalizeForDurableWrite hfollows.normalized hbranch
  obtain ⟨child, hlists, hid, hcells⟩ := Database.lists_saved
    (AgentJob.durable_normalizeForDurableWrite hfollows.normalized) haccepts
  obtain ⟨name, hfresh⟩ := hfollows.fresh
  have hothers : ∀ other, other ≠ child.id → database.SameRows
      (saved.values.saved saved.values.reservationRows database) other :=
    fun other hother ↦ Values.sameRows_saved (fun heq ↦ hother (heq.trans hid.symm)) haccepts
  have hne : call.parentJobId ≠ child.id := by
    intro heq
    obtain ⟨⟨raw, hload, -⟩, -⟩ := getJob_eq_ok_iff.mp hfollows.read
    rw [heq, hid, hsame, hfresh] at hload
    cases hload
  refine ⟨parent, child, ⟨hfollows.read, hcompleted,
    (hothers _ hne).getJob_eq_ok_iff.mpr hfollows.read, ⟨name, ?_⟩, hlists, ?_, ?_, hothers⟩, hcells⟩
  · rw [hid, hsame]
    exact hfresh
  · have hread : child.values.text .parentJobId = saved.values.text .parentJobId := by
      unfold Values.text Values.get
      rw [hcells]
    rw [hread, hparent, hreference]
  · exact (hinherits.trans hshares).trans (AgentJob.sharesCheckout_of_cells hcells)

/-- A step of the store makes the program of the call a transaction. -/
theorem followUp_step (call : FollowUpCall) {answer : StoreAnswer} :
    (storeMachine.step database call.toCall).2 = .ok answer ↔
      ∃ saved after, call.program database = .ok saved after ∧ answer = { jobs := [saved] } := by
  have hstep : storeMachine.step database call.toCall =
      atomically (call.program >>= fun saved ↦
        (pure { jobs := [saved] } : StoreProgram StoreAnswer)) database := rfl
  rw [hstep, atomically, bind_apply]
  rcases call.program database with ⟨saved, after⟩ | ⟨error, after⟩
  · simp [eq_comm]
  · simp

/-- So does a step that raises. -/
theorem followUp_step_error (call : FollowUpCall) {error : StoreError}
    (h : ∃ after, call.program database = .error error after) :
    (storeMachine.step database call.toCall).2 = .error error := by
  obtain ⟨after, hraised⟩ := h
  have hstep : storeMachine.step database call.toCall =
      atomically (call.program >>= fun saved ↦
        (pure { jobs := [saved] } : StoreProgram StoreAnswer)) database := rfl
  rw [hstep, atomically, bind_of_error hraised]

/-- The step of a call that answers leaves what its program left. -/
theorem followUp_step_state (call : FollowUpCall) {saved : AgentJob}
    (h : call.program database = .ok saved next) :
    (storeMachine.step database call.toCall).1 = next := by
  have hstep : storeMachine.step database call.toCall =
      atomically (call.program >>= fun saved ↦
        (pure { jobs := [saved] } : StoreProgram StoreAnswer)) database := rfl
  rw [hstep, atomically, bind_of_ok h]
  rfl

/-- The child is read from the store as a job with the same parent and the same checkout. -/
def Database.KeepsChild (database : Database) (child : AgentJob) : Prop :=
  ∃ later, getJob child.id database = .ok later database ∧
    later.values.text .parentJobId = child.values.text .parentJobId ∧ child.SharesCheckout later

/-- A step keeps a child. -/
theorem keepsChild_step (hconsistent : database.Consistent) {child : AgentJob}
    (hchild : (child.values.text .parentJobId).isSome) (h : database.KeepsChild child)
    (step : FollowUpStep) : (storeMachine.step database step.toCall).1.KeepsChild child := by
  obtain ⟨later, hread, hparent, hshares⟩ := h
  cases step with
  | followUp call =>
    rcases hanswer : (storeMachine.step database call.toCall).2 with error | answer
    · have hsame : (storeMachine.step database call.toCall).1 = database := atomically_error hanswer
      refine ⟨later, ?_, hparent, hshares⟩
      change getJob child.id (storeMachine.step database call.toCall).1 =
        .ok later (storeMachine.step database call.toCall).1
      rw [hsame]
      exact hread
    · obtain ⟨saved, after, hprogram, -⟩ := (followUp_step call).mp hanswer
      obtain ⟨parent, created, hcreates, -⟩ := createsChild_of_program hprogram
      obtain ⟨name, hfresh⟩ := hcreates.fresh
      have hne : child.id ≠ created.id := by
        intro heq
        obtain ⟨⟨raw, hload, -⟩, -⟩ := getJob_eq_ok_iff.mp hread
        rw [heq, hfresh] at hload
        cases hload
      refine ⟨later, ?_, hparent, hshares⟩
      change getJob child.id (storeMachine.step database call.toCall).1 =
        .ok later (storeMachine.step database call.toCall).1
      rw [followUp_step_state call hprogram]
      exact (hcreates.others _ hne).getJob_eq_ok_iff.mpr hread
  | apply call =>
    change (storeMachine.step database call.toCall).1.KeepsChild child
    rcases applyCall_cases hconsistent call with ⟨current, decision, candidate, hcommits⟩ | hsame
    · by_cases hother : child.id = candidate.id
      · have hcurrent : current = later := by
          have hagain := hcommits.read
          rw [← hcommits.job, ← hother, hread] at hagain
          cases hagain
          rfl
        subst hcurrent
        obtain ⟨hnext, hnextShares⟩ :=
          AgentJob.sharesCheckout_of_validateTransition hcommits.transition
        obtain ⟨read, hstored, hcells, -⟩ := hcommits.stored
        have hreadParent : read.values.text .parentJobId = candidate.values.text .parentJobId := by
          unfold Values.text Values.get
          rw [hcells]
        refine ⟨read, hother ▸ hstored, ?_, ?_⟩
        · rw [hreadParent, hnext, hparent]
        · exact (hshares.trans (hnextShares (hparent ▸ hchild))).trans
            (AgentJob.sharesCheckout_of_cells hcells)
      · exact ⟨later, (hcommits.others _ hother).getJob_eq_ok_iff.mpr hread, hparent, hshares⟩
    · rw [hsame]
      exact ⟨later, hread, hparent, hshares⟩

theorem keepsChild_exec (hconsistent : database.Consistent) {child : AgentJob}
    (hchild : (child.values.text .parentJobId).isSome) (h : database.KeepsChild child)
    (steps : List FollowUpStep) :
    (storeMachine.exec database (steps.map FollowUpStep.toCall)).KeepsChild child := by
  induction steps generalizing database with
  | nil => exact h
  | cons step steps ih =>
    have hnext : (storeMachine.step database step.toCall).1.Consistent :=
      (keeps_program kept_consistent step.toCall).atomically hconsistent
    exact ih hnext (keepsChild_step hconsistent hchild h step)

/-! ### Follow-ups -/

/-- The parent of the call is not stored, or it is not to be followed. -/
def FollowUpCall.Unavailable (call : FollowUpCall) (database : Database) : Prop :=
  (∃ name, database.loadJob call.parentJobId = .error (.missing name)) ∨
    ∃ parent, getJob call.parentJobId database = .ok parent database ∧
      firstViolation (followUpViolations parent call.expectedCompletedAt call.shared) ≠ none

/-- What the store guarantees of follow-ups: one job at a time reserves a checkout; a call that
answers creates a child of a completed parent, which keeps the checkout while follow-ups and commands
take turns; a call that raises changes nothing; a call whose parent is unavailable says so, and one
that only the reservations of other jobs are in the way of says that the checkout is busy. -/
structure FollowUpProtocol (database : Database) : Prop where
  exclusive : ∀ first second path, database.Lists first → database.Lists second → path ≠ "" →
    first.values.text .worktreePath = some path → second.values.text .worktreePath = some path →
    first.values.reservesResources = true → second.values.reservesResources = true →
    first.id = second.id
  answered : ∀ call answer, (storeMachine.step database (FollowUpCall.toCall call)).2 = .ok answer →
    ∃ parent child, CreatesChild database (storeMachine.step database call.toCall).1 call parent child
  refused : ∀ call error, (storeMachine.step database (FollowUpCall.toCall call)).2 = .error error →
    (storeMachine.step database call.toCall).1 = database
  unavailable : ∀ call, FollowUpCall.Unavailable call database → ∃ message,
    (storeMachine.step database call.toCall).2 = .error (.followUp message)
  busy : ∀ call answer,
    (storeMachine.step database.unreserved (FollowUpCall.toCall call)).2 = .ok answer →
    (∃ saved, (storeMachine.step database call.toCall).2 = .ok saved) ∨
      ∃ message, (storeMachine.step database call.toCall).2 = .error (.checkoutBusy message)
  kept : ∀ child, getJob (AgentJob.id child) database = .ok child database →
    (child.values.text .parentJobId).isSome → ∀ steps : List FollowUpStep,
    (storeMachine.exec database (steps.map FollowUpStep.toCall)).KeepsChild child

/-- The maintenance lease is taken by no call of the store. -/
theorem kept_unleased : Kept fun database ↦ database.maintenance = none where
  save _ _ h := h
  delete _ := Keeps.modify fun _ h ↦ h
  record command decision := by
    intro database h result next hrun
    obtain ⟨-, outbox, -, rfl⟩ := recordTransition_eq_ok_iff.mp hrun
    exact ⟨h, trivial⟩

end

/-! ### A caller that lost to no child -/

section

attribute [local instance] asciiTextLibrary

/-- The record of a completed job with a checkout. -/
def followedRecord : Values :=
  let spec : NewAgentJob :=
    { id := "0123456789ab", request := "Fix the parser", createdAt := 0, foregroundUntil := 0
      harnessKind := .cursor, details := .empty }
  spec.record.update
    [.put (.jobStatus .status) (some .completed), .put (.text .result) (some "Done."),
      .put (.float .completedAt) (some 1), .put (.bool .delivered) (some true),
      .put (.text .repository) (some "/repositories/parser"),
      .put (.text .worktreeBranch) (some "voice/parser"),
      .put (.text .worktreePath) (some "/worktrees/parser"),
      .put (.operation .worktreeProvisionState) (some .ready),
      .put (.text .worktreeWorkspaceId) (some "workspace"),
      .put (.text .worktreeRootPaneId) (some "pane")]

/-- The record of its child. -/
def childRecord : Values :=
  let spec : NewAgentJob :=
    { id := "ba9876543210", request := "Test the parser", createdAt := 2, foregroundUntil := 2
      harnessKind := .cursor, details := .empty }
  spec.record.update
    [.put (.text .parentJobId) (some "0123456789ab"),
      .put (.text .repository) (some "/repositories/parser"),
      .put (.text .worktreeBranch) (some "voice/parser"),
      .put (.text .worktreePath) (some "/worktrees/parser"),
      .put (.operation .worktreeProvisionState) (some .ready),
      .put (.text .worktreeWorkspaceId) (some "workspace"),
      .put (.text .worktreeRootPaneId) (some "pane")]

/-- A call that expects another revision of the parent. -/
def staleCall (child : AgentJob) : FollowUpCall where
  files := openFiles
  parentJobId := "0123456789ab"
  build _ := .ok child
  expectedParentRevision := 1
  expectedCompletedAt := some 1
  shared := false

/-- What is asked of a parent depends on its id and on the cells of its record. -/
theorem parent_congr {parent other : AgentJob} (h : parent.values.cells = other.values.cells)
    (expectedCompletedAt : Option Time) (shared : Bool) :
    followUpViolations parent expectedCompletedAt shared =
        followUpViolations other expectedCompletedAt shared ∧
      ∀ child expectedParentRevision,
        validateFollowUpEvent parent child expectedParentRevision expectedCompletedAt =
          validateFollowUpEvent other child expectedParentRevision expectedCompletedAt := by
  obtain ⟨⟨cells, others, habsent⟩, event, hvalid⟩ := parent
  obtain ⟨⟨otherCells, otherOthers, hother⟩, otherEvent, hotherValid⟩ := other
  obtain rfl : cells = otherCells := h
  exact ⟨rfl, fun _ _ ↦ rfl⟩

end

end VoiceHarness
