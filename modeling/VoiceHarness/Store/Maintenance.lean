import VoiceHarness.Store.Commands

/-!
# Pruning and the deletion of all jobs

`prune` removes the jobs that were delivered long ago; a deletion of all jobs stages every job under
a lease (`begin_maintenance`) and removes them in a second transaction (`finalize_maintenance`). Both
ask `_must_retain` whether a fence of the job is still in the way, while the rows of a job follow
`_job_reserves_resources`. The two agree on every valid terminal job whose manual operation is not the
empty text.
-/

set_option autoImplicit false
set_option relaxedAutoImplicit false

namespace VoiceHarness

open Library

/-- What `finalize_maintenance` finds beside the database: records in a legacy directory, and the
names of unresolved quarantine evidence. -/
structure MaintenanceFiles where
  legacyRecords : Bool
  unresolved : List String

/-- Why a job cannot be deleted. -/
def AgentJob.deletionReasons (job : AgentJob) : List String :=
  (if job.values.status.isActive then [s!"status {job.values.status.value}"] else []) ++
  (if (job.values.text .workerToken).isSome || (job.values.int .workerPid).isSome ||
      (job.values.text .workerBootId).isSome || (job.values.text .workerProcessStart).isSome then
    ["worker ownership remains"] else []) ++
  if job.mustRetain then ["recovery or reservation fence remains"] else []

/-- What is in the way of deleting the jobs. -/
def deletionBlockers (files : MaintenanceFiles) (jobs : List AgentJob) : List String :=
  (if files.unresolved.isEmpty then []
    else ["quarantine evidence requires manual inspection: " ++
      ", ".intercalate files.unresolved]) ++
  (jobs.filter fun job ↦ !job.deletionReasons.isEmpty).map fun job ↦
    s!"{job.id}: " ++ ", ".intercalate job.deletionReasons

section Programs

variable [TextLibrary]

/-- One job of `begin_maintenance`. -/
def stageJob (stage : AgentJob → Except StoreError (Option AgentJob)) (current : AgentJob) :
    StoreProgram AgentJob := do
  match ← valueOrRaise (stage current) with
  | none => pure current
  | some staged =>
    let candidate ← checked staged.normalizeForDurableWrite
    checked (validateTransition current candidate)
    saveJob candidate

/-- The refusals of another lease and of unresolved evidence. -/
def leaseViolations (existing : Option String) (ownerAlive : String → Option Bool)
    (unresolved : List String) : List (Bool × StoreError) :=
  [(existing.any (ownerAlive · = some true),
      .maintenance "another Cursor job deletion is already in progress"),
    (existing.any (ownerAlive · = none), .maintenance
      ("an existing Cursor job deletion owner cannot be verified; " ++
        "retry after checking the recorded process")),
    (!unresolved.isEmpty, .maintenance
      ("Cursor jobs could not be deleted safely: quarantine evidence " ++
        "requires manual inspection: " ++ ", ".intercalate unresolved))]

/-- `begin_maintenance`; a lease is its token, and `ownerAlive` what is known of the process of an
existing one. -/
def beginMaintenance (token : String) (stage : AgentJob → Except StoreError (Option AgentJob))
    (ownerAlive : String → Option Bool) (unresolved : List String) :
    StoreProgram (List AgentJob) := do
  let database ← get
  refuse (leaseViolations database.maintenance ownerAlive unresolved)
  set { database with maintenance := some token }
  let jobs ← listJobs
  jobs.mapM (stageJob stage)

/-- The lease row is deleted where it has the token. -/
def Database.dropLease (database : Database) (token : String) : Database :=
  if database.maintenance = some token then { database with maintenance := none } else database

/-- `abort_maintenance`. -/
def abortMaintenance (token : String) : StoreProgram Bool := do
  let database ← get
  set (database.dropLease token)
  pure (decide (database.maintenance = some token))

/-- `finalize_maintenance`. -/
def finalizeMaintenance (files : MaintenanceFiles) (token : String) :
    StoreProgram (List String) := do
  refuse
    [((← get).maintenance ≠ some token,
        .maintenance "Cursor job deletion lease changed before finalization"),
      (files.legacyRecords, .maintenance
        ("Cursor jobs could not be deleted safely: legacy source " ++
          "records remain; run job recovery and retry"))]
  let jobs ← listJobs
  refuse [(!(deletionBlockers files jobs).isEmpty, .maintenance
    ("Cursor jobs could not be deleted safely: " ++
      "; ".intercalate (deletionBlockers files jobs)))]
  let removed := jobs.map (·.id)
  removed.forM deleteJob
  modify (·.dropLease token)
  pure removed

end Programs

/-- The calls of the store and of a deletion of all jobs. -/
inductive MaintenanceCall
  | store (call : StoreCall)
  | begin (token : String) (stage : AgentJob → Except StoreError (Option AgentJob))
      (ownerAlive : String → Option Bool) (unresolved : List String)
  | abort (token : String)
  | finalize (files : MaintenanceFiles) (token : String)

section

variable [TextLibrary]

/-- The program of a call. -/
def MaintenanceCall.program : MaintenanceCall → StoreProgram StoreAnswer
  | store call => call.program
  | begin token stage ownerAlive unresolved => do
    pure { jobs := ← beginMaintenance token stage ownerAlive unresolved }
  | abort token => do
    let _ ← abortMaintenance token
    pure {}
  | finalize files token => do pure { removed := ← finalizeMaintenance files token }

/-- The store under maintenance: each call is one transaction. -/
def maintenanceMachine : Machine Database MaintenanceCall (Except StoreError StoreAnswer) where
  step database call := atomically call.program database

variable {P : Database → Prop} {database next : Database}

/-! ### Every run keeps the store consistent -/

theorem keeps_stageJob (hP : Kept P) (stage : AgentJob → Except StoreError (Option AgentJob))
    (current : AgentJob) : Keeps P (stageJob stage current) fun _ ↦ True := by
  unfold stageJob
  refine (Keeps.valueOrRaise fun _ _ ↦ trivial).bind fun staged _ ↦ ?_
  cases staged with
  | none => exact Keeps.pure trivial
  | some staged =>
    refine (keeps_normalized staged).bind fun candidate hcandidate ↦ ?_
    refine (keeps_checked fun _ _ ↦ trivial).bind fun _ _ ↦ ?_
    exact (keeps_saveJob hP hcandidate).weaken fun _ _ ↦ trivial

theorem keeps_maintenance (hP : Kept P)
    (hlease : ∀ database lease, P database → P { database with maintenance := lease })
    (call : MaintenanceCall) : Keeps P call.program fun _ ↦ True := by
  have hdrop : ∀ token database, P database → P (database.dropLease token) := by
    intro token database h
    unfold Database.dropLease
    split_ifs
    · exact hlease database none h
    · exact h
  cases call with
  | store call => exact keeps_program hP call
  | begin token stage ownerAlive unresolved =>
    refine Keeps.bind (R := fun _ ↦ True) ?_ fun _ _ ↦ Keeps.pure trivial
    unfold beginMaintenance
    refine Keeps.get.bind fun database h ↦ (keeps_refuse _).bind fun _ _ ↦ ?_
    refine (Keeps.set (hlease database (some token) h)).bind fun _ _ ↦ ?_
    refine keeps_listJobs.bind fun jobs _ ↦ ?_
    exact (Keeps.mapM fun job _ ↦ keeps_stageJob hP stage job).weaken fun _ _ ↦ trivial
  | abort token =>
    refine Keeps.bind (R := fun _ ↦ True) ?_ fun _ _ ↦ Keeps.pure trivial
    unfold abortMaintenance
    refine Keeps.get.bind fun database h ↦ ?_
    exact (Keeps.set (hdrop token database h)).bind fun _ _ ↦ Keeps.pure trivial
  | finalize files token =>
    refine Keeps.bind (R := fun _ ↦ True) ?_ fun _ _ ↦ Keeps.pure trivial
    unfold finalizeMaintenance
    refine Keeps.get.bind fun database _ ↦ (keeps_refuse _).bind fun _ _ ↦ ?_
    refine keeps_listJobs.bind fun jobs _ ↦ (keeps_refuse _).bind fun _ _ ↦ ?_
    refine (Keeps.forM fun jobId _ ↦ hP.delete jobId).bind fun _ _ ↦ ?_
    exact (Keeps.modify (hdrop token)).bind fun _ _ ↦ Keeps.pure trivial

theorem consistent_maintenance (calls : List MaintenanceCall) :
    (maintenanceMachine.exec Database.empty calls).Consistent :=
  maintenanceMachine.invariant_exec
    (fun _ call h ↦ (keeps_maintenance kept_consistent
      (fun database lease hdatabase ↦ hdatabase.withEvents database.events lease) call).atomically h)
    Database.consistent_empty calls

/-! ### What a list of the jobs reads -/

omit [TextLibrary] in
theorem mem_jobIds {jobId : String} :
    jobId ∈ database.jobIds ↔ ∃ row ∈ database.jobs, row.jobId = jobId := by
  unfold Database.jobIds
  rw [(List.mergeSort_perm _ _).mem_iff, List.mem_map]

/-- The jobs that are listed are the stored ones, read one by one. -/
theorem listJobs_reads {jobs : List AgentJob} (h : listJobs database = .ok jobs next) :
    next = database ∧ jobs.map (·.id) = database.jobIds ∧
      ∀ job ∈ jobs, getJob job.id database = .ok job database := by
  unfold listJobs at h
  rw [bind_get_iff] at h
  obtain ⟨rfl, hreads⟩ := mapM_reads (fun _ _ _ _ hread ↦ (getJob_eq_ok_iff.mp hread).2) h
  refine ⟨rfl, ?_⟩
  clear h
  generalize next.jobIds = ids at hreads
  induction hreads with
  | nil => exact ⟨rfl, fun _ h ↦ absurd h List.not_mem_nil⟩
  | cons hjob _ ih =>
    have hid := id_of_getJob hjob
    rw [List.map_cons, ih.1, hid, List.forall_mem_cons, hid]
    exact ⟨rfl, hjob, ih.2⟩

/-! ### What a deletion removes -/

/-- The second store is the first one without some jobs. -/
structure Database.Removes (first second : Database) (jobIds : List String) : Prop where
  jobs : ∀ row, row ∈ second.jobs ↔ row ∈ first.jobs ∧ row.jobId ∉ jobIds
  reservations : ∀ entry ∈ second.reservations,
    entry ∈ first.reservations ∧ entry.jobId ∉ jobIds
  others : ∀ other, other ∉ jobIds → first.SameRows second other
  events : ∀ other, other ∉ jobIds →
    second.events.filter (·.jobId = other) = first.events.filter (·.jobId = other)
  outbox : ∀ other, other ∉ jobIds →
    second.outbox.rows.filter (·.jobId = other) = first.outbox.rows.filter (·.jobId = other)
  maintenance : second.maintenance = first.maintenance

omit [TextLibrary] in
theorem removes_deleteJob {jobId : String} {result : PUnit}
    (h : deleteJob jobId database = .ok result next) : database.Removes next [jobId] := by
  cases h
  have hne : ∀ {other : String}, other ∉ [jobId] → other ≠ jobId := by
    intro other hother
    simpa using hother
  constructor
  · intro row
    rw [List.mem_singleton]
    exact mem_discard
  · intro entry hentry
    rw [List.mem_singleton]
    exact mem_discard.mp hentry
  · intro other hother
    exact ⟨filter_discard_of_ne _ (hne hother), filter_discard_of_ne _ (hne hother),
      filter_discard_of_ne _ (hne hother), filter_discard_of_ne _ (hne hother),
      filter_discard_of_ne _ (hne hother), filter_discard_of_ne _ (hne hother)⟩
  · intro other hother
    exact filter_discard_of_ne _ (hne hother)
  · intro other hother
    change (database.outbox.rows.filter _).filter _ = _
    rw [List.filter_filter]
    refine List.filter_congr fun row _ ↦ ?_
    by_cases hrow : row.jobId = other
    · simp [hrow, hne hother]
    · simp [hrow]
  · rfl

omit [TextLibrary] in
theorem removes_refl (database : Database) : database.Removes database [] :=
  ⟨fun row ↦ by simp, fun entry h ↦ ⟨h, List.not_mem_nil⟩, fun _ _ ↦ .refl _ _, fun _ _ ↦ rfl,
    fun _ _ ↦ rfl, rfl⟩

omit [TextLibrary] in
theorem Database.Removes.trans {first second third : Database} {jobId : String}
    {jobIds : List String} (h : first.Removes second [jobId]) (hrest : second.Removes third jobIds) :
    first.Removes third (jobId :: jobIds) := by
  have hsplit : ∀ {other : String}, other ∉ jobId :: jobIds ↔ other ∉ [jobId] ∧ other ∉ jobIds := by
    intro other
    rw [List.mem_cons, not_or, List.mem_singleton]
  constructor
  · intro row
    rw [hrest.jobs, h.jobs, hsplit, and_assoc]
  · intro entry hentry
    obtain ⟨hsecond, hnot⟩ := hrest.reservations entry hentry
    obtain ⟨hfirst, hne⟩ := h.reservations entry hsecond
    exact ⟨hfirst, hsplit.mpr ⟨hne, hnot⟩⟩
  · intro other hother
    obtain ⟨hne, hnot⟩ := hsplit.mp hother
    exact (h.others other hne).trans (hrest.others other hnot)
  · intro other hother
    obtain ⟨hne, hnot⟩ := hsplit.mp hother
    exact (hrest.events other hnot).trans (h.events other hne)
  · intro other hother
    obtain ⟨hne, hnot⟩ := hsplit.mp hother
    exact (hrest.outbox other hnot).trans (h.outbox other hne)
  · exact hrest.maintenance.trans h.maintenance

omit [TextLibrary] in
theorem removes_deleteJobs {jobIds : List String} {result : PUnit}
    (h : jobIds.forM deleteJob database = .ok result next) : database.Removes next jobIds := by
  induction jobIds generalizing database with
  | nil =>
    cases h
    exact removes_refl _
  | cons jobId jobIds ih =>
    obtain ⟨middle, hfirst, h⟩ := forM_cons_eq_ok_iff.mp h
    exact (removes_deleteJob hfirst).trans (ih h)

/-! ### The fences of a job that is deleted -/

omit [TextLibrary] in
theorem CheckoutState.label_of_ofLabel {label : OperationLabel} {state : CheckoutState}
    (h : ofLabel? label = some state) : state.label = label := by
  cases label <;> cases h <;> rfl

omit [TextLibrary] in
/-- The state of a checkout is the one its field names. -/
theorem Values.operation_of_checkoutState {values : Values} {state : CheckoutState}
    (h : values.checkoutState? = some state) :
    values.operation .worktreeProvisionState = some state.label := by
  unfold checkoutState? at h
  rcases hread : values.checkoutOperation with message | operation
  · rw [hread] at h
    cases h
  · rw [hread] at h
    rcases operation with _ | operation
    · cases h
    · cases h
      unfold checkoutOperation at hread
      rcases hlabel : values.operation .worktreeProvisionState with _ | label
      · simp [hlabel] at hread
      · simp only [hlabel] at hread
        rcases hstate : CheckoutState.ofLabel? label with _ | parsed
        · simp [hstate] at hread
        · simp only [hstate] at hread
          obtain ⟨spec, -, hread⟩ := checked_bind_eq_ok_iff.mp hread
          obtain ⟨made, hmade, heq⟩ := checked_map_eq_ok_iff.mp hread
          cases heq
          unfold CheckoutOperation.make at hmade
          split_ifs at hmade
          cases hmade
          rw [CheckoutState.label_of_ofLabel hstate]

/-- A terminal job whose fences are all down. -/
structure AgentJob.Unfenced (job : AgentJob) : Prop where
  terminal : job.values.status.isTerminal = true
  uncertain : job.values.hasUncertainOperation = false
  slot : job.values.text .manualReconcileOperation = none
  noManual : ∀ operation, job.values.isManual operation = false
  release : job.values.bool .targetReleasePending = false
  cancellation : job.values.bool .cancellationReconciliationPending = false

omit [TextLibrary] in
/-- A valid job with no manual slot has no operation in its manual state, unless it is uncertain. -/
theorem AgentJob.isManual_eq_false {job : AgentJob}
    (huncertain : job.values.hasUncertainOperation = false)
    (hslot : job.values.text .manualReconcileOperation = none) (operation : ManualOperation) :
    job.values.isManual operation = false := by
  have hguard : ManualOperation.all.any (fun operation ↦
      job.values.operation operation.field = some .manualRequired) = false := by
    have hmem := job.invariant_guard (List.mem_append_right _ List.mem_cons_self)
    simpa [Values.textOrEmpty, hslot] using hmem
  rw [Bool.eq_false_iff]
  intro hmanual
  by_cases hprompt : operation = .prompt
  · subst hprompt
    have hstate : job.values.operation .promptOperationState = some .ambiguous :=
      of_decide_eq_true hmanual
    have hopen : job.values.isUncertain .promptOperationState = true := by
      simp [Values.isUncertain, hstate, Values.uncertainLabels]
    have := Values.hasUncertainOperation_of_isUncertain hopen
    rw [huncertain] at this
    cases this
  · have hlabel : operation.manualLabel = .manualRequired := by
      cases operation <;> first | rfl | exact absurd rfl hprompt
    refine Bool.eq_false_iff.mp hguard (List.any_eq_true.mpr ⟨operation, operation.mem_all, ?_⟩)
    rw [← hlabel]
    exact hmanual

omit [TextLibrary] in
/-- What `_must_retain` finds of a terminal job: without a fence it reserves nothing, unless its manual
operation is the empty text. -/
theorem AgentJob.unfenced_of_not_mustRetain {job : AgentJob}
    (hterminal : job.values.status.isTerminal = true) (hretain : job.mustRetain = false)
    (hmanual : job.values.text .manualReconcileOperation ≠ some "") :
    job.Unfenced ∧ job.values.reservesResources = false := by
  unfold mustRetain at hretain
  simp only [Bool.or_eq_false_iff] at hretain
  obtain ⟨⟨⟨⟨⟨⟨huncertain, hrelease⟩, hcancellation⟩, htext⟩, hinspection⟩, hcheckout⟩, hpull⟩ :=
    hretain
  have hslot : job.values.text .manualReconcileOperation = none := by
    rcases hoperation : job.values.text .manualReconcileOperation with _ | text
    · rfl
    · have hne : text ≠ "" := fun h ↦ hmanual (by rw [hoperation, h])
      simp [Values.hasText, hoperation, truthy, hne] at htext
  have hblocks : checkoutBlocksReservation job.values.checkoutState? = false := by
    rcases hstate : job.values.checkoutState? with _ | state
    · rfl
    · rw [Values.operation_of_checkoutState hstate] at hcheckout
      cases state <;> first | rfl | exact absurd hcheckout (by decide)
  refine ⟨⟨hterminal, huncertain, hslot, isManual_eq_false huncertain hslot, hrelease,
    hcancellation⟩, ?_⟩
  have hactive : job.values.status.isActive = false := by
    revert hterminal
    cases job.values.status <;> decide
  rw [Values.reservesResources, hactive, hrelease, hcancellation, huncertain, hslot, hinspection,
    hblocks, hpull]
  rfl

/-! ### What a successful deletion did -/

/-- The job is one of the jobs the store lists. -/
def Database.Lists (database : Database) (job : AgentJob) : Prop :=
  job.id ∈ database.jobIds ∧ getJob job.id database = .ok job database

/-- The jobs that are listed, in the order of their ids. -/
theorem mem_of_listJobs {jobs : List AgentJob} (h : listJobs database = .ok jobs next)
    {job : AgentJob} : job ∈ jobs ↔ database.Lists job := by
  obtain ⟨-, hids, hreads⟩ := listJobs_reads h
  constructor
  · intro hjob
    exact ⟨hids ▸ List.mem_map_of_mem hjob, hreads job hjob⟩
  · rintro ⟨hid, hread⟩
    rw [← hids] at hid
    obtain ⟨other, hother, hsame⟩ := List.mem_map.mp hid
    have hagain := hreads other hother
    rw [hsame, hread] at hagain
    cases hagain
    exact hother

/-- The reads of a consistent store raise nothing. -/
theorem Database.Consistent.listJobs_ok (h : database.Consistent) :
    ∃ jobs, listJobs database = .ok jobs database := by
  have hreads : ∀ jobId ∈ database.jobIds, ∃ job, getJob jobId database = .ok job database := by
    intro jobId hjobId
    obtain ⟨row, hrow, rfl⟩ := mem_jobIds.mp hjobId
    obtain ⟨job, hid, hstores⟩ := h.stored row hrow
    obtain ⟨read, hread, -⟩ := hstores.getJob_eq
    exact ⟨read, hid ▸ hread⟩
  unfold listJobs
  simp only [bind_get_iff]
  generalize database.jobIds = jobIds at hreads ⊢
  induction jobIds with
  | nil => exact ⟨[], rfl⟩
  | cons jobId jobIds ih =>
    obtain ⟨job, hjob⟩ := hreads jobId List.mem_cons_self
    obtain ⟨jobs, hjobs⟩ := ih fun other hother ↦ hreads other (List.mem_cons_of_mem _ hother)
    refine ⟨job :: jobs, ?_⟩
    rw [List.mapM_cons, bind_eq_ok_iff]
    refine ⟨job, database, hjob, ?_⟩
    rw [bind_eq_ok_iff]
    exact ⟨jobs, database, hjobs, rfl⟩

omit [TextLibrary] in
theorem deleteJobs_ok (jobIds : List String) (database : Database) :
    ∃ next, jobIds.forM deleteJob database = .ok ⟨⟩ next := by
  induction jobIds generalizing database with
  | nil => exact ⟨database, rfl⟩
  | cons jobId jobIds ih => exact ih _

/-- A job whose removal drops no fence: its fences are down, and no row is reserved for it. -/
structure Database.Frees (database : Database) (job : AgentJob) : Prop where
  unfenced : job.Unfenced
  unreserved : ∀ entry ∈ database.reservations, entry.jobId ≠ job.id

/-- The rows of a listed job are those of its record. -/
theorem Database.Consistent.rows_of_lists (h : database.Consistent) {job : AgentJob}
    (hjob : database.Lists job) :
    database.reservations.filter (·.jobId = job.id) =
      job.values.reservationRows.map (Values.reservationEntry job.id) := by
  obtain ⟨row, hrow, hrowId⟩ := mem_jobIds.mp hjob.1
  obtain ⟨stored, hstoredId, hstores⟩ := h.stored row hrow
  obtain ⟨read, hread, hvalues⟩ := hstores.getJob_eq
  rw [hstoredId, hrowId, hjob.2] at hread
  cases hread
  have hrows := hstores.rows
  rw [← hvalues, hstoredId, hrowId] at hrows
  exact hrows

/-- The two predicates of the store part over the empty text only. -/
theorem Database.Consistent.frees_iff (h : database.Consistent) {job : AgentJob}
    (hjob : database.Lists job) (hterminal : job.values.status.isTerminal = true)
    (hretain : job.mustRetain = false) :
    database.Frees job ↔ job.values.text .manualReconcileOperation ≠ some "" := by
  constructor
  · intro hfrees
    rw [hfrees.unfenced.slot]
    simp
  · intro hmanual
    obtain ⟨hunfenced, hreserves⟩ :=
      AgentJob.unfenced_of_not_mustRetain hterminal hretain hmanual
    refine ⟨hunfenced, fun entry hentry hid ↦ ?_⟩
    have hrows := h.rows_of_lists hjob
    rw [Values.reservationRows, hreserves] at hrows
    have hmem : entry ∈ database.reservations.filter (·.jobId = job.id) :=
      List.mem_filter.mpr ⟨hentry, decide_eq_true hid⟩
    rw [hrows] at hmem
    cases hmem

/-- What an accepted `prune` removes. -/
theorem prune_eq_ok_iff {cutoff : Time} {removed : List String} :
    prune cutoff database = .ok removed next ↔
      (database.maintenance.isSome = true ∧ removed = [] ∧ next = database) ∨
      (database.maintenance = none ∧ ∃ jobs, listJobs database = .ok jobs database ∧
        removed = (jobs.filter fun job ↦ job.isPrunable cutoff).map (·.id) ∧
        removed.forM deleteJob database = .ok ⟨⟩ next) := by
  unfold prune
  rw [bind_get_iff]
  by_cases hlease : database.maintenance.isSome = true
  · have hne : database.maintenance ≠ none := Option.isSome_iff_ne_none.mp hlease
    rw [if_pos hlease]
    constructor
    · intro h
      cases h
      exact .inl ⟨hlease, rfl, rfl⟩
    · rintro (⟨-, rfl, rfl⟩ | ⟨hnone, -⟩)
      · rfl
      · exact absurd hnone hne
  · have hnone : database.maintenance = none := Option.not_isSome_iff_eq_none.mp hlease
    rw [if_neg hlease, bind_eq_ok_iff]
    constructor
    · rintro ⟨jobs, middle, hjobs, h⟩
      obtain ⟨rfl, -⟩ := listJobs_reads hjobs
      rw [bind_eq_ok_iff] at h
      obtain ⟨_, final, hdeleted, h⟩ := h
      cases h
      exact .inr ⟨hnone, jobs, hjobs, rfl, hdeleted⟩
    · rintro (⟨hsome, -⟩ | ⟨-, jobs, hjobs, rfl, hdeleted⟩)
      · exact absurd hsome hlease
      · refine ⟨jobs, database, hjobs, ?_⟩
        rw [bind_eq_ok_iff]
        exact ⟨⟨⟩, next, hdeleted, rfl⟩

/-- What an accepted `finalize_maintenance` removes. -/
theorem finalizeMaintenance_eq_ok_iff {files : MaintenanceFiles} {token : String}
    {removed : List String} :
    finalizeMaintenance files token database = .ok removed next ↔
      database.maintenance = some token ∧ files.legacyRecords = false ∧
      ∃ jobs middle, listJobs database = .ok jobs database ∧ deletionBlockers files jobs = [] ∧
        removed = jobs.map (·.id) ∧ removed.forM deleteJob database = .ok ⟨⟩ middle ∧
        next = middle.dropLease token := by
  unfold finalizeMaintenance
  rw [bind_get_iff, bind_refuse_iff, bind_eq_ok_iff]
  have hlease : firstViolation
      [(decide (database.maintenance ≠ some token),
        StoreError.maintenance "Cursor job deletion lease changed before finalization"),
        (files.legacyRecords, .maintenance
          ("Cursor jobs could not be deleted safely: legacy source " ++
            "records remain; run job recovery and retry"))] = none ↔
      database.maintenance = some token ∧ files.legacyRecords = false := by
    simp [firstViolation]
  rw [hlease, and_assoc]
  refine and_congr_right fun _ ↦ and_congr_right fun _ ↦ ?_
  constructor
  · rintro ⟨jobs, middle, hjobs, h⟩
    obtain ⟨rfl, -⟩ := listJobs_reads hjobs
    rw [bind_refuse_iff, bind_eq_ok_iff] at h
    obtain ⟨hblockers, _, final, hdeleted, h⟩ := h
    cases h
    refine ⟨jobs, final, hjobs, ?_, rfl, hdeleted, rfl⟩
    simpa [firstViolation] using hblockers
  · rintro ⟨jobs, middle, hjobs, hblockers, rfl, hdeleted, rfl⟩
    refine ⟨jobs, database, hjobs, ?_⟩
    rw [bind_refuse_iff, bind_eq_ok_iff]
    exact ⟨by simp [firstViolation, hblockers], ⟨⟩, middle, hdeleted, rfl⟩

omit [TextLibrary] in
theorem deletionBlockers_eq_nil_iff {files : MaintenanceFiles} {jobs : List AgentJob} :
    deletionBlockers files jobs = [] ↔
      files.unresolved = [] ∧ ∀ job ∈ jobs, job.deletionReasons = [] := by
  unfold deletionBlockers
  rw [List.append_eq_nil_iff, List.map_eq_nil_iff, List.filter_eq_nil_iff]
  have hfiles : (if files.unresolved.isEmpty then []
      else ["quarantine evidence requires manual inspection: " ++
        ", ".intercalate files.unresolved]) = [] ↔ files.unresolved = [] := by
    by_cases hempty : files.unresolved.isEmpty = true
    · rw [if_pos hempty]
      exact ⟨fun _ ↦ List.isEmpty_iff.mp hempty, fun _ ↦ rfl⟩
    · rw [if_neg hempty]
      exact ⟨fun h ↦ by simp at h, fun h ↦ absurd (List.isEmpty_iff.mpr h) hempty⟩
  rw [hfiles]
  refine and_congr_right fun _ ↦ forall_congr' fun job ↦ forall_congr' fun _ ↦ ?_
  rw [Bool.not_eq_true, Bool.not_eq_false', List.isEmpty_iff]

omit [TextLibrary] in
/-- A job with nothing in the way is terminal and not retained. -/
theorem AgentJob.terminal_of_deletionReasons {job : AgentJob} (h : job.deletionReasons = []) :
    job.values.status.isTerminal = true ∧ job.mustRetain = false := by
  unfold deletionReasons at h
  rw [List.append_eq_nil_iff, List.append_eq_nil_iff] at h
  obtain ⟨⟨hactive, -⟩, hretain⟩ := h
  constructor
  · revert hactive
    cases job.values.status <;> simp [JobStatus.isActive, JobStatus.isTerminal]
  · rw [Bool.eq_false_iff]
    intro h
    rw [if_pos h] at hretain
    cases hretain

/-- What a `prune` may do: it raises and changes nothing, or each job it removes was delivered,
completed before the cutoff and frees nothing, and every other job keeps its rows. -/
def Database.Prunes (database next : Database) (cutoff : Time) :
    Except StoreError (List String) → Prop
  | .error _ => next = database
  | .ok removed => database.Removes next removed ∧
      ∀ jobId ∈ removed, ∃ job, job.id = jobId ∧ database.Lists job ∧ database.Frees job ∧
        job.values.bool .delivered = true ∧
        ∃ completedAt, job.values.float .completedAt = some completedAt ∧ completedAt < cutoff

/-- What a `finalize_maintenance` may do: it raises and changes nothing, or it removes every job with
its own lease, and each job frees nothing. -/
def Database.Finalizes (database next : Database) (token : String) :
    Except StoreError (List String) → Prop
  | .error _ => next = database
  | .ok removed => database.maintenance = some token ∧ next.maintenance = none ∧
      removed = database.jobIds ∧ next.jobs = [] ∧ next.reservations = [] ∧
      ∀ job, database.Lists job → database.Frees job

theorem Database.Consistent.prunes_iff (h : database.Consistent) (cutoff : Time) :
    database.Prunes (atomically (prune cutoff) database).1 cutoff
        (atomically (prune cutoff) database).2 ↔
      (database.maintenance = none → ∀ job, database.Lists job → job.isPrunable cutoff = true →
        job.values.text .manualReconcileOperation ≠ some "") := by
  by_cases hlease : database.maintenance.isSome = true
  · have hne : database.maintenance ≠ none := Option.isSome_iff_ne_none.mp hlease
    have hrun : prune cutoff database = .ok [] database :=
      prune_eq_ok_iff.mpr (.inl ⟨hlease, rfl, rfl⟩)
    rw [atomically_eq_ok_iff.mpr hrun]
    exact ⟨fun _ hnone ↦ absurd hnone hne, fun _ ↦
      ⟨removes_refl database, fun _ hmem ↦ absurd hmem List.not_mem_nil⟩⟩
  · have hnone : database.maintenance = none := Option.not_isSome_iff_eq_none.mp hlease
    obtain ⟨jobs, hjobs⟩ := h.listJobs_ok
    obtain ⟨next, hdeleted⟩ :=
      deleteJobs_ok ((jobs.filter fun job ↦ job.isPrunable cutoff).map (·.id)) database
    have hrun := prune_eq_ok_iff.mpr (.inr ⟨hnone, jobs, hjobs, rfl, hdeleted⟩)
    rw [atomically_eq_ok_iff.mpr hrun]
    have hprunable : ∀ {job : AgentJob}, job.isPrunable cutoff = true →
        job.values.status.isTerminal = true ∧ job.mustRetain = false ∧
        job.values.bool .delivered = true ∧
        ∃ completedAt, job.values.float .completedAt = some completedAt ∧ completedAt < cutoff := by
      intro job hjob
      unfold AgentJob.isPrunable at hjob
      simp only [Bool.and_eq_true, Option.any_eq_true, Bool.not_eq_true', decide_eq_true_eq] at hjob
      obtain ⟨⟨⟨hterminal, hdelivered⟩, hcompleted⟩, hretain⟩ := hjob
      exact ⟨hterminal, hretain, hdelivered, hcompleted⟩
    constructor
    · rintro ⟨-, hfreed⟩ - job hlists hjob
      obtain ⟨hterminal, hretain, -, -⟩ := hprunable hjob
      have hmem : job.id ∈ (jobs.filter fun job ↦ job.isPrunable cutoff).map (·.id) :=
        List.mem_map_of_mem (List.mem_filter.mpr ⟨(mem_of_listJobs hjobs).mpr hlists, hjob⟩)
      obtain ⟨other, hid, hother, hfrees, -⟩ := hfreed job.id hmem
      have hsame := hother.2
      rw [hid, hlists.2] at hsame
      cases hsame
      exact (h.frees_iff hlists hterminal hretain).mp hfrees
    · intro hmanual
      refine ⟨removes_deleteJobs hdeleted, fun jobId hjobId ↦ ?_⟩
      obtain ⟨job, hjob, rfl⟩ := List.mem_map.mp hjobId
      obtain ⟨hmem, hjob⟩ := List.mem_filter.mp hjob
      have hlists := (mem_of_listJobs hjobs).mp hmem
      obtain ⟨hterminal, hretain, hdelivered, hcompleted⟩ := hprunable hjob
      exact ⟨job, rfl, hlists,
        (h.frees_iff hlists hterminal hretain).mpr (hmanual hnone job hlists hjob), hdelivered,
        hcompleted⟩

theorem Database.Consistent.finalizes_iff (h : database.Consistent) (files : MaintenanceFiles)
    (token : String) :
    database.Finalizes (atomically (finalizeMaintenance files token) database).1 token
        (atomically (finalizeMaintenance files token) database).2 ↔
      (database.maintenance = some token → files.legacyRecords = false → files.unresolved = [] →
        (∀ job, database.Lists job → job.deletionReasons = []) →
        ∀ job, database.Lists job → job.values.text .manualReconcileOperation ≠ some "") := by
  rcases houtcome : atomically (finalizeMaintenance files token) database with ⟨next, error | removed⟩
  · have hsame : next = database := by
      have herror := atomically_error (congrArg Prod.snd houtcome)
      rw [houtcome] at herror
      exact herror
    refine iff_of_true hsame fun hlease hlegacy hunresolved hreasons ↦ ?_
    obtain ⟨jobs, hjobs⟩ := h.listJobs_ok
    obtain ⟨middle, hdeleted⟩ := deleteJobs_ok (jobs.map (·.id)) database
    have hblockers : deletionBlockers files jobs = [] :=
      deletionBlockers_eq_nil_iff.mpr ⟨hunresolved, fun job hjob ↦
        hreasons job ((mem_of_listJobs hjobs).mp hjob)⟩
    have hrun := finalizeMaintenance_eq_ok_iff.mpr
      ⟨hlease, hlegacy, jobs, middle, hjobs, hblockers, rfl, hdeleted, rfl⟩
    rw [atomically_eq_ok_iff.mpr hrun] at houtcome
    cases houtcome
  · have hrun := atomically_eq_ok_iff.mp houtcome
    obtain ⟨hlease, hlegacy, jobs, middle, hjobs, hblockers, rfl, hdeleted, rfl⟩ :=
      finalizeMaintenance_eq_ok_iff.mp hrun
    obtain ⟨-, hids, -⟩ := listJobs_reads hjobs
    obtain ⟨hunresolved, hreasons⟩ := deletionBlockers_eq_nil_iff.mp hblockers
    have hremoves := removes_deleteJobs hdeleted
    have hfrees : ∀ job, database.Lists job →
        (database.Frees job ↔ job.values.text .manualReconcileOperation ≠ some "") := by
      intro job hlists
      obtain ⟨hterminal, hretain⟩ :=
        AgentJob.terminal_of_deletionReasons (hreasons job ((mem_of_listJobs hjobs).mpr hlists))
      exact h.frees_iff hlists hterminal hretain
    have hlists : ∀ job, database.Lists job → job.deletionReasons = [] := fun job hjob ↦
      hreasons job ((mem_of_listJobs hjobs).mpr hjob)
    constructor
    · rintro ⟨-, -, -, -, -, hfreed⟩ - - - - job hjob
      exact (hfrees job hjob).mp (hfreed job hjob)
    · intro hmanual
      have hfreed := hmanual hlease hlegacy hunresolved hlists
      have hdropped : (middle.dropLease token).jobs = middle.jobs ∧
          (middle.dropLease token).reservations = middle.reservations ∧
          (middle.dropLease token).maintenance = none := by
        unfold Database.dropLease
        rw [if_pos (hremoves.maintenance.trans hlease)]
        exact ⟨rfl, rfl, rfl⟩
      obtain ⟨hnextJobs, hnextRows, hnextLease⟩ := hdropped
      refine ⟨hlease, hnextLease, hids, ?_, ?_, fun job hjob ↦ (hfrees job hjob).mpr (hfreed job hjob)⟩
      · rw [hnextJobs, List.eq_nil_iff_forall_not_mem]
        intro row hrow
        obtain ⟨hold, hnot⟩ := (hremoves.jobs row).mp hrow
        exact hnot (hids ▸ mem_jobIds.mpr ⟨row, hold, rfl⟩)
      · rw [hnextRows, List.eq_nil_iff_forall_not_mem]
        intro entry hentry
        obtain ⟨hold, hnot⟩ := hremoves.reservations entry hentry
        obtain ⟨row, hrow, hid⟩ := h.owned entry hold
        exact hnot (hids ▸ mem_jobIds.mpr ⟨row, hrow, hid⟩)

/-- In every state that a run of the store reaches, a `prune` and a `finalize_maintenance` drop no
fence exactly when no job they remove has the empty text as its manual operation. -/
theorem maintenance_fences_iff (calls : List MaintenanceCall) (cutoff : Time)
    (files : MaintenanceFiles) (token : String) :
    let database := maintenanceMachine.exec Database.empty calls
    (database.Prunes (atomically (prune cutoff) database).1 cutoff
        (atomically (prune cutoff) database).2 ↔
      (database.maintenance = none → ∀ job, database.Lists job → job.isPrunable cutoff = true →
        job.values.text .manualReconcileOperation ≠ some "")) ∧
    (database.Finalizes (atomically (finalizeMaintenance files token) database).1 token
        (atomically (finalizeMaintenance files token) database).2 ↔
      (database.maintenance = some token → files.legacyRecords = false → files.unresolved = [] →
        (∀ job, database.Lists job → job.deletionReasons = []) →
        ∀ job, database.Lists job →
          job.values.text .manualReconcileOperation ≠ some "")) := by
  intro database
  have hconsistent : database.Consistent := consistent_maintenance calls
  exact ⟨hconsistent.prunes_iff cutoff, hconsistent.finalizes_iff files token⟩

end

/-! ### A fence that is dropped -/

section

attribute [local instance] asciiTextLibrary

/-- The record of a delivered job that holds a worktree, with the empty text as its manual operation. -/
def emptySlotRecord : Values :=
  let spec : NewAgentJob :=
    { id := "0123456789ab", request := "Fix the parser", createdAt := 0, foregroundUntil := 0
      harnessKind := .cursor, details := .empty }
  spec.record.update
    [.put (.jobStatus .status) (some .completed), .put (.text .result) (some "Done."),
      .put (.float .completedAt) (some 1), .put (.bool .delivered) (some true),
      .put (.text .worktreePath) (some "/worktrees/parser"),
      .put (.text .manualReconcileOperation) (some "")]

/-- Files that refuse nothing. -/
def openFiles : StoreFiles where
  validateCandidateArtifacts _ _ := .ok ()
  validateQuarantineReservation _ _ := .ok ()

/-- A new job that the tables of an empty store take. -/
def AgentJob.isStorable (job : AgentJob) : Bool :=
  decide (job.values.revision = 0) &&
    inventory.all (fun field ↦ (databaseCell field (job.values field)).fits) &&
    decide (0 ≤ job.values.count .deliveryGeneration) &&
    decide (0 ≤ job.values.count .deliveryAttempts) &&
    decide (job.values.text .deliveryClaimToken ≠ some "") &&
    decide job.values.ticketKeys.Nodup && job.values.others.isEmpty

/-- A storable job is created in a store that holds nothing, and listed. -/
theorem lists_create {job candidate : AgentJob} (hnormalized : job.normalizeForDurableWrite = .ok candidate)
    (hstorable : candidate.isStorable = true) :
    ∃ read next, create openFiles job false Database.empty = .ok candidate next ∧
      next.Lists read ∧ read.id = candidate.id ∧ read.values.cells = candidate.values.cells ∧
      next.maintenance = none := by
  unfold AgentJob.isStorable at hstorable
  simp only [Bool.and_eq_true, decide_eq_true_eq, List.all_eq_true, List.isEmpty_iff] at hstorable
  obtain ⟨⟨⟨⟨⟨⟨hrevision, hfits⟩, hgeneration⟩, hattempts⟩, htoken⟩, htickets⟩, hothers⟩ := hstorable
  have hvocabulary : candidate.values.InVocabulary := fun name ↦
    candidate.values.absent_of_notMem name (by rw [hothers]; exact List.not_mem_nil)
  have hrange : candidate.values.InRange :=
    ⟨(candidate.values.fits_databaseCell_iff inventory).mp hfits, ⟨hgeneration, hattempts⟩,
      htoken, htickets⟩
  have hunclaimed : Database.empty.Unclaimed candidate.values := by
    constructor <;> simp [Database.empty]
  have haccepts := candidate.accepts_iff.mpr ⟨hunclaimed, hvocabulary, hrange⟩
  obtain ⟨read, next, hcreate, hread, hcells, hids, hlease⟩ :=
    create_ok openFiles hnormalized hrevision haccepts rfl fun _ ↦ rfl
  have hid : read.id = candidate.id := id_of_getJob hread
  exact ⟨read, next, hcreate, ⟨by rw [hids, hid]; exact List.mem_cons_self, hid.symm ▸ hread⟩, hid,
    hcells, hlease⟩

/-- What keeps a job depends on the cells of its record only. -/
theorem AgentJob.isPrunable_congr {job other : AgentJob}
    (h : job.values.cells = other.values.cells) (cutoff : Time) :
    job.isPrunable cutoff = other.isPrunable cutoff := by
  obtain ⟨⟨cells, others, habsent⟩, event, hvalid⟩ := job
  obtain ⟨⟨otherCells, otherOthers, hother⟩, otherEvent, hotherValid⟩ := other
  obtain rfl : cells = otherCells := h
  rfl

/-- The job of the record is created by a store that holds nothing; `prune` then removes it while the
row of its worktree is held. -/
theorem not_prunes_emptySlot :
    ∃ job saved, AgentJob.fromDict emptySlotRecord = .ok job ∧
      let database := maintenanceMachine.exec Database.empty [.store (.create openFiles job false)]
      database.Lists saved ∧ saved.values.text .worktreePath = some "/worktrees/parser" ∧
      saved.values.reservesResources = true ∧
      ¬ database.Prunes (atomically (prune 2) database).1 2
        (atomically (prune 2) database).2 := by
  have hrun : (AgentJob.fromDict emptySlotRecord >>= AgentJob.normalizeForDurableWrite).toOption.any
      (fun candidate ↦ candidate.isStorable && candidate.isPrunable 2 &&
        decide (candidate.values.text .manualReconcileOperation = some "") &&
        decide (candidate.values.text .worktreePath = some "/worktrees/parser")) = true := by
    decide +kernel
  rcases hchain : AgentJob.fromDict emptySlotRecord >>= AgentJob.normalizeForDurableWrite with
    message | candidate
  · rw [hchain] at hrun
    cases hrun
  · rw [hchain] at hrun
    obtain ⟨job, hjob, hnormalized⟩ := checked_bind_eq_ok_iff.mp hchain
    simp only [Except.toOption, Option.any_some, Bool.and_eq_true, decide_eq_true_eq] at hrun
    obtain ⟨⟨⟨hstorable, hprunable⟩, hslot⟩, hpath⟩ := hrun
    obtain ⟨read, next, hcreate, hlists, hid, hcells, hlease⟩ := lists_create hnormalized hstorable
    have hstep : maintenanceMachine.exec Database.empty [.store (.create openFiles job false)] =
        next := by
      change (atomically (create openFiles job false >>= fun saved ↦ pure _) Database.empty).1 = next
      have hprogram : (create openFiles job false >>= fun saved ↦
          (pure { jobs := [saved] } : StoreProgram StoreAnswer)) Database.empty =
          .ok { jobs := [candidate] } next := bind_eq_ok_iff.mpr ⟨candidate, next, hcreate, rfl⟩
      rw [atomically_eq_ok_iff.mpr hprogram]
    have hreadSlot : read.values.text .manualReconcileOperation = some "" := by
      unfold Values.text Values.get
      rw [hcells]
      exact hslot
    refine ⟨job, read, hjob, ?_⟩
    rw [hstep]
    refine ⟨hlists, ?_, ?_, fun hprunes ↦ ?_⟩
    · unfold Values.text Values.get
      rw [hcells]
      exact hpath
    · simp [Values.reservesResources, hreadSlot]
    · have hconsistent : next.Consistent := hstep ▸ consistent_maintenance _
      exact (hconsistent.prunes_iff 2).mp hprunes hlease read hlists
        ((AgentJob.isPrunable_congr hcells 2).trans hprunable) hreadSlot

end

end VoiceHarness
