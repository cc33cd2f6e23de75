import VoiceHarness.Store.Operations
import VoiceHarness.Store.Persistence
import VoiceHarness.Job.Canonical

/-!
# Reservations over runs of the store

In every state a run of the store reaches, each resource has one row, each row belongs to a stored
job, and a stored job has the rows that `_reservation_rows` computes from the record that is read
back. A save is the only write that touches the rows (`Consistent.saved`), so each operation keeps
this whatever its callables answer.
-/

set_option autoImplicit false
set_option relaxedAutoImplicit false

namespace VoiceHarness

open Library

section

variable [TextLibrary]

/-- The fields of an import that no save keeps. -/
def transientFields : List Field :=
  [.int .migrationSourceSchemaVersion, .bool .phasePromptActive,
    .bool .agentIdentityLegacyCompatible]

namespace AgentJob

/-- A job whose record a save keeps as it is. -/
structure Durable (job : AgentJob) : Prop where
  canonical : job.values.IsCanonical
  transient : ∀ field ∈ transientFields, job.values field = .absent

variable {job candidate : AgentJob}

theorem durable_fromDict {raw : Values} (hraw : ∀ field ∈ transientFields, raw field = .absent)
    (h : fromDict raw = .ok job) : job.Durable := by
  obtain ⟨values, hcanonical, hvalues⟩ := fromDict_ok h
  refine ⟨isCanonical_of_fromDict h, fun field hfield ↦ ?_⟩
  have hkept : ∀ field ∈ transientFields, field ∉ Values.canonicalFields := by decide
  rw [hvalues, Values.agreeOff_canonicalise hcanonical field (hkept field hfield),
    hraw field hfield]

/-- What `_normalize_for_durable_write` answers is durable. -/
theorem durable_normalizeForDurableWrite (h : job.normalizeForDurableWrite = .ok candidate) :
    candidate.Durable := by
  unfold normalizeForDurableWrite at h
  split_ifs at h
  obtain ⟨normalized, hnormalized, heq⟩ := checked_bind_eq_ok_iff.mp h
  cases heq
  have hdurable : normalized.Durable := by
    refine durable_fromDict (fun field hfield ↦ ?_) hnormalized
    have hne : ∀ field ∈ transientFields, field ≠ .int .schemaVersion := by decide
    rw [durableRecord, Values.set_of_ne _ _ (hne field hfield)]
    exact Values.popAll_of_mem _ hfield
  exact ⟨hdurable.canonical, hdurable.transient⟩

/-- A change of the participant keeps a durable job durable. -/
theorem durable_evolveParticipant (hjob : job.Durable) {lifecycle : ParticipantLifecycle}
    (h : job.evolveParticipant lifecycle = .ok candidate) : candidate.Durable := by
  refine durable_fromDict (fun field hfield ↦ ?_) (evolve_ok h).1
  have hown : ∀ field ∈ transientFields, field ∉ Values.evolutionFields ∧
      field ∉ [Field.participantAdmissionState, .operation .participantCreationState,
        .participant .participantCreationParticipant, .text .participantCreationTarget,
        .text .participantCreationLabel, .text .participantCreationWorkspaceId,
        .text .participantCreationPaneId] := by decide
  exact evolvedRecord_absent (hjob.transient field hfield) List.not_mem_nil (hown field hfield).2
    (hown field hfield).1

end AgentJob

theorem Values.reservationRows_congr {values other : Values} (h : values.cells = other.cells) :
    values.reservationRows = other.reservationRows := by
  obtain ⟨cells, others, habsent⟩ := values
  obtain ⟨otherCells, otherOthers, hother⟩ := other
  obtain rfl : cells = otherCells := h
  rfl

namespace Database

variable {database : Database} {job : AgentJob}

/-- The job is read back from the store, and its rows are those computed from its record. -/
structure Stores (database : Database) (job : AgentJob) : Prop where
  durable : job.Durable
  load : database.loadJob job.id = .ok job.values
  rows : database.reservations.filter (·.jobId = job.id) =
    job.values.reservationRows.map (Values.reservationEntry job.id)

/-- Each resource has one row, each row is of a stored job, and each stored job has its rows. -/
structure Consistent (database : Database) : Prop where
  exclusive : (database.reservations.map (·.resource)).Nodup
  owned : ∀ entry ∈ database.reservations, ∃ row ∈ database.jobs, row.jobId = entry.jobId
  stored : ∀ row ∈ database.jobs, ∃ job, job.id = row.jobId ∧ database.Stores job

theorem consistent_empty : empty.Consistent :=
  ⟨List.nodup_nil, fun _ h ↦ absurd h List.not_mem_nil, fun _ h ↦ absurd h List.not_mem_nil⟩

/-! ### A save -/

/-- A saved durable job is stored with its own record. -/
theorem stores_saved (hjob : job.Durable)
    (haccepts : job.values.Accepts job.values.reservationRows database) :
    ∃ read : AgentJob, read.id = job.id ∧ job.values.cells = read.values.cells ∧
      (job.values.saved job.values.reservationRows database).Stores read := by
  obtain ⟨status, hstatus⟩ := job.status_val
  obtain ⟨loaded, hload, hid, hversion, hinventory, hrest⟩ :=
    Values.loadJob_of_named
      (rfl : (job.values.saved job.values.reservationRows database).named = _) hstatus
  have hvocabulary := (Values.unknownFields_eq_nil_iff _).mp haccepts.fields
  have hcells : job.values.cells = loaded.cells := by
    funext field
    by_cases hinventoried : field ∈ inventory
    · exact (hinventory field hinventoried).symm
    · by_cases hkey : field = .text .id
      · subst hkey
        rw [hid, job.id_val]
      · by_cases hschema : field = .int .schemaVersion
        · subst hschema
          rw [hversion, hjob.canonical.schemaVersion]
        · rw [hrest field (by simp [hkey, hschema, hinventoried])]
          by_cases hname : ∃ name, field = .other name
          · obtain ⟨name, rfl⟩ := hname
            exact hvocabulary name
          · have hknown := mem_knownFields fun name heq ↦ hname ⟨name, heq⟩
            simp only [knownFields, importOnlyFields, List.mem_append, List.mem_cons,
              List.not_mem_nil, or_false, hinventoried, hkey, hschema, false_or] at hknown
            exact hjob.transient field (by simpa [transientFields] using hknown)
  obtain ⟨read, hread, hvalues, -⟩ := AgentJob.fromDict_of_cells hjob.canonical hcells
  have hname : read.id = job.id := by
    unfold AgentJob.id Values.jobId Values.textOrEmpty Values.text Values.get
    rw [hvalues, ← hcells]
  refine ⟨read, hname, hvalues ▸ hcells, ?_, ?_, ?_⟩
  · refine AgentJob.durable_fromDict (fun field hfield ↦ ?_) hread
    rw [← hcells]
    exact hjob.transient field hfield
  · rw [hvalues, hname]
    exact hload
  · rw [hname, hvalues, ← Values.reservationRows_congr hcells]
    exact Values.filter_savedReservations_self _

/-- A save that raises nothing keeps the store consistent. -/
theorem Consistent.saved (h : database.Consistent) (hjob : job.Durable)
    (haccepts : job.values.Accepts job.values.reservationRows database) :
    (job.values.saved job.values.reservationRows database).Consistent := by
  constructor
  · have hrows : (job.values.reservationRows.map (Values.reservationEntry job.values.jobId)).map
        (·.resource) = job.values.reservationRows.map (·.resource) := by
      rw [List.map_map]
      rfl
    change ((job.values.savedReservations job.values.reservationRows
      database.reservations).map (·.resource)).Nodup
    rw [Values.savedReservations, List.map_append, hrows]
    refine List.Nodup.append (h.exclusive.sublist (List.filter_sublist.map _)) haccepts.distinct ?_
    intro resource hother hown
    obtain ⟨entry, hentry, rfl⟩ := List.mem_map.mp hother
    obtain ⟨row, hrow, heq⟩ := List.mem_map.mp hown
    exact haccepts.free row hrow entry hentry heq.symm
  · intro entry hentry
    rcases List.mem_append.mp hentry with hother | hown
    · obtain ⟨hmem, hne⟩ := mem_discard.mp hother
      obtain ⟨row, hrow, hid⟩ := h.owned entry hmem
      exact ⟨row, mem_upsert.mpr (.inr ⟨hrow, hid ▸ hne⟩), hid⟩
    · obtain ⟨row, -, rfl⟩ := List.mem_map.mp hown
      exact ⟨job.values.jobRow, mem_upsert.mpr (.inl rfl), rfl⟩
  · intro row hrow
    rcases mem_upsert.mp hrow with rfl | ⟨hmem, hne⟩
    · obtain ⟨read, hid, -, hstores⟩ := stores_saved hjob haccepts
      exact ⟨read, hid, hstores⟩
    · obtain ⟨other, hid, hstores⟩ := h.stored row hmem
      have hother : other.id ≠ job.values.jobId := hid ▸ hne
      have hsame := Values.sameRows_saved hother haccepts
      exact ⟨other, hid, hstores.durable, hsame.loadJob_eq.trans hstores.load,
        hsame.reservations.trans hstores.rows⟩

/-! ### Reading, saving and deleting a job -/

omit [TextLibrary] in
/-- No read gives a field of an import. -/
theorem transient_loadJob {jobId : String} {loaded : Values}
    (h : database.loadJob jobId = .ok loaded) :
    ∀ field ∈ transientFields, loaded field = .absent := by
  have hfields : ∀ field ∈ transientFields, field ∉ inventory ∧ field ≠ .text .id ∧
      field ≠ .int .schemaVersion := by decide +kernel
  intro field hfield
  obtain ⟨hinventory, hid, hversion⟩ := hfields field hfield
  unfold loadJob at h
  split at h
  · split_ifs at h
  · split at h
    · exact absurd h (by simp)
    · split_ifs at h
      cases h
      rw [Values.update_map, if_neg hinventory, Values.set_of_ne _ _ hversion,
        Values.set_of_ne _ _ hid]
      rfl

end Database

open Database

variable {P : Database → Prop}

omit [TextLibrary] in
theorem keeps_checked {α : Type} {value : Checked α} {R : α → Prop}
    (h : ∀ result, value = .ok result → R result) : Keeps P (checked value) R := by
  refine Keeps.valueOrRaise fun result hresult ↦ h result ?_
  cases value with
  | error message => exact absurd hresult (by simp [Except.mapError])
  | ok value =>
    cases hresult
    rfl

theorem keeps_getJob (jobId : String) : Keeps P (getJob jobId) AgentJob.Durable := by
  unfold getJob
  refine Keeps.bind (R := fun _ ↦ True) ?_ fun database _ ↦ ?_
  · exact Keeps.get.weaken fun _ _ ↦ trivial
  · refine Keeps.bind (Keeps.valueOrRaise fun _ h ↦ h) fun raw hraw ↦ ?_
    exact keeps_checked fun job hjob ↦ AgentJob.durable_fromDict (transient_loadJob hraw) hjob

theorem keeps_listJobs : Keeps P listJobs fun jobs ↦ ∀ job ∈ jobs, job.Durable := by
  unfold listJobs
  refine Keeps.bind (R := fun _ ↦ True) ?_ fun database _ ↦ ?_
  · exact Keeps.get.weaken fun _ _ ↦ trivial
  · exact Keeps.mapM fun jobId _ ↦ keeps_getJob jobId

/-- A save that raises nothing was accepted, and leaves the saved store. -/
theorem saveJob_eq_ok_iff {job saved : AgentJob} {database next : Database} :
    saveJob job database = .ok saved next ↔
      saved = job ∧ job.values.Accepts job.values.reservationRows database ∧
        next = job.values.saved job.values.reservationRows database := by
  have hrun : ∀ after error, database.save job.toDict = (after, error) →
      after = (runStatements (job.values.saveStatements job.values.reservationRows) database).1 ∧
        (error = none ↔ (runStatements (job.values.saveStatements job.values.reservationRows)
          database).2 = none) := by
    intro after error hsave
    refine ⟨(congrArg Prod.fst hsave).symm, ?_⟩
    have herror : error = (database.save job.toDict).2 := (congrArg Prod.snd hsave).symm
    rw [herror]
    exact Option.map_eq_none_iff
  unfold saveJob
  rcases hsave : database.save job.toDict with ⟨after, _ | error⟩
  · obtain ⟨hafter, hnone⟩ := hrun after none hsave
    obtain ⟨haccepts, hnext⟩ :=
      Values.runs_saveStatements_iff.mp (runs_of_error_eq_none (hnone.mp rfl))
    have hsaved : after = job.values.saved job.values.reservationRows database :=
      hafter.trans hnext
    simp [haccepts, hsaved, eq_comm]
  · obtain ⟨-, hnone⟩ := hrun after (some error) hsave
    have hrefused : ¬ job.values.Accepts job.values.reservationRows database := by
      intro haccepts
      have hruns := Values.runs_saveStatements_iff.mpr ⟨haccepts, rfl⟩
      exact absurd (hnone.mpr (congrArg Prod.snd hruns)) (by simp)
    simp [hrefused]

/-- A property of the store that saves, deletions and recorded transitions keep. -/
structure Kept (P : Database → Prop) : Prop where
  save : ∀ {job : AgentJob} {database : Database}, job.Durable →
    job.values.Accepts job.values.reservationRows database → P database →
      P (job.values.saved job.values.reservationRows database)
  delete : ∀ jobId, Keeps P (deleteJob jobId) fun _ ↦ True
  record : ∀ command decision, Keeps P (recordTransition command decision) fun _ ↦ True

theorem keeps_saveJob (hP : Kept P) {job : AgentJob} (hjob : job.Durable) :
    Keeps P (saveJob job) fun saved ↦ saved = job := by
  intro database hdatabase value next hrun
  obtain ⟨hvalue, haccepts, rfl⟩ := saveJob_eq_ok_iff.mp hrun
  exact ⟨hP.save hjob haccepts hdatabase, hvalue⟩

/-! ### The operations -/

omit [TextLibrary] in
theorem keeps_refuse (violations : List (Bool × StoreError)) :
    Keeps P (refuse violations) fun _ ↦ True := by
  unfold refuse
  split
  · exact Keeps.throw
  · exact Keeps.pure trivial

omit [TextLibrary] in
theorem keeps_rejectMaintenance (message : String) :
    Keeps P (rejectMaintenance message) fun _ ↦ True :=
  Keeps.get.bind fun _ _ ↦ keeps_refuse _

omit [TextLibrary] in
theorem keeps_requireAbsent (jobId : String) : Keeps P (requireAbsent jobId) fun _ ↦ True := by
  refine Keeps.get.bind fun database _ ↦ ?_
  split
  · exact Keeps.throw
  · exact Keeps.pure trivial
  · exact Keeps.throw

theorem keeps_rejectTicketConflict (job : AgentJob) (enforceUniqueTicket : Bool) :
    Keeps P (rejectTicketConflict job enforceUniqueTicket) fun _ ↦ True := by
  unfold rejectTicketConflict
  split
  · exact Keeps.pure trivial
  · refine Keeps.get.bind fun database _ ↦ ?_
    split
    · exact Keeps.throw
    · exact Keeps.pure trivial

theorem keeps_normalized (job : AgentJob) :
    Keeps P (checked job.normalizeForDurableWrite) AgentJob.Durable :=
  keeps_checked fun _ h ↦ AgentJob.durable_normalizeForDurableWrite h

theorem keeps_create (hP : Kept P) (files : StoreFiles) (job : AgentJob) (enforceUniqueTicket : Bool) :
    Keeps P (create files job enforceUniqueTicket) fun _ ↦ True := by
  unfold create
  refine (keeps_rejectMaintenance _).bind fun _ _ ↦ ?_
  refine (keeps_requireAbsent _).bind fun _ _ ↦ ?_
  refine (keeps_normalized job).bind fun candidate hcandidate ↦ ?_
  refine (keeps_refuse _).bind fun _ _ ↦ ?_
  refine (keeps_rejectTicketConflict candidate enforceUniqueTicket).bind fun _ _ ↦ ?_
  refine (keeps_checked fun _ _ ↦ trivial).bind fun _ _ ↦ ?_
  refine (keeps_checked fun _ _ ↦ trivial).bind fun _ _ ↦ ?_
  refine (keeps_checked fun _ _ ↦ trivial).bind fun _ _ ↦ ?_
  refine (keeps_saveJob hP hcandidate).bind fun saved _ ↦ ?_
  exact (hP.record _ _).bind fun _ _ ↦ Keeps.pure trivial

omit [TextLibrary] in
theorem keeps_checkQuarantine (files : StoreFiles) (reservation : Option QuarantineReservation)
    (candidate : AgentJob) : Keeps P (checkQuarantine files reservation candidate) fun _ ↦ True := by
  unfold checkQuarantine
  split
  · exact Keeps.pure trivial
  · exact keeps_checked fun _ _ ↦ trivial

theorem keeps_applyDecision (hP : Kept P) (files : StoreFiles) (command : CoordinatorCommand)
    (decide : AgentJob → Except StoreError (Option CoordinatorDecision))
    (reservation : Option QuarantineReservation) (current : AgentJob) :
    Keeps P (applyDecision files command decide reservation current) fun _ ↦ True := by
  unfold applyDecision
  refine Keeps.ite (Keeps.pure trivial) ?_
  refine (Keeps.valueOrRaise fun _ _ ↦ trivial).bind fun decision _ ↦ ?_
  cases decision with
  | none => exact Keeps.pure trivial
  | some decision =>
    refine (keeps_normalized decision.job).bind fun candidate hcandidate ↦ ?_
    refine (keeps_checked fun _ _ ↦ trivial).bind fun _ _ ↦ ?_
    refine (keeps_checked fun _ _ ↦ trivial).bind fun _ _ ↦ ?_
    refine (keeps_checkQuarantine files reservation candidate).bind fun _ _ ↦ ?_
    refine (hP.record _ _).bind fun _ _ ↦ ?_
    exact (keeps_saveJob hP hcandidate).map fun _ _ ↦ trivial

theorem keeps_applyOnConnection (hP : Kept P) (files : StoreFiles) (command : CoordinatorCommand)
    (decide : AgentJob → Except StoreError (Option CoordinatorDecision))
    (reservation : Option QuarantineReservation) (current : Option AgentJob) :
    Keeps P (applyOnConnection files command decide reservation current)
      fun _ ↦ True := by
  unfold applyOnConnection
  refine Keeps.get.bind fun database _ ↦ ?_
  split
  · exact Keeps.ite Keeps.throw ((keeps_getJob _).map fun _ _ ↦ trivial)
  · cases current with
    | some current => exact keeps_applyDecision hP files command decide reservation current
    | none =>
      exact (keeps_getJob _).bind fun job _ ↦
        keeps_applyDecision hP files command decide reservation job

theorem keeps_applyCommand (hP : Kept P) (files : StoreFiles) (command : CoordinatorCommand)
    (decide : AgentJob → Except StoreError (Option CoordinatorDecision))
    (reservation : Option QuarantineReservation) (rejectsMaintenance : Bool) :
    Keeps P (applyCommand files command decide reservation rejectsMaintenance)
      fun _ ↦ True := by
  unfold applyCommand
  refine (keeps_checked fun _ _ ↦ trivial).bind fun _ _ ↦ ?_
  refine Keeps.get.bind fun database _ ↦ ?_
  exact Keeps.ite (Keeps.pure trivial) (keeps_applyOnConnection hP files command decide reservation none)

theorem keeps_updateJob (hP : Kept P) (files : StoreFiles) (jobId token : String)
    (command : AgentJob → Except StoreError (Option AgentJob))
    (reservation : Option QuarantineReservation) (rejectsMaintenance : Bool) :
    Keeps P (updateJob files jobId token command reservation rejectsMaintenance)
      fun _ ↦ True := by
  unfold updateJob
  refine Keeps.get.bind fun database _ ↦ Keeps.ite (Keeps.pure trivial) ?_
  refine (keeps_getJob jobId).bind fun current _ ↦ ?_
  refine (keeps_checked fun _ _ ↦ trivial).bind fun _ _ ↦ ?_
  exact keeps_applyOnConnection hP files _ _ reservation (some current)

theorem keeps_saveGroupedChild (hP : Kept P) (files : StoreFiles) (child : AgentJob) :
    Keeps P (saveGroupedChild files child) fun _ ↦ True := by
  unfold saveGroupedChild
  refine (keeps_normalized child).bind fun normalized hnormalized ↦ ?_
  refine (keeps_refuse _).bind fun _ _ ↦ ?_
  refine (keeps_checked fun _ _ ↦ trivial).bind fun _ _ ↦ ?_
  exact (keeps_saveJob hP hnormalized).bind fun _ _ ↦ Keeps.pure trivial

theorem keeps_stageGroupedChildren (hP : Kept P) (files : StoreFiles) (coordinatorId : String)
    (command : AgentJob → Except StoreError (Option AgentJob)) (children : List AgentJob) :
    Keeps P (stageGroupedChildren files coordinatorId command children)
      fun _ ↦ True := by
  unfold stageGroupedChildren
  refine (keeps_rejectMaintenance _).bind fun _ _ ↦ ?_
  refine (keeps_getJob coordinatorId).bind fun current _ ↦ ?_
  refine (Keeps.valueOrRaise fun _ _ ↦ trivial).bind fun staged _ ↦ ?_
  cases staged with
  | none => exact Keeps.pure trivial
  | some staged =>
    refine (keeps_normalized staged).bind fun candidate hcandidate ↦ ?_
    refine (keeps_checked fun _ _ ↦ trivial).bind fun _ _ ↦ ?_
    refine (keeps_checked fun _ _ ↦ trivial).bind fun _ _ ↦ ?_
    refine (keeps_saveJob hP hcandidate).bind fun _ _ ↦ ?_
    refine (Keeps.forM fun child _ ↦ keeps_saveGroupedChild hP files child).bind fun _ _ ↦ ?_
    exact Keeps.pure trivial

theorem keeps_claimCapacity (hP : Kept P) {job : AgentJob} (hjob : job.Durable) :
    Keeps P (claimCapacity job) fun _ ↦ True := by
  unfold claimCapacity
  refine (keeps_checked fun _ _ ↦ trivial).bind fun lifecycle _ ↦ ?_
  refine (keeps_checked fun _ _ ↦ trivial).bind fun admitted _ ↦ ?_
  have hcandidate : ∀ candidate, job.evolveParticipant admitted = .ok candidate →
      candidate.Durable := fun _ h ↦ AgentJob.durable_evolveParticipant hjob h
  refine (keeps_checked hcandidate).bind fun candidate hdurable ↦ ?_
  exact (keeps_saveJob hP hdurable).weaken fun _ _ ↦ trivial

theorem keeps_claimParticipantCapacity (hP : Kept P) (limit : ℤ) :
    Keeps P (claimParticipantCapacity limit) fun _ ↦ True := by
  unfold claimParticipantCapacity
  refine (keeps_refuse _).bind fun _ _ ↦ ?_
  refine keeps_listJobs.bind fun jobs hjobs ↦ ?_
  refine Keeps.ite (Keeps.pure trivial) ?_
  refine Keeps.weaken (Keeps.mapM fun job hjob ↦ keeps_claimCapacity hP ?_) fun _ _ ↦ trivial
  have hwaiting := (List.mergeSort_perm _ _).mem_iff.mp (List.mem_of_mem_take hjob)
  exact hjobs job (List.mem_filter.mp hwaiting).1

theorem keeps_publishArtifact (hP : Kept P) (jobId : String) (claim : ArtifactClaim)
    (write : Except StoreError String) (change : AgentJob → String → Except StoreError AgentJob) :
    Keeps P (publishArtifact jobId claim write change) fun _ ↦ True := by
  unfold publishArtifact
  refine (keeps_refuse _).bind fun _ _ ↦ ?_
  refine (keeps_getJob jobId).bind fun current _ ↦ Keeps.ite (Keeps.pure trivial) ?_
  refine (Keeps.valueOrRaise fun _ _ ↦ trivial).bind fun reference _ ↦ ?_
  refine (Keeps.valueOrRaise fun _ _ ↦ trivial).bind fun changed _ ↦ ?_
  refine (keeps_checked fun _ _ ↦ trivial).bind fun published _ ↦ ?_
  refine (keeps_refuse _).bind fun _ _ ↦ ?_
  refine (keeps_normalized published).bind fun candidate hcandidate ↦ ?_
  refine (keeps_checked fun _ _ ↦ trivial).bind fun _ _ ↦ ?_
  exact (keeps_saveJob hP hcandidate).map fun _ _ ↦ trivial

theorem keeps_createFollowUp (hP : Kept P) (files : StoreFiles) (parentJobId : String)
    (build : AgentJob → Except StoreError AgentJob) (expectedParentRevision : ℤ)
    (expectedCompletedAt : Option Time) (shared : Bool) :
    Keeps P (createFollowUp files parentJobId build expectedParentRevision
      expectedCompletedAt shared) fun _ ↦ True := by
  unfold createFollowUp
  refine (keeps_rejectMaintenance _).bind fun _ _ ↦ ?_
  refine (keeps_getJob parentJobId).raisingAs.bind fun parent _ ↦ ?_
  refine (keeps_refuse _).bind fun _ _ ↦ ?_
  refine (Keeps.valueOrRaise fun _ _ ↦ trivial).bind fun child _ ↦ ?_
  refine (keeps_checked fun _ _ ↦ trivial).bind fun _ _ ↦ ?_
  refine (keeps_refuse _).bind fun _ _ ↦ ?_
  refine (keeps_requireAbsent _).bind fun _ _ ↦ Keeps.raisingAs ?_
  refine (keeps_checked fun _ _ ↦ trivial).bind fun _ _ ↦ ?_
  refine (keeps_normalized child).bind fun candidate hcandidate ↦ ?_
  exact (keeps_saveJob hP hcandidate).weaken fun _ _ ↦ trivial

theorem keeps_prune (hP : Kept P) (cutoff : Time) : Keeps P (prune cutoff) fun _ ↦ True := by
  unfold prune
  refine Keeps.get.bind fun database _ ↦ Keeps.ite (Keeps.pure trivial) ?_
  refine keeps_listJobs.bind fun jobs _ ↦ ?_
  exact (Keeps.forM fun jobId _ ↦ hP.delete jobId).bind fun _ _ ↦ Keeps.pure trivial

/-- Every call of the store keeps it consistent, whatever its callables and its files answer. -/
theorem keeps_program (hP : Kept P) (call : StoreCall) : Keeps P call.program fun _ ↦ True := by
  cases call with
  | create files job enforceUniqueTicket =>
    exact (keeps_create hP files job enforceUniqueTicket).bind fun _ _ ↦ Keeps.pure trivial
  | apply files command decide reservation rejectsMaintenance =>
    exact (keeps_applyCommand hP files command decide reservation rejectsMaintenance).bind
      fun _ _ ↦ Keeps.pure trivial
  | update files jobId token command reservation rejectsMaintenance =>
    exact (keeps_updateJob hP files jobId token command reservation rejectsMaintenance).bind
      fun _ _ ↦ Keeps.pure trivial
  | stageGroupedChildren files coordinatorId command children =>
    exact (keeps_stageGroupedChildren hP files coordinatorId command children).bind
      fun _ _ ↦ Keeps.pure trivial
  | createFollowUp files parentJobId build expectedParentRevision expectedCompletedAt shared =>
    exact (keeps_createFollowUp hP files parentJobId build expectedParentRevision expectedCompletedAt
      shared).bind fun _ _ ↦ Keeps.pure trivial
  | claimParticipantCapacity limit =>
    exact (keeps_claimParticipantCapacity hP limit).bind fun _ _ ↦ Keeps.pure trivial
  | publishArtifact jobId claim write change =>
    exact (keeps_publishArtifact hP jobId claim write change).bind fun _ _ ↦ Keeps.pure trivial
  | prune cutoff => exact (keeps_prune hP cutoff).bind fun _ _ ↦ Keeps.pure trivial

/-! ### Consistency -/

/-- The rows of a deleted job go with it. -/
theorem consistent_deleteJob (jobId : String) :
    Keeps Consistent (deleteJob jobId) fun _ ↦ True := by
  refine Keeps.modify fun database hdatabase ↦ ⟨?_, ?_, ?_⟩
  · exact hdatabase.exclusive.sublist (List.filter_sublist.map _)
  · intro entry hentry
    obtain ⟨hmem, hne⟩ := mem_discard.mp hentry
    obtain ⟨row, hrow, hid⟩ := hdatabase.owned entry hmem
    exact ⟨row, mem_discard.mpr ⟨hrow, hid ▸ hne⟩, hid⟩
  · intro row hrow
    obtain ⟨hmem, hne⟩ := mem_discard.mp hrow
    obtain ⟨job, hid, hstores⟩ := hdatabase.stored row hmem
    have hother : job.id ≠ jobId := hid ▸ hne
    refine ⟨job, hid, hstores.durable, ?_, ?_⟩
    · rw [← hstores.load]
      unfold loadJob
      simp only [findRow_discard_of_ne hother]
    · exact (filter_discard_of_ne database.reservations hother).trans hstores.rows

/-- The event and the effects of a transition touch no job and no reservation. -/
theorem consistent_recordTransition (command : CoordinatorCommand) (decision : CoordinatorDecision) :
    Keeps Consistent (recordTransition command decision) fun _ ↦ True := by
  unfold recordTransition
  refine Keeps.get.bind fun database hdatabase ↦ ?_
  refine (keeps_refuse _).bind fun _ _ ↦ ?_
  dsimp only
  split
  · exact Keeps.throw
  · refine Keeps.set ⟨hdatabase.exclusive, hdatabase.owned, fun row hrow ↦ ?_⟩
    obtain ⟨job, hid, hstores⟩ := hdatabase.stored row hrow
    exact ⟨job, hid, hstores.durable, hstores.load, hstores.rows⟩

theorem kept_consistent : Kept Consistent :=
  ⟨fun hjob haccepts hdatabase ↦ hdatabase.saved hjob haccepts, consistent_deleteJob,
    consistent_recordTransition⟩

/-- What every operation keeps holds after every run of the store. -/
theorem Kept.exec (hP : Kept P) (hempty : P Database.empty) (calls : List StoreCall) :
    P (storeMachine.exec Database.empty calls) :=
  storeMachine.invariant_exec (fun _ call h ↦ (keeps_program hP call).atomically h) hempty calls

theorem consistent_exec (calls : List StoreCall) :
    (storeMachine.exec Database.empty calls).Consistent :=
  kept_consistent.exec consistent_empty calls

namespace Database

/-- A stored job is read back, and the read writes nothing. -/
theorem Stores.getJob_eq {database : Database} {job : AgentJob} (h : database.Stores job) :
    ∃ read : AgentJob, getJob job.id database = .ok read database ∧ read.values = job.values := by
  obtain ⟨read, hread, hvalues, -⟩ := AgentJob.fromDict_of_cells h.durable.canonical rfl
  refine ⟨read, ?_, hvalues⟩
  rw [getJob, bind_apply, get_apply]
  simp only [bind_apply, h.load, valueOrRaise_ok, pure_apply, checked, hread, Except.mapError]

end Database

/-- In every state that a run of the store reaches, two different jobs hold no row for one resource,
every stored job holds exactly the rows computed from the record that is read for it, and there are
no other rows; and a call that raises leaves everything as it was. -/
theorem reservations_exec (calls : List StoreCall) :
    let database := storeMachine.exec Database.empty calls
    (∀ first ∈ database.reservations, ∀ second ∈ database.reservations,
      first.resource = second.resource → first.jobId = second.jobId) ∧
    (∀ row ∈ database.jobs, ∃ job : AgentJob, getJob row.jobId database = .ok job database ∧
      database.reservations.filter (·.jobId = row.jobId) =
        job.values.reservationRows.map (Values.reservationEntry row.jobId)) ∧
    (∀ entry ∈ database.reservations, ∃ row ∈ database.jobs, row.jobId = entry.jobId) ∧
    ∀ call error, (storeMachine.step database call).2 = .error error →
      (storeMachine.step database call).1 = database := by
  intro database
  have hconsistent : database.Consistent := consistent_exec calls
  refine ⟨fun first hfirst second hsecond heq ↦ ?_, fun row hrow ↦ ?_, hconsistent.owned,
    fun call error ↦ atomically_error⟩
  · exact congrArg ReservationEntry.jobId
      (List.inj_on_of_nodup_map hconsistent.exclusive hfirst hsecond heq)
  · obtain ⟨job, hid, hstores⟩ := hconsistent.stored row hrow
    obtain ⟨read, hread, hvalues⟩ := hstores.getJob_eq
    rw [← hid]
    exact ⟨read, hread, hvalues ▸ hstores.rows⟩

end

end VoiceHarness
