import VoiceHarness.Store.Import

/-!
# What an import leaves

An import leaves no trace of a failed source exactly when no source that reaches its save is refused
there, and that depends on the store before the import: nothing a saved source claims may be held by
a source saved before it or by a stored job that none of them replaces (`SavesApart`). Under the same
condition every saved job has its rows, and no stored job loses a revision.
-/

set_option autoImplicit false
set_option relaxedAutoImplicit false

namespace VoiceHarness

open Library

section

variable [TextLibrary]

/-! ### The candidate of a source -/

theorem ImportSource.candidate_ok {source : ImportSource} {job : AgentJob}
    (h : source.candidate = .ok job) : job.Durable ∧ job.id = source.stem := by
  obtain ⟨parsed, -, h⟩ := checked_bind_eq_ok_iff.mp h
  split_ifs at h with hstem
  obtain ⟨record, hrecord, hjob⟩ := checked_bind_eq_ok_iff.mp h
  refine ⟨AgentJob.durable_fromDict (parsed.transient record hrecord) hjob, ?_⟩
  obtain ⟨values, hcanonical, hvalues⟩ := AgentJob.fromDict_ok hjob
  have hid : job.values.get (.text .id) = record.get (.text .id) := by
    rw [hvalues]
    exact Values.get_of_agreeOff (Values.agreeOff_canonicalise hcanonical) (by decide)
  have hname : job.id = record.jobId := by
    unfold AgentJob.id Values.jobId Values.textOrEmpty Values.text
    rw [hid]
  rw [hname, parsed.id_eq record hrecord]
  exact not_not.mp hstem

/-! ### Saving a candidate -/

namespace AgentJob

variable {job : AgentJob} {database next : Database} {error : StoreError}

omit [TextLibrary] in
/-- A valid job is refused before its claims only for a number that does not fit or a field that is
not in the inventory, which no handler catches. -/
theorem not_isCaught_namedStatement :
    ∀ statement ∈ job.values.saveJobCore :: job.values.namedStatements,
      ∀ (state : Database) error, statement state = .error error → ¬ error.isCaught = true := by
  have hid := job.isJobId_id
  have hrevision : ¬ job.values.revision < 0 := Int.not_lt.mpr job.revision_nonneg
  intro statement hmem state error hraised
  simp only [Values.namedStatements, List.mem_append, List.mem_cons, List.not_mem_nil, or_false,
    List.mem_map] at hmem
  rcases hmem with rfl | (rfl | ⟨fields, -, rfl⟩) | rfl
  · have hfirst := guarded_eq_error_iff.mp hraised
    simp only [Values.coreViolations, hid, hrevision, firstViolation, List.find?,
      Bool.not_true, decide_false] at hfirst
    split at hfirst
    · cases hfirst
      simp [StoreError.isCaught]
    · exact absurd hfirst (by simp)
  · have hfirst := guarded_eq_error_iff.mp hraised
    split_ifs at hfirst
    cases hfirst
    simp [StoreError.isCaught]
  · have hfirst := guarded_eq_error_iff.mp hraised
    simp only [Values.tableViolations, hrevision, job.reviewRound_any, firstViolation,
      List.find?, decide_false, Bool.and_false] at hfirst
    split at hfirst
    · cases hfirst
      simp [StoreError.isCaught]
    · exact absurd hfirst (by simp)
  · exact absurd (guarded_eq_error_iff.mp hraised) (by simp)

omit [TextLibrary] in
theorem sameRecord_of_cells {other : AgentJob} (h : job.values.cells = other.values.cells) :
    other.sameRecord job = true := by
  unfold sameRecord toDict
  rw [List.all_eq_true]
  intro field _
  rw [h]
  exact decide_eq_true rfl

/-- The check of what is read back passes after every save. -/
theorem saveImported_of_accepts (hjob : job.Durable)
    (haccepts : job.values.Accepts job.values.reservationRows database) :
    saveImported job database =
      .ok ⟨⟩ (job.values.saved job.values.reservationRows database) := by
  have hsave : saveJob job database =
      .ok job (job.values.saved job.values.reservationRows database) :=
    saveJob_eq_ok_iff.mpr ⟨rfl, haccepts, rfl⟩
  obtain ⟨read, hid, hcells, hstores⟩ := Database.stores_saved hjob haccepts
  have hload := hstores.load
  rw [hid] at hload
  obtain ⟨projected, hprojected, hvalues, -⟩ :=
    fromDict_of_cells hstores.durable.canonical (rfl : _ = read.values.cells)
  have hinvariants : projected.values.validateInvariants = .ok () := projected.invariants
  have hversion : read.values.int .schemaVersion = some currentSchemaVersion := by
    unfold Values.int Values.get
    rw [hstores.durable.canonical.schemaVersion]
    rfl
  have hsame : projected.sameRecord job = true :=
    sameRecord_of_cells (hvalues ▸ hcells)
  unfold saveImported
  simp only [bind_apply, hsave, get_apply, hload, valueOrRaise_ok, pure_apply, checked, hprojected,
    Except.mapError, hinvariants, hversion, hsame]
  rfl

/-- A candidate is saved exactly when every constraint holds. -/
theorem saveImported_eq_ok_iff (hjob : job.Durable) {result : PUnit} :
    saveImported job database = .ok result next ↔
      job.values.Accepts job.values.reservationRows database ∧
        next = job.values.saved job.values.reservationRows database := by
  constructor
  · intro h
    rcases hsave : saveJob job database with ⟨saved, after⟩ | ⟨raised, after⟩
    · obtain ⟨-, haccepts, -⟩ := saveJob_eq_ok_iff.mp hsave
      rw [saveImported_of_accepts hjob haccepts] at h
      cases h
      exact ⟨haccepts, rfl⟩
    · unfold saveImported at h
      simp only [bind_apply, hsave] at h
      cases h
  · rintro ⟨haccepts, rfl⟩
    exact saveImported_of_accepts hjob haccepts

/-- An import of a candidate that raises was refused by its save. -/
theorem saveImported_error (hjob : job.Durable)
    (h : saveImported job database = .error error next) :
    database.save job.toDict = (next, some error) := by
  rcases hsave : database.save job.toDict with ⟨after, _ | raised⟩
  · have hsaved : saveJob job database = .ok job after := by
      unfold saveJob
      rw [hsave]
    obtain ⟨-, haccepts, -⟩ := saveJob_eq_ok_iff.mp hsaved
    rw [saveImported_of_accepts hjob haccepts] at h
    cases h
  · have hraised : saveJob job database = .error raised after := by
      unfold saveJob
      rw [hsave]
    unfold saveImported at h
    simp only [bind_apply, hraised] at h
    cases h
    rfl

/-- A candidate whose save is refused with an exception that the handler catches is read back from
the rows written before it was raised. -/
theorem loadJob_saveImported_error (hjob : job.Durable)
    (h : saveImported job database = .error error next) (hcaught : error.isCaught = true) :
    ∃ loaded, next.loadJob job.id = .ok loaded ∧ loaded.revision = job.values.revision := by
  have hsave := saveImported_error hjob h
  have hfirst : (runStatements (job.values.saveStatements job.values.reservationRows)
      database).1 = next := congrArg Prod.fst hsave
  have hsecond := congrArg Prod.snd hsave
  have hnamed : next.named = job.values.savedNamed database.named := by
    rw [← hfirst]
    refine Values.named_runSave (P := fun raised ↦ raised.isCaught = true)
      job.not_isCaught_namedStatement fun raised hraised ↦ ?_
    unfold Database.save at hsecond
    simp only [toDict, hraised, Option.map_some, Option.some.injEq] at hsecond
    subst hsecond
    split at hcaught
    · rfl
    · exact hcaught
  obtain ⟨status, hstatus⟩ := job.status_val
  obtain ⟨loaded, hload, -, -, hinventory, -⟩ := Values.loadJob_of_named hnamed hstatus
  refine ⟨loaded, hload, ?_⟩
  unfold Values.revision Values.count Values.int Values.get
  rw [hinventory (.int .revision) (by decide +kernel)]

/-- A candidate changes no row of another job, whether or not its save raises. -/
theorem sameRows_saveImported (hjob : job.Durable) {other : String} (h : other ≠ job.id) :
    (∀ result next, saveImported job database = .ok result next → database.SameRows next other) ∧
      ∀ error next, saveImported job database = .error error next →
        database.SameRows next other := by
  constructor
  · intro result next hrun
    obtain ⟨haccepts, rfl⟩ := (saveImported_eq_ok_iff hjob).mp hrun
    exact Values.sameRows_saved h haccepts
  · intro error next hrun
    have hfirst : (database.save job.toDict).1 = next :=
      congrArg Prod.fst (saveImported_error hjob hrun)
    rw [← hfirst]
    exact Values.sameRows_runSave h

end AgentJob

/-! ### Claims of several jobs -/

/-- The two jobs claim nothing in common. -/
structure ClaimsApart (first second : AgentJob) : Prop where
  resources : ∀ resource ∈ first.values.reservedResources,
    resource ∉ second.values.reservedResources
  token : (first.values.text .deliveryClaimToken).isSome →
    first.values.text .deliveryClaimToken ≠ second.values.text .deliveryClaimToken
  artifacts : ∀ held ∈ first.values.heldArtifacts, ∀ row ∈ second.values.heldArtifacts,
    held.reference ≠ row.reference

/-- The claims of the store without those of some jobs. -/
def Database.withoutJobs (database : Database) (jobIds : List String) : Database :=
  { database with
    reservations := database.reservations.filter (·.jobId ∉ jobIds)
    deliveryClaims := database.deliveryClaims.filter (·.jobId ∉ jobIds)
    artifacts := database.artifacts.filter (·.jobId ∉ jobIds) }

/-- The jobs can be saved one after the other: the tables take each of them, no two claim the same,
and none claims what a stored job holds that is not replaced before it. -/
structure SavesApart (database : Database) (jobs : List AgentJob) : Prop where
  storable : ∀ job ∈ jobs, job.values.InVocabulary ∧ job.values.InRange
  apart : jobs.Pairwise ClaimsApart
  unclaimed : ∀ earlier job later, jobs = earlier ++ job :: later →
    (database.withoutJobs (earlier.map (·.id))).Unclaimed job.values

omit [TextLibrary] in
theorem Values.mem_savedArtifacts {values : Values} {artifacts : List ArtifactRow}
    {row : ArtifactRow} :
    row ∈ values.savedArtifact .reviewArtifact .review
        (values.savedArtifact .planArtifact .plan artifacts) ↔
      row ∈ artifacts ∨ row ∈ values.heldArtifacts := by
  unfold Values.savedArtifact Values.heldArtifacts
  rcases hplan : values.heldArtifact .planArtifact .plan with planError | _ | plan <;>
    rcases hreview : values.heldArtifact .reviewArtifact .review with reviewError | _ | review <;>
    simp [hplan, hreview]

omit [TextLibrary] in
theorem Values.jobId_of_mem_heldArtifacts {values : Values} {row : ArtifactRow}
    (h : row ∈ values.heldArtifacts) : row.jobId = values.jobId := by
  have hheld : ∃ field kind, values.heldArtifact field kind = .ok (some row) := by
    unfold Values.heldArtifacts at h
    rcases List.mem_append.mp h with hmem | hmem
    all_goals
      dsimp only at hmem
      split at hmem
      · next held hrow =>
        obtain rfl := Option.mem_toList.mp hmem
        exact ⟨_, _, hrow⟩
      · exact absurd hmem List.not_mem_nil
  obtain ⟨field, kind, hrow⟩ := hheld
  exact jobId_heldArtifact hrow

/-- What a saved job holds is what another job must not claim. -/
theorem unclaimed_saved_iff {database : Database} {first second : AgentJob} {jobIds : List String}
    (hids : first.id ∉ jobIds) (hne : first.id ≠ second.id) :
    ((first.values.saved first.values.reservationRows database).withoutJobs jobIds).Unclaimed
        second.values ↔
      (database.withoutJobs (first.id :: jobIds)).Unclaimed second.values ∧
        ClaimsApart first second := by
  have hartifact : ∀ row ∈ first.values.heldArtifacts, row.jobId = first.id :=
    fun row hrow ↦ Values.jobId_of_mem_heldArtifacts hrow
  constructor
  · intro h
    refine ⟨⟨fun entry hentry hother ↦ ?_, fun claim hclaim hother ↦ ?_,
      fun artifact hmem hother ↦ ?_⟩, fun resource hown hother ↦ ?_, fun hsome ↦ ?_,
      fun held hheld row hrow ↦ ?_⟩
    · obtain ⟨hmem, hout⟩ := List.mem_filter.mp hentry
      simp only [List.mem_cons, not_or, decide_eq_true_eq] at hout
      refine h.resources entry (List.mem_filter.mpr ⟨?_, by simpa using hout.2⟩) hother
      exact List.mem_append_left _ (mem_discard.mpr ⟨hmem, hout.1⟩)
    · obtain ⟨hmem, hout⟩ := List.mem_filter.mp hclaim
      simp only [List.mem_cons, not_or, decide_eq_true_eq] at hout
      refine h.token claim (List.mem_filter.mpr ⟨?_, by simpa using hout.2⟩) hother
      exact List.mem_cons_of_mem _ (mem_discard.mpr ⟨hmem, hout.1⟩)
    · obtain ⟨hmem, hout⟩ := List.mem_filter.mp hmem
      simp only [List.mem_cons, not_or, decide_eq_true_eq] at hout
      refine h.artifacts artifact (List.mem_filter.mpr ⟨?_, by simpa using hout.2⟩) hother
      exact Values.mem_savedArtifacts.mpr (.inl (mem_discard.mpr ⟨hmem, hout.1⟩))
    · obtain ⟨row, hrow, rfl⟩ := List.mem_map.mp hown
      refine h.resources (Values.reservationEntry first.id row)
        (List.mem_filter.mpr ⟨?_, decide_eq_true hids⟩) hne hother
      exact List.mem_append_right _ (List.mem_map_of_mem hrow)
    · exact h.token first.values.deliveryClaimRow
        (List.mem_filter.mpr ⟨List.mem_cons_self, decide_eq_true hids⟩) hne hsome
    · refine h.artifacts held (List.mem_filter.mpr ⟨Values.mem_savedArtifacts.mpr (.inr hheld), ?_⟩)
        ?_ row hrow
      · simpa [hartifact held hheld] using hids
      · rw [hartifact held hheld]
        exact hne
  · rintro ⟨h, hresources, htoken, hartifacts⟩
    refine ⟨fun entry hentry hother ↦ ?_, fun claim hclaim hother ↦ ?_,
      fun artifact hmem hother ↦ ?_⟩
    · obtain ⟨hmem, hout⟩ := List.mem_filter.mp hentry
      rcases List.mem_append.mp hmem with hmem | hown
      · obtain ⟨hmem, hfirst⟩ := mem_discard.mp hmem
        refine h.resources entry (List.mem_filter.mpr ⟨hmem, ?_⟩) hother
        have hstored : entry.jobId ≠ first.id := hfirst
        simpa [hstored] using hout
      · obtain ⟨row, hrow, rfl⟩ := List.mem_map.mp hown
        exact hresources row.resource (List.mem_map_of_mem hrow)
    · obtain ⟨hmem, hout⟩ := List.mem_filter.mp hclaim
      rcases List.mem_cons.mp hmem with rfl | hmem
      · exact htoken
      · obtain ⟨hmem, hfirst⟩ := mem_discard.mp hmem
        refine h.token claim (List.mem_filter.mpr ⟨hmem, ?_⟩) hother
        have hstored : claim.jobId ≠ first.id := hfirst
        simpa [hstored] using hout
    · obtain ⟨hmem, hout⟩ := List.mem_filter.mp hmem
      rcases Values.mem_savedArtifacts.mp hmem with hmem | hown
      · obtain ⟨hmem, hfirst⟩ := mem_discard.mp hmem
        refine h.artifacts artifact (List.mem_filter.mpr ⟨hmem, ?_⟩) hother
        have hstored : artifact.jobId ≠ first.id := hfirst
        simpa [hstored] using hout
      · exact hartifacts artifact hown

omit [TextLibrary] in
theorem withoutJobs_nil (database : Database) : database.withoutJobs [] = database := by
  simp [Database.withoutJobs]

/-- The first of the jobs is accepted, and the rest can be saved after it. -/
theorem savesApart_cons_iff {database : Database} {job : AgentJob} {jobs : List AgentJob}
    (hids : ((job :: jobs).map (·.id)).Nodup) :
    SavesApart database (job :: jobs) ↔
      job.values.Accepts job.values.reservationRows database ∧
        SavesApart (job.values.saved job.values.reservationRows database) jobs := by
  have hhead : job.id ∉ jobs.map (·.id) := by
    rw [List.map_cons, List.nodup_cons] at hids
    exact hids.1
  have hearlier : ∀ {earlier later : List AgentJob} {other : AgentJob},
      jobs = earlier ++ other :: later → job.id ∉ earlier.map (·.id) ∧ job.id ≠ other.id := by
    rintro earlier later other rfl
    simp only [List.map_append, List.map_cons, List.mem_append, List.mem_cons, not_or] at hhead
    exact ⟨hhead.1, hhead.2.1⟩
  rw [job.accepts_iff]
  constructor
  · intro h
    obtain ⟨hvocabulary, hrange⟩ := h.storable job List.mem_cons_self
    have hunclaimed := h.unclaimed [] job jobs rfl
    rw [List.map_nil, withoutJobs_nil] at hunclaimed
    obtain ⟨hfirst, hrest⟩ := List.pairwise_cons.mp h.apart
    refine ⟨⟨hunclaimed, hvocabulary, hrange⟩,
      fun other hother ↦ h.storable other (List.mem_cons_of_mem _ hother), hrest, ?_⟩
    intro earlier other later hsplit
    obtain ⟨hids, hne⟩ := hearlier hsplit
    have hstored := h.unclaimed (job :: earlier) other later (by rw [hsplit]; rfl)
    have hother : other ∈ jobs := by simp [hsplit]
    exact (unclaimed_saved_iff hids hne).mpr ⟨hstored, hfirst other hother⟩
  · rintro ⟨⟨hunclaimed, hvocabulary, hrange⟩, h⟩
    refine ⟨?_, List.pairwise_cons.mpr ⟨fun other hother ↦ ?_, h.apart⟩, ?_⟩
    · intro other hother
      rcases List.mem_cons.mp hother with rfl | hother
      · exact ⟨hvocabulary, hrange⟩
      · exact h.storable other hother
    · obtain ⟨earlier, later, hsplit⟩ := List.append_of_mem hother
      obtain ⟨hids, hne⟩ := hearlier hsplit
      exact ((unclaimed_saved_iff hids hne).mp (h.unclaimed earlier other later hsplit)).2
    · intro earlier other later hsplit
      cases earlier with
      | nil =>
        cases hsplit
        rw [List.map_nil, withoutJobs_nil]
        exact hunclaimed
      | cons first earlier =>
        rw [List.cons_append, List.cons.injEq] at hsplit
        obtain ⟨rfl, hsplit⟩ := hsplit
        obtain ⟨hids, hne⟩ := hearlier hsplit
        exact ((unclaimed_saved_iff hids hne).mp (h.unclaimed earlier other later hsplit)).1

end

end VoiceHarness
