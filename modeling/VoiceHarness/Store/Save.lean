import VoiceHarness.Store.Database

/-!
# What a save does

`saved` is the store after `save_job`, and `Accepts` says when no statement of the save raises:
`runs_saveStatements_iff`. The reservations of the job are the given rows and nothing else; the rows
of other jobs are kept.
-/

set_option autoImplicit false
set_option relaxedAutoImplicit false

namespace VoiceHarness

open Library

theorem firstViolation_eq_none_iff {violations : List (Bool × StoreError)} :
    firstViolation violations = none ↔ ∀ violation ∈ violations, violation.1 = false := by
  simp [firstViolation]

namespace Values

variable (values : Values) (rows : List ReservationRow) (database : Database)

/-- The named rows after the save. -/
def savedNamed (named : List NamedRow) : List NamedRow :=
  values.savedPresence (namedTables.foldl values.savedTable named)

/-- The reservations after the save. -/
def savedReservations (reservations : List ReservationEntry) : List ReservationEntry :=
  discard ReservationEntry.jobId reservations values.jobId ++
    rows.map (reservationEntry values.jobId)

/-- The store after the save. -/
def saved : Database :=
  { database with
    jobs := upsert JobRow.jobId database.jobs values.jobRow
    named := values.savedNamed database.named
    reservations := values.savedReservations rows database.reservations
    deliveryClaims := values.deliveryClaimRow ::
      discard DeliveryClaimRow.jobId database.deliveryClaims values.jobId
    workerClaims := values.savedWorkerClaims
      (discard WorkerClaimRow.jobId database.workerClaims values.jobId)
    artifacts := values.savedArtifact .reviewArtifact .review
      (values.savedArtifact .planArtifact .plan
        (discard ArtifactRow.jobId database.artifacts values.jobId)) }

/-- No statement of the save raises. -/
structure Accepts : Prop where
  core : firstViolation values.coreViolations = none
  fields : values.unknownFields = []
  tables : ∀ fields ∈ namedTables, firstViolation (values.tableViolations fields) = none
  distinct : (rows.map (·.resource)).Nodup
  free : ∀ row ∈ rows, ∀ entry ∈ discard ReservationEntry.jobId database.reservations values.jobId,
    entry.resource ≠ row.resource
  delivery : firstViolation (deliveryViolations values.deliveryClaimRow
    (discard DeliveryClaimRow.jobId database.deliveryClaims values.jobId)) = none
  worker : values.workerViolation = none
  plan : values.artifactViolation .planArtifact .plan
    (discard ArtifactRow.jobId database.artifacts values.jobId) = none
  review : values.artifactViolation .reviewArtifact .review
    (values.savedArtifact .planArtifact .plan
      (discard ArtifactRow.jobId database.artifacts values.jobId)) = none

variable {values rows database}

theorem runs_saveTables {tables : List (List Field)} {statements : List SaveStatement}
    {next : Database} :
    Runs (tables.map values.saveTable ++ statements) database next ↔
      (∀ fields ∈ tables, firstViolation (values.tableViolations fields) = none) ∧
        Runs statements { database with named := tables.foldl values.savedTable database.named }
          next := by
  induction tables generalizing database with
  | nil => simp
  | cons fields tables ih =>
    rw [List.map_cons, List.cons_append, saveTable, runs_guarded_cons, ih, List.forall_mem_cons,
      and_assoc]
    rfl

theorem runs_insertReservations {jobId : String} {statements : List SaveStatement}
    {next : Database} :
    Runs (rows.map (insertReservation jobId) ++ statements) database next ↔
      ((rows.map (·.resource)).Nodup ∧
        ∀ row ∈ rows, ∀ entry ∈ database.reservations, entry.resource ≠ row.resource) ∧
      Runs statements
        { database with
          reservations := database.reservations ++ rows.map (reservationEntry jobId) } next := by
  induction rows generalizing database with
  | nil => simp
  | cons row rows ih =>
    rw [List.map_cons, List.cons_append, insertReservation, runs_guarded_cons, ih,
      firstViolation_eq_none_iff]
    have hentries : database.reservations ++ (row :: rows).map (reservationEntry jobId) =
        (database.reservations ++ [reservationEntry jobId row]) ++
          rows.map (reservationEntry jobId) := by simp
    rw [hentries, List.map_cons, List.nodup_cons]
    constructor
    · rintro ⟨hfree, ⟨hnodup, hrows⟩, hruns⟩
      have hrow : ∀ entry ∈ database.reservations, entry.resource ≠ row.resource := by
        simpa using hfree
      refine ⟨⟨⟨fun hmem ↦ ?_, hnodup⟩, ?_⟩, hruns⟩
      · obtain ⟨other, hother, heq⟩ := List.mem_map.mp hmem
        exact hrows other hother (reservationEntry jobId row) (by simp) heq.symm
      · intro other hother entry hentry
        rcases List.mem_cons.mp hother with rfl | hother
        · exact hrow entry hentry
        · exact hrows other hother entry (List.mem_append_left _ hentry)
    · rintro ⟨⟨⟨hnew, hnodup⟩, hrows⟩, hruns⟩
      refine ⟨by simpa using hrows row List.mem_cons_self, ⟨hnodup, ?_⟩, hruns⟩
      intro other hother entry hentry
      rcases List.mem_append.mp hentry with hentry | hentry
      · exact hrows other (List.mem_cons_of_mem _ hother) entry hentry
      · obtain rfl := List.mem_singleton.mp hentry
        intro heq
        exact hnew (List.mem_map.mpr ⟨other, hother, heq.symm⟩)

theorem runs_namedStatements {statements : List SaveStatement} {next : Database} :
    Runs (values.saveJobCore :: (values.namedStatements ++ statements)) database next ↔
      (firstViolation values.coreViolations = none ∧ values.unknownFields = [] ∧
        ∀ fields ∈ namedTables, firstViolation (values.tableViolations fields) = none) ∧
      Runs statements
        { database with
          jobs := upsert JobRow.jobId database.jobs values.jobRow
          named := values.savedNamed database.named } next := by
  have hfields : ∀ error : StoreError,
      (if values.unknownFields = [] then none else some error) = none ↔
        values.unknownFields = [] := fun error ↦ by simp
  rw [namedStatements, List.append_assoc, List.append_assoc, List.singleton_append,
    List.singleton_append, saveJobCore, runs_guarded_cons, checkInventory, runs_guarded_cons,
    hfields, runs_saveTables, savePresence, runs_guarded_cons, and_assoc, and_assoc]
  simp only [id, true_and]
  rfl

/-- What the statements after the named state need. -/
def ClaimsAccepted (values : Values) (rows : List ReservationRow) (database : Database) : Prop :=
  ((rows.map (·.resource)).Nodup ∧
    ∀ row ∈ rows, ∀ entry ∈ discard ReservationEntry.jobId database.reservations values.jobId,
      entry.resource ≠ row.resource) ∧
  firstViolation (deliveryViolations values.deliveryClaimRow
    (discard DeliveryClaimRow.jobId database.deliveryClaims values.jobId)) = none ∧
  values.workerViolation = none ∧
  values.artifactViolation .planArtifact .plan
    (discard ArtifactRow.jobId database.artifacts values.jobId) = none ∧
  values.artifactViolation .reviewArtifact .review
    (values.savedArtifact .planArtifact .plan
      (discard ArtifactRow.jobId database.artifacts values.jobId)) = none

theorem runs_claimStatements {next : Database} :
    Runs (values.claimStatements rows) database next ↔
      values.ClaimsAccepted rows database ∧
        next =
          { database with
            reservations := values.savedReservations rows database.reservations
            deliveryClaims := values.deliveryClaimRow ::
              discard DeliveryClaimRow.jobId database.deliveryClaims values.jobId
            workerClaims := values.savedWorkerClaims
              (discard WorkerClaimRow.jobId database.workerClaims values.jobId)
            artifacts := values.savedArtifact .reviewArtifact .review
              (values.savedArtifact .planArtifact .plan
                (discard ArtifactRow.jobId database.artifacts values.jobId)) } := by
  unfold claimStatements ClaimsAccepted
  rw [List.append_assoc, List.singleton_append, deleteReservations, runs_guarded_cons,
    runs_insertReservations]
  simp only [deleteDeliveryClaim, insertDeliveryClaim, deleteWorkerClaim, insertWorkerClaim,
    deleteArtifacts, insertArtifact, runs_guarded_cons, runs_nil, true_and, and_assoc]
  rfl

/-- The save runs to its end exactly when every constraint holds, and leaves `saved`. -/
theorem runs_saveStatements_iff {next : Database} :
    Runs (values.saveStatements rows) database next ↔
      values.Accepts rows database ∧ next = values.saved rows database := by
  rw [saveStatements, List.append_assoc, List.singleton_append, runs_namedStatements,
    runs_claimStatements]
  constructor
  · rintro ⟨⟨hcore, hfields, htables⟩, ⟨⟨hdistinct, hfree⟩, hdelivery, hworker, hplan, hreview⟩,
      rfl⟩
    exact ⟨⟨hcore, hfields, htables, hdistinct, hfree, hdelivery, hworker, hplan, hreview⟩, rfl⟩
  · rintro ⟨haccepts, rfl⟩
    exact ⟨⟨haccepts.core, haccepts.fields, haccepts.tables⟩,
      ⟨⟨haccepts.distinct, haccepts.free⟩, haccepts.delivery, haccepts.worker, haccepts.plan,
        haccepts.review⟩, rfl⟩

/-! ### Reading the saved job -/

/-- Two inserts for one job are one insert into the columns of both. -/
theorem namedRow_namedRow (first second : List Field) (row : Option NamedRow) :
    values.namedRow second (some (values.namedRow first row)) =
      values.namedRow (first ++ second) row := by
  unfold namedRow tableColumns
  simp only [Option.map_some, Option.getD_some, List.mem_append, NamedRow.mk.injEq, true_and,
    and_true]
  constructor
  · by_cases hsecond : .jobStatus .status ∈ second
    · simp [hsecond]
    · simp [hsecond]
  · funext field
    by_cases hsecond : field ∈ second
    · simp [hsecond]
    · simp [hsecond]

theorem findRow_savedTable (named : List NamedRow) (fields : List Field) :
    findRow NamedRow.jobId (values.savedTable named fields) values.jobId =
      some (values.namedRow fields (findRow NamedRow.jobId named values.jobId)) :=
  findRow_upsert_self named (values.namedRow fields _)

/-- The inserts into several tables are one insert into all their columns. -/
theorem findRow_savedTables (named : List NamedRow) {tables : List (List Field)}
    (h : tables ≠ []) :
    findRow NamedRow.jobId (tables.foldl values.savedTable named) values.jobId =
      some (values.namedRow tables.flatten (findRow NamedRow.jobId named values.jobId)) := by
  induction tables generalizing named with
  | nil => exact absurd rfl h
  | cons fields tables ih =>
    rw [List.foldl_cons, List.flatten_cons]
    by_cases htables : tables = []
    · subst htables
      rw [List.foldl_nil, findRow_savedTable, List.flatten_nil, List.append_nil]
    · rw [ih _ htables, findRow_savedTable, namedRow_namedRow]

/-- The named row of the saved job: every column holds the value of its field. -/
theorem findRow_savedNamed (named : List NamedRow) :
    findRow NamedRow.jobId (values.savedNamed named) values.jobId =
      some
        { values.namedRow inventory (findRow NamedRow.jobId named values.jobId) with
          presence := inventory.filter fun field ↦ (values field).isPresent } := by
  unfold savedNamed savedPresence
  rw [findRow_savedTables named (by decide)]
  refine (findRow_upsert_self _ _).trans ?_
  rw [namedRow_namedRow, List.append_nil]
  rfl

/-- A job that has a status is read back from the named rows of its save: the fields of the
inventory, the id and the schema version, and no other. -/
theorem loadJob_of_named {state : Database} {named : List NamedRow}
    (hnamed : state.named = values.savedNamed named) {status : JobStatus}
    (hstatus : values (.jobStatus .status) = .val status) :
    ∃ loaded, state.loadJob values.jobId = .ok loaded ∧
      loaded (.text .id) = .val values.jobId ∧
      loaded (.int .schemaVersion) = .val currentSchemaVersion ∧
      (∀ field ∈ inventory, loaded field = values field) ∧
      ∀ field, field ∉ .text .id :: .int .schemaVersion :: inventory → loaded field = .absent := by
  have hcolumn : Field.jobStatus .status ∈ inventory := by decide +kernel
  have hkind : values.status = status := by
    unfold Values.status get
    rw [hstatus]
    rfl
  have hread : modelValue (.jobStatus .status)
      (databaseCell (.jobStatus .status) (values (.jobStatus .status))) = some status := by
    rw [hstatus]
    exact modelValue_databaseValue (.jobStatus .status) status
  have hversion : Field.int .schemaVersion ∉ inventory := by decide +kernel
  unfold Database.loadJob
  simp only [hnamed, findRow_savedNamed, namedRow, tableColumns, if_pos hcolumn, hread, hkind,
    ne_eq, not_true_eq_false, if_false]
  refine ⟨_, rfl, ?_, ?_, ?_, ?_⟩
  · have hid : Field.text .id ∉ inventory := by decide +kernel
    have hne : Field.text .id ≠ .int .schemaVersion := by decide
    rw [update_map, if_neg hid, set_of_ne _ _ hne, set_self]
  · rw [update_map, if_neg hversion, set_self]
  · intro field hfield
    rw [update_map, if_pos hfield, if_pos hfield]
    have hpresent : decide (field ∈ inventory.filter fun field ↦ (values field).isPresent) =
        (values field).isPresent := by
      simp [List.mem_filter, hfield]
    rw [hpresent, modelCell_databaseCell]
  · intro field hfield
    rw [List.mem_cons, List.mem_cons, not_or, not_or] at hfield
    rw [update_map, if_neg hfield.2.2, set_of_ne _ _ hfield.2.1, set_of_ne _ _ hfield.1]
    rfl

/-! ### What a save leaves of other jobs -/

end Values

/-- The rows of a job are the same in both stores. -/
structure Database.SameRows (first second : Database) (jobId : String) : Prop where
  jobs : second.jobs.filter (·.jobId = jobId) = first.jobs.filter (·.jobId = jobId)
  named : second.named.filter (·.jobId = jobId) = first.named.filter (·.jobId = jobId)
  reservations : second.reservations.filter (·.jobId = jobId) =
    first.reservations.filter (·.jobId = jobId)
  deliveryClaims : second.deliveryClaims.filter (·.jobId = jobId) =
    first.deliveryClaims.filter (·.jobId = jobId)
  workerClaims : second.workerClaims.filter (·.jobId = jobId) =
    first.workerClaims.filter (·.jobId = jobId)
  artifacts : second.artifacts.filter (·.jobId = jobId) =
    first.artifacts.filter (·.jobId = jobId)

namespace Database.SameRows

variable {first second third : Database} {jobId : String}

theorem refl (database : Database) (jobId : String) : database.SameRows database jobId :=
  ⟨rfl, rfl, rfl, rfl, rfl, rfl⟩

theorem trans (h : first.SameRows second jobId) (hthird : second.SameRows third jobId) :
    first.SameRows third jobId :=
  ⟨hthird.jobs.trans h.jobs, hthird.named.trans h.named,
    hthird.reservations.trans h.reservations, hthird.deliveryClaims.trans h.deliveryClaims,
    hthird.workerClaims.trans h.workerClaims, hthird.artifacts.trans h.artifacts⟩

theorem symm (h : first.SameRows second jobId) : second.SameRows first jobId :=
  ⟨h.jobs.symm, h.named.symm, h.reservations.symm, h.deliveryClaims.symm, h.workerClaims.symm,
    h.artifacts.symm⟩

/-- What is read of a job depends on its rows only. -/
theorem loadJob_eq (h : first.SameRows second jobId) :
    second.loadJob jobId = first.loadJob jobId := by
  have hnamed : findRow NamedRow.jobId second.named jobId =
      findRow NamedRow.jobId first.named jobId := by
    rw [findRow_eq_head?, findRow_eq_head?, h.named]
  have hjobs : findRow JobRow.jobId second.jobs jobId = findRow JobRow.jobId first.jobs jobId := by
    rw [findRow_eq_head?, findRow_eq_head?, h.jobs]
  unfold Database.loadJob
  rw [hnamed, hjobs]

end Database.SameRows

namespace Values

variable {values : Values} {rows : List ReservationRow} {database : Database} {other : String}

theorem jobId_heldArtifact {field : TextField} {kind : ArtifactKind} {row : ArtifactRow}
    (h : values.heldArtifact field kind = .ok (some row)) : row.jobId = values.jobId := by
  unfold heldArtifact at h
  split at h
  · cases h
  · unfold artifactRow at h
    split at h
    · split at h
      · cases h
      · cases h
        rfl
    · cases h

theorem filter_savedArtifact_of_ne (field : TextField) (kind : ArtifactKind)
    (artifacts : List ArtifactRow) (h : other ≠ values.jobId) :
    (values.savedArtifact field kind artifacts).filter (·.jobId = other) =
      artifacts.filter (·.jobId = other) := by
  unfold savedArtifact
  split
  · rename_i row hrow
    have hne : ¬ row.jobId = other := fun heq ↦ h (heq.symm.trans (jobId_heldArtifact hrow))
    simp [List.filter_append, hne]
  · rfl
  · rfl

/-- Each statement of a save writes rows of its own job only. -/
theorem sameRows_saveStatement (h : other ≠ values.jobId) :
    ∀ statement ∈ values.saveStatements rows, ∀ state next : Database,
      statement state = .ok next → state.SameRows next other := by
  have hne : ¬ values.jobId = other := fun heq ↦ h heq.symm
  intro statement hmem state next hrun
  simp only [saveStatements, namedStatements, claimStatements, List.mem_append, List.mem_cons,
    List.not_mem_nil, or_false, List.mem_map] at hmem
  rcases hmem with (rfl | (rfl | ⟨fields, -, rfl⟩) | rfl) |
    (rfl | ⟨row, -, rfl⟩) | rfl | rfl | rfl | rfl | rfl | rfl | rfl <;>
    obtain ⟨-, rfl⟩ := guarded_eq_ok_iff.mp hrun
  · exact ⟨filter_upsert_of_ne _ h, rfl, rfl, rfl, rfl, rfl⟩
  · exact .refl _ _
  · exact ⟨rfl, filter_upsert_of_ne _ h, rfl, rfl, rfl, rfl⟩
  · exact ⟨rfl, filter_upsert_of_ne _ h, rfl, rfl, rfl, rfl⟩
  · exact ⟨rfl, rfl, filter_discard_of_ne _ h, rfl, rfl, rfl⟩
  · refine ⟨rfl, rfl, ?_, rfl, rfl, rfl⟩
    simp [List.filter_append, reservationEntry, hne]
  · exact ⟨rfl, rfl, rfl, filter_discard_of_ne _ h, rfl, rfl⟩
  · refine ⟨rfl, rfl, rfl, List.filter_cons_of_neg ?_, rfl, rfl⟩
    simp [deliveryClaimRow, hne]
  · exact ⟨rfl, rfl, rfl, rfl, filter_discard_of_ne _ h, rfl⟩
  · refine ⟨rfl, rfl, rfl, rfl, ?_, rfl⟩
    unfold savedWorkerClaims
    split_ifs
    · refine List.filter_cons_of_neg ?_
      simp [workerClaimRow, hne]
    · rfl
  · exact ⟨rfl, rfl, rfl, rfl, rfl, filter_discard_of_ne _ h⟩
  · exact ⟨rfl, rfl, rfl, rfl, rfl, filter_savedArtifact_of_ne _ _ _ h⟩
  · exact ⟨rfl, rfl, rfl, rfl, rfl, filter_savedArtifact_of_ne _ _ _ h⟩

/-- What a save leaves of another job, whether or not it raised. -/
theorem sameRows_runSave (h : other ≠ values.jobId) :
    database.SameRows (runStatements (values.saveStatements rows) database).1 other :=
  runStatements_invariant (P := fun state ↦ database.SameRows state other)
    (fun statement hmem state next hstate hrun ↦
      hstate.trans (sameRows_saveStatement h statement hmem state next hrun))
    (.refl database other)

theorem sameRows_saved (h : other ≠ values.jobId) (haccepts : values.Accepts rows database) :
    database.SameRows (values.saved rows database) other := by
  have hruns := runs_saveStatements_iff.mpr ⟨haccepts, rfl⟩
  have hsame : database.SameRows (runStatements (values.saveStatements rows) database).1 other :=
    sameRows_runSave h
  rw [hruns] at hsame
  exact hsame

/-- The reservations of the saved job are the given ones. -/
theorem filter_savedReservations_self (entries : List ReservationEntry) :
    (values.savedReservations rows entries).filter (·.jobId = values.jobId) =
      rows.map (reservationEntry values.jobId) := by
  have hothers : (discard ReservationEntry.jobId entries values.jobId).filter
      (·.jobId = values.jobId) = [] := by
    rw [List.filter_eq_nil_iff]
    intro entry hentry
    simpa using (mem_discard.mp hentry).2
  have hown : (rows.map (reservationEntry values.jobId)).filter (·.jobId = values.jobId) =
      rows.map (reservationEntry values.jobId) := by
    rw [List.filter_eq_self]
    intro entry hentry
    obtain ⟨row, -, rfl⟩ := List.mem_map.mp hentry
    simp [reservationEntry]
  rw [savedReservations, List.filter_append, hothers, hown, List.nil_append]

/-! ### What a save that raises has written -/

/-- No statement of the claims writes a core row or a named row. -/
theorem named_claimStatement {state next : Database} :
    ∀ statement ∈ values.claimStatements rows, statement state = .ok next →
      next.named = state.named := by
  intro statement hmem hrun
  simp only [claimStatements, List.mem_append, List.mem_cons, List.not_mem_nil, or_false,
    List.mem_map] at hmem
  rcases hmem with (rfl | ⟨row, -, rfl⟩) | rfl | rfl | rfl | rfl | rfl | rfl | rfl <;>
    obtain ⟨-, rfl⟩ := guarded_eq_ok_iff.mp hrun <;> rfl

/-- A save that is not refused before the claims has written the named rows, whatever it raises
after them. -/
theorem named_runSave {P : StoreError → Prop}
    (hraises : ∀ statement ∈ values.saveJobCore :: values.namedStatements,
      ∀ (state : Database) error, statement state = .error error → ¬ P error)
    (herror : ∀ error, (runStatements (values.saveStatements rows) database).2 = some error →
      P error) :
    (runStatements (values.saveStatements rows) database).1.named =
      values.savedNamed database.named := by
  have hsplit : values.saveStatements rows =
      (values.saveJobCore :: values.namedStatements) ++ values.claimStatements rows := by
    rw [saveStatements, List.singleton_append]
  rw [hsplit, runStatements_append] at herror ⊢
  rcases hrun : runStatements (values.saveJobCore :: values.namedStatements) database with
    ⟨middle, _ | error⟩
  · have hmiddle : Runs (values.saveJobCore :: (values.namedStatements ++ [])) database middle := by
      rw [List.append_nil]
      exact hrun
    obtain ⟨-, hnext⟩ := runs_namedStatements.mp hmiddle
    rw [runs_nil] at hnext
    have hkeep : ∀ statement ∈ values.claimStatements rows, ∀ state next : Database,
        state.named = values.savedNamed database.named → statement state = .ok next →
          next.named = values.savedNamed database.named :=
      fun statement hmem state next hstate hstep ↦
        (named_claimStatement statement hmem hstep).trans hstate
    refine runStatements_invariant
      (P := fun state : Database ↦ state.named = values.savedNamed database.named) hkeep ?_
    rw [hnext]
  · rw [hrun] at herror
    exact absurd (herror error rfl) (runStatements_error (Q := fun error ↦ ¬ P error) hraises hrun)

end Values

end VoiceHarness
