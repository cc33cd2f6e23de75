import VoiceHarness.Store.Artifacts
import VoiceHarness.Job.Runs

/-!
# Losslessness of a save

A valid job is saved and read back field by field exactly when nothing it claims is held by another
job, and when it is `Storable`: it has no field outside the inventory, its integers fit their
columns, and the claims tables take its delivery counters, its claim token and its tickets. The
checks of the model give all the other constraints of the tables.
-/

set_option autoImplicit false
set_option relaxedAutoImplicit false

namespace VoiceHarness

open Library

namespace Values

/-- The values that the checks of the model allow and the tables take. -/
structure InRange [TextLibrary] (values : Values) : Prop where
  integers : ∀ field, Field.int field ∈ inventory → (values.int field).all fitsInteger = true
  counters : 0 ≤ values.count .deliveryGeneration ∧ 0 ≤ values.count .deliveryAttempts
  token : values.text .deliveryClaimToken ≠ some ""
  tickets : values.ticketKeys.Nodup

/-- The artifact rows of a job. -/
def heldArtifacts (values : Values) : List ArtifactRow :=
  let held := fun (field : TextField) (kind : ArtifactKind) ↦
    match values.heldArtifact field kind with
    | .ok row => row.toList
    | .error _ => []
  held .planArtifact .plan ++ held .reviewArtifact .review

theorem unknownFields_eq_nil_iff (values : Values) :
    values.unknownFields = [] ↔ values.InVocabulary := by
  unfold unknownFields InVocabulary
  rw [List.filter_eq_nil_iff]
  constructor
  · intro h name
    by_cases hmem : name ∈ values.others
    · have hknown := h (.other name) (List.mem_append_right _ (List.mem_map_of_mem hmem))
      simp only [other_notMem_knownFields, not_false_eq_true, decide_true, Bool.and_true] at hknown
      cases hcell : values (.other name) with
      | absent => rfl
      | null =>
        rw [hcell] at hknown
        exact absurd rfl hknown
      | val value =>
        rw [hcell] at hknown
        exact absurd rfl hknown
    · exact values.absent_of_notMem name hmem
  · intro h field hfield
    rcases List.mem_append.mp hfield with hknown | hother
    · simp [hknown]
    · obtain ⟨name, -, rfl⟩ := List.mem_map.mp hother
      rw [h name]
      simp [Cell.isPresent]

/-- Only an integer column can refuse a value for its size, and a flag always fits. -/
theorem fits_databaseCell_iff (values : Values) (fields : List Field) :
    (∀ field ∈ fields, (databaseCell field (values field)).fits = true) ↔
      ∀ field, Field.int field ∈ fields → (values.int field).all fitsInteger = true := by
  have hint : ∀ field : IntField, (databaseCell (.int field) (values (.int field))).fits =
      (values.int field).all fitsInteger := by
    intro field
    unfold int get
    cases values (.int field) <;> rfl
  constructor
  · intro h field hfield
    rw [← hint]
    exact h _ hfield
  · intro h field hfield
    by_cases hisInt : ∃ index, field = .int index
    · obtain ⟨index, rfl⟩ := hisInt
      rw [hint]
      exact h index hfield
    · rcases hcell : values field with _ | _ | value
      · rfl
      · rfl
      · cases field with
        | int index => exact absurd ⟨index, rfl⟩ hisInt
        | bool _ => cases value <;> rfl
        | _ => rfl

theorem mem_reservedResources_iff [TextLibrary] (values : Values) {resource : Resource} :
    resource ∈ values.reservedResources ↔
      ∃ row ∈ values.reservationRows, row.resource = resource := List.mem_map

/-- A row whose token and time go together is one the table takes, unless its counters are negative,
its token is an empty text, or another row holds the token. -/
theorem delivery_accepted_iff {row : DeliveryClaimRow} {claims : List DeliveryClaimRow}
    (hgeneration : fitsInteger row.generation = true) (hattempts : fitsInteger row.attempts = true)
    (hpaired : truthy row.claimToken = row.claimedAt.isSome)
    (hdelivered : row.delivered = true → truthy row.claimToken = false) :
    firstViolation (deliveryViolations row claims) = none ↔
      (0 ≤ row.generation ∧ 0 ≤ row.attempts) ∧ row.claimToken ≠ some "" ∧
        ∀ claim ∈ claims, claim.claimToken.isSome = true → claim.claimToken ≠ row.claimToken := by
  obtain ⟨jobId, claimToken, claimedAt, generation, attempts, retryAt, delivered, deliveredAt⟩ := row
  rw [firstViolation_eq_none_iff]
  simp only [deliveryViolations, List.forall_mem_cons, List.not_mem_nil, false_imp_iff,
    implies_true, and_true, hgeneration, hattempts]
  cases claimToken with
  | none =>
    have hnone : claimedAt = none := by simpa [truthy] using hpaired.symm
    have hothers : ∀ claim ∈ claims, claim.claimToken.isSome = true → claim.claimToken ≠ none :=
      fun claim _ hsome ↦ Option.isSome_iff_ne_none.mp hsome
    simp only [hnone]
    simpa using fun _ _ ↦ hothers
  | some token =>
    by_cases hempty : token = ""
    · have hnone : claimedAt = none := by simpa [truthy, hempty] using hpaired.symm
      simp [hnone, hempty]
    · have hsome : claimedAt.isSome = true := by simpa [truthy, hempty] using hpaired.symm
      have hopen : delivered = false := by
        rcases delivered with _ | _
        · rfl
        · exact absurd (hdelivered rfl) (by simp [truthy, hempty])
      have hclaims : (∀ claim ∈ claims, claim.claimToken ≠ some token) ↔
          ∀ claim ∈ claims, claim.claimToken.isSome = true → claim.claimToken ≠ some token :=
        ⟨fun h claim hclaim _ ↦ h claim hclaim, fun h claim hclaim heq ↦
          h claim hclaim (heq ▸ rfl) heq⟩
      simp [hsome, hopen, hempty, hclaims]

/-- A row of a new key is refused only for its reference. -/
theorem artifact_fresh_iff {held : ArtifactRow} {rows : List ArtifactRow} (hround : held.round ≤ 2)
    (hkey : ∀ artifact ∈ rows, artifact.jobId = held.jobId → artifact.kind ≠ held.kind) :
    firstViolation (artifactViolations held rows) = none ↔
      ∀ artifact ∈ rows, artifact.reference ≠ held.reference := by
  have hbound : ¬ 2 < held.round := Nat.not_lt.mpr hround
  rw [firstViolation_eq_none_iff]
  simp only [artifactViolations, List.forall_mem_cons, List.not_mem_nil, false_imp_iff,
    implies_true, and_true, hbound, decide_false, List.any_eq_false, decide_eq_true_eq,
    Bool.and_eq_true, true_and, ne_eq, and_iff_left_iff_imp]
  exact fun _ artifact hmem h ↦ hkey artifact hmem h.1.1.1 h.1.1.2

end Values

namespace Database

/-- No other job of the store holds what the save claims for the job. -/
structure Unclaimed [TextLibrary] (database : Database) (values : Values) : Prop where
  resources : ∀ entry ∈ database.reservations, entry.jobId ≠ values.jobId →
    entry.resource ∉ values.reservedResources
  token : ∀ claim ∈ database.deliveryClaims, claim.jobId ≠ values.jobId →
    claim.claimToken.isSome = true → claim.claimToken ≠ values.text .deliveryClaimToken
  artifacts : ∀ artifact ∈ database.artifacts, artifact.jobId ≠ values.jobId →
    ∀ row ∈ values.heldArtifacts, artifact.reference ≠ row.reference

/-- The save of the job raises nothing, and the record read back has the fields and values of the
job, the schema version and the import-only fields aside. -/
def Persists [TextLibrary] (database : Database) (job : AgentJob) : Prop :=
  (database.save job.toDict).2 = none ∧
    ∃ loaded, (database.save job.toDict).1.loadJob job.id = .ok loaded ∧
      ∀ field, field ∉ importOnlyFields → loaded field = job.toDict field

end Database

namespace AgentJob

variable (job : AgentJob)

/-! ### What the checks of the model give -/

theorem workerGuards_false : ∀ guard ∈ job.values.workerGuards, guard.1 = false :=
  fun guard hguard ↦ job.invariant_guard (by simp [Values.invariantGuards, hguard])

theorem deliveryGuards_false : ∀ guard ∈ job.values.deliveryGuards, guard.1 = false :=
  fun guard hguard ↦ job.invariant_guard (by simp [Values.invariantGuards, hguard])

theorem workflowGuards_false : ∀ guard ∈ job.values.workflowGuards, guard.1 = false :=
  fun guard hguard ↦ job.invariant_guard (by simp [Values.invariantGuards, hguard])

theorem isJobId_id : isJobId job.values.jobId = true := by
  have hguard := job.presence _ List.mem_cons_self
  simpa using hguard

theorem status_val : ∃ status, job.values (.jobStatus .status) = .val status := by
  have hguard := job.presence
  simp only [Values.presenceGuards, List.forall_mem_cons] at hguard
  obtain ⟨-, -, -, hstatus, -⟩ := hguard
  unfold Values.get at hstatus
  rcases hcell : job.values (.jobStatus .status) with _ | _ | status
  · rw [hcell] at hstatus
    exact absurd hstatus (by simp)
  · rw [hcell] at hstatus
    exact absurd hstatus (by simp)
  · exact ⟨status, rfl⟩

theorem revision_nonneg : 0 ≤ job.values.revision := by
  have hguard := job.workerGuards_false
  simp only [Values.workerGuards, List.forall_mem_cons, decide_eq_false_iff_not] at hguard
  exact Int.not_lt.mp hguard.1

theorem reviewRound_bounds :
    0 ≤ job.values.count .reviewRound ∧ job.values.count .reviewRound ≤ 2 := by
  have hguard := job.workflowGuards_false
  simp only [Values.workflowGuards, List.forall_mem_cons, Bool.or_eq_false_iff,
    decide_eq_false_iff_not] at hguard
  exact ⟨Int.not_lt.mp hguard.1.1, Int.not_lt.mp hguard.1.2⟩

/-- The id of a job is the text its record holds. -/
theorem id_val : job.values (.text .id) = .val job.values.jobId := by
  have hid := job.isJobId_id
  unfold Values.jobId Values.textOrEmpty Values.text Values.get at hid ⊢
  rcases hcell : job.values (.text .id) with _ | _ | text
  · rw [hcell] at hid
    exact absurd hid (by decide)
  · rw [hcell] at hid
    exact absurd hid (by decide)
  · rfl

/-- A claim has a token and a time together, and a delivered job has none. -/
theorem delivery_claim :
    job.values.hasText .deliveryClaimToken = (job.values.float .deliveryClaimedAt).isSome ∧
      (job.values.bool .delivered = true → job.values.hasText .deliveryClaimToken = false) := by
  have hguard := job.deliveryGuards_false
  simp only [Values.deliveryGuards, List.forall_mem_cons, Bool.and_eq_false_iff] at hguard
  obtain ⟨hpaired, hdelivered, -⟩ := hguard
  refine ⟨by simpa using hpaired, fun h ↦ ?_⟩
  rw [h] at hdelivered
  simpa using hdelivered

/-- The worker claim is complete or there is none, and its process id is positive. -/
theorem worker_claim :
    (∀ pid ∈ job.values.int .workerPid, 0 < pid) ∧
      (true ∈ job.values.workerClaim → false ∉ job.values.workerClaim) := by
  have hguard := job.workerGuards_false
  simp only [Values.workerGuards, List.forall_mem_cons, Bool.and_eq_false_iff] at hguard
  obtain ⟨-, hpid, hclaim, -⟩ := hguard
  refine ⟨fun pid hmem ↦ ?_, fun hset hunset ↦ ?_⟩
  · rw [hmem, Option.any_some, decide_eq_false_iff_not] at hpid
    exact Int.not_le.mp hpid
  · rcases hclaim with hnone | hall
    · exact absurd (List.any_eq_false.mp hnone true hset) (by simp)
    · rw [Bool.not_eq_false', List.all_eq_true] at hall
      exact absurd (hall false hunset) (by simp)

/-- The worker claim of a valid job is one the table takes. -/
theorem workerViolation_eq_none
    (hfits : (job.values.int .workerPid).all fitsInteger = true) :
    job.values.workerViolation = none := by
  obtain ⟨hpid, hclaim⟩ := job.worker_claim
  unfold Values.workerViolation
  split_ifs
  · rw [firstViolation_eq_none_iff]
    simp only [Values.workerViolations, Values.workerClaimRow, List.forall_mem_cons,
      List.not_mem_nil, false_imp_iff, implies_true, and_true]
    constructor
    · rcases hvalue : job.values.int .workerPid with _ | pid
      · rfl
      · rw [hvalue] at hfits
        simpa using hfits
    · by_cases hset : true ∈ job.values.workerClaim
      · have hall := hclaim hset
        simp only [Values.workerClaim, List.mem_cons, not_or, eq_comm (a := false),
          Bool.not_eq_false] at hall
        obtain ⟨htoken, hsome, hboot, hstart, -⟩ := hall
        obtain ⟨pid, hvalue⟩ := Option.isSome_iff_exists.mp hsome
        simp [htoken, hboot, hstart, hvalue, hpid pid hvalue]
      · simp only [Values.workerClaim, List.mem_cons, not_or, eq_comm (a := true),
          Bool.not_eq_true, Option.isSome_eq_false_iff] at hset
        simp [hset]
  · rfl

/-- The two references of a valid job parse. -/
theorem artifact_ok :
    (∃ plan, job.values.artifact .planArtifact .plan = .ok plan) ∧
      ∃ review, job.values.artifact .reviewArtifact .review = .ok review := by
  have hcheck : parses job.values.reviewState ∈ job.values.adapterChecks := by
    simp [Values.adapterChecks]
  obtain ⟨state, hstate⟩ := parses_eq_ok_iff.mp (job.adapter_check hcheck)
  obtain ⟨plan, hplan, hstate⟩ := checked_bind_eq_ok_iff.mp hstate
  obtain ⟨review, hreview, -⟩ := checked_bind_eq_ok_iff.mp hstate
  exact ⟨⟨plan, hplan⟩, ⟨review, hreview⟩⟩

/-- A reference that parses has a row the table takes, or none. -/
theorem heldArtifact_ok {field : TextField} {kind : ArtifactKind}
    {reference : Option ArtifactReference} (h : job.values.artifact field kind = .ok reference) :
    ∃ row : Option ArtifactRow, job.values.heldArtifact field kind = .ok row ∧
      ∀ held ∈ row, held.round ≤ 2 ∧ held.jobId = job.values.jobId ∧ held.kind = kind ∧
        ∃ round, artifactRound? held.reference job.values.jobId kind = some round := by
  unfold Values.artifact at h
  unfold Values.heldArtifact
  rcases htext : job.values.text field with _ | text
  · exact ⟨none, rfl, by simp⟩
  · rw [htext] at h
    simp only at h
    unfold ArtifactReference.parse at h
    split at h
    · rename_i round hround
      obtain ⟨row, hrow, hheld⟩ := Values.artifactRow_of_round job.isJobId_id hround
      refine ⟨row, hrow, fun held hmem ↦ ?_⟩
      obtain ⟨hbound, hreference, hjob, hkind⟩ := hheld held hmem
      exact ⟨hbound, hjob, hkind, round, hreference ▸ hround⟩
    · exact absurd h (by simp [Functor.map, Except.map])

/-- The two references of a valid job are taken unless another row of the table has one of them. -/
theorem artifacts_accepted_iff {others : List ArtifactRow}
    (hothers : ∀ artifact ∈ others, artifact.jobId ≠ job.values.jobId) :
    job.values.artifactViolation .planArtifact .plan others = none ∧
        job.values.artifactViolation .reviewArtifact .review
          (job.values.savedArtifact .planArtifact .plan others) = none ↔
      ∀ artifact ∈ others, ∀ row ∈ job.values.heldArtifacts,
        artifact.reference ≠ row.reference := by
  obtain ⟨⟨planReference, hplanParsed⟩, reviewReference, hreviewParsed⟩ := job.artifact_ok
  obtain ⟨plan, hplan, hplanRow⟩ := job.heldArtifact_ok hplanParsed
  obtain ⟨review, hreview, hreviewRow⟩ := job.heldArtifact_ok hreviewParsed
  have hheld : job.values.heldArtifacts = plan.toList ++ review.toList := by
    unfold Values.heldArtifacts
    simp only [hplan, hreview]
  have hplanFresh : ∀ held ∈ plan, firstViolation (Values.artifactViolations held others) = none ↔
      ∀ artifact ∈ others, artifact.reference ≠ held.reference := fun held hmem ↦
    Values.artifact_fresh_iff (hplanRow held hmem).1 fun artifact hartifact hid _ ↦
      hothers artifact hartifact (hid.trans (hplanRow held hmem).2.1)
  unfold Values.artifactViolation Values.savedArtifact
  rw [hheld]
  simp only [hplan, hreview]
  cases review with
  | none =>
    cases plan with
    | none => simp
    | some held => simpa using hplanFresh held rfl
  | some reviewHeld =>
    obtain ⟨hround, hid, hkind, reviewRound, hreviewParses⟩ := hreviewRow reviewHeld rfl
    cases plan with
    | none =>
      have hreviewFresh : firstViolation (Values.artifactViolations reviewHeld others) = none ↔
          ∀ artifact ∈ others, artifact.reference ≠ reviewHeld.reference :=
        Values.artifact_fresh_iff hround fun artifact hartifact heq _ ↦
          hothers artifact hartifact (heq.trans hid)
      simpa using hreviewFresh
    | some planHeld =>
      obtain ⟨-, -, hplanKind, planRound, hplanParses⟩ := hplanRow planHeld rfl
      have hne : planHeld.reference ≠ reviewHeld.reference :=
        Values.plan_ne_review hplanParses hreviewParses
      have hreviewFresh : firstViolation
          (Values.artifactViolations reviewHeld (others ++ [planHeld])) = none ↔
            ∀ artifact ∈ others ++ [planHeld], artifact.reference ≠ reviewHeld.reference := by
        refine Values.artifact_fresh_iff hround ?_
        intro artifact hartifact heq hsame
        rcases List.mem_append.mp hartifact with hother | hown
        · exact hothers artifact hother (heq.trans hid)
        · obtain rfl := List.mem_singleton.mp hown
          rw [hplanKind, hkind] at hsame
          exact absurd hsame (by decide)
      have hplanHeld := hplanFresh planHeld rfl
      simp only [hplanHeld, hreviewFresh, Option.toList_some, List.cons_append, List.nil_append,
        List.forall_mem_append, List.forall_mem_cons, List.not_mem_nil, false_imp_iff, implies_true,
        and_true]
      exact ⟨fun h artifact hartifact ↦ ⟨h.1 artifact hartifact, h.2.1 artifact hartifact⟩,
        fun h ↦ ⟨fun artifact hartifact ↦ (h artifact hartifact).1,
          fun artifact hartifact ↦ (h artifact hartifact).2, hne⟩⟩

theorem reviewRound_any :
    (job.values.int .reviewRound).any (fun round ↦ round < 0 || 2 < round) = false := by
  obtain ⟨hlow, hhigh⟩ := job.reviewRound_bounds
  unfold Values.count at hlow hhigh
  rcases hvalue : job.values.int .reviewRound with _ | round
  · rfl
  · rw [hvalue] at hlow hhigh
    simpa using ⟨hlow, hhigh⟩

/-- The columns of the named tables take a valid job whose integers fit. -/
theorem tables_accepted_iff :
    (∀ fields ∈ namedTables, firstViolation (job.values.tableViolations fields) = none) ↔
      ∀ field, Field.int field ∈ inventory → (job.values.int field).all fitsInteger = true := by
  have hrevision : ¬ job.values.revision < 0 := Int.not_lt.mpr job.revision_nonneg
  rw [← Values.fits_databaseCell_iff]
  simp only [firstViolation_eq_none_iff, Values.tableViolations, List.forall_mem_cons,
    List.not_mem_nil, false_imp_iff, implies_true, and_true, hrevision, job.reviewRound_any,
    decide_false, Bool.and_false, List.any_eq_false, Bool.not_eq_true', Bool.not_eq_false, inventory,
    List.mem_flatten]
  exact ⟨fun h field ⟨fields, hfields, hfield⟩ ↦ h fields hfields field hfield,
    fun h fields hfields field hfield ↦ h field ⟨fields, hfields, hfield⟩⟩

theorem fitsInteger_count {values : Values} {field : IntField}
    (h : (values.int field).all fitsInteger = true) : fitsInteger (values.count field) = true := by
  unfold Values.count
  rcases hvalue : values.int field with _ | value
  · decide
  · rw [hvalue] at h
    exact h

/-- The core row of a valid job is taken when its revision fits. -/
theorem core_accepted (h : fitsInteger job.values.revision = true) :
    firstViolation job.values.coreViolations = none := by
  have hrevision : ¬ job.values.revision < 0 := Int.not_lt.mpr job.revision_nonneg
  rw [firstViolation_eq_none_iff]
  simp [Values.coreViolations, h, job.isJobId_id, hrevision]

/-- The delivery claim of a valid job whose integers fit is taken when its counters are not negative,
its token is not an empty text, and no other claim has the token. -/
theorem claim_accepted_iff {claims : List DeliveryClaimRow}
    (h : ∀ field, Field.int field ∈ inventory → (job.values.int field).all fitsInteger = true) :
    firstViolation (Values.deliveryViolations job.values.deliveryClaimRow claims) = none ↔
      (0 ≤ job.values.count .deliveryGeneration ∧ 0 ≤ job.values.count .deliveryAttempts) ∧
        job.values.text .deliveryClaimToken ≠ some "" ∧
        ∀ claim ∈ claims, claim.claimToken.isSome = true →
          claim.claimToken ≠ job.values.text .deliveryClaimToken :=
  Values.delivery_accepted_iff (fitsInteger_count (h .deliveryGeneration (by decide +kernel)))
    (fitsInteger_count (h .deliveryAttempts (by decide +kernel))) job.delivery_claim.1
    job.delivery_claim.2

/-- A valid job is accepted exactly when nothing it claims is held by another job, its fields are
those of the vocabulary, and its values are in range. -/
theorem accepts_iff [TextLibrary] {database : Database} :
    job.values.Accepts job.values.reservationRows database ↔
      database.Unclaimed job.values ∧ job.values.InVocabulary ∧ job.values.InRange := by
  have hothers : ∀ artifact ∈ discard ArtifactRow.jobId database.artifacts job.values.jobId,
      artifact.jobId ≠ job.values.jobId := fun artifact h ↦ (mem_discard.mp h).2
  constructor
  · intro haccepts
    have hintegers := job.tables_accepted_iff.mp haccepts.tables
    obtain ⟨hcounters, htoken, hclaims⟩ :=
      (job.claim_accepted_iff hintegers).mp haccepts.delivery
    have hartifacts := (job.artifacts_accepted_iff hothers).mp ⟨haccepts.plan, haccepts.review⟩
    refine ⟨⟨?_, ?_, ?_⟩, (Values.unknownFields_eq_nil_iff _).mp haccepts.fields, hintegers,
      hcounters, htoken, (Values.nodup_reservedResources_iff _).mp haccepts.distinct⟩
    · intro entry hentry hne hreserved
      obtain ⟨row, hrow, heq⟩ := List.mem_map.mp hreserved
      exact haccepts.free row hrow entry (mem_discard.mpr ⟨hentry, hne⟩) heq.symm
    · exact fun claim hclaim hne ↦ hclaims claim (mem_discard.mpr ⟨hclaim, hne⟩)
    · exact fun artifact hartifact hne ↦ hartifacts artifact (mem_discard.mpr ⟨hartifact, hne⟩)
  · rintro ⟨hunclaimed, hvocabulary, hrange⟩
    have hartifacts := (job.artifacts_accepted_iff hothers).mpr fun artifact hartifact ↦
      hunclaimed.artifacts artifact (mem_discard.mp hartifact).1 (mem_discard.mp hartifact).2
    refine ⟨job.core_accepted (fitsInteger_count (hrange.integers .revision (by decide +kernel))),
      (Values.unknownFields_eq_nil_iff _).mpr hvocabulary,
      job.tables_accepted_iff.mpr hrange.integers,
      (Values.nodup_reservedResources_iff _).mpr hrange.tickets, ?_, ?_,
      job.workerViolation_eq_none (hrange.integers .workerPid (by decide +kernel)), hartifacts.1,
      hartifacts.2⟩
    · intro row hrow entry hentry heq
      obtain ⟨hmem, hne⟩ := mem_discard.mp hentry
      exact hunclaimed.resources entry hmem hne (heq ▸ List.mem_map_of_mem hrow)
    · refine (job.claim_accepted_iff hrange.integers).mpr ⟨hrange.counters, hrange.token, ?_⟩
      intro claim hclaim
      obtain ⟨hmem, hne⟩ := mem_discard.mp hclaim
      exact hunclaimed.token claim hmem hne

/-- A valid job is saved without an exception, and read back as it was, exactly when it is
accepted. -/
theorem persists_iff [TextLibrary] {database : Database} :
    database.Persists job ↔
      database.Unclaimed job.values ∧ job.values.InVocabulary ∧ job.values.InRange := by
  rw [← job.accepts_iff]
  constructor
  · rintro ⟨hsaved, -⟩
    have hnone : (runStatements (job.values.saveStatements job.values.reservationRows)
        database).2 = none := Option.map_eq_none_iff.mp hsaved
    exact (Values.runs_saveStatements_iff.mp (runs_of_error_eq_none hnone)).1
  · intro haccepts
    have hruns := Values.runs_saveStatements_iff.mpr ⟨haccepts, rfl⟩
    have hvocabulary := (Values.unknownFields_eq_nil_iff _).mp haccepts.fields
    obtain ⟨status, hstatus⟩ := job.status_val
    obtain ⟨loaded, hload, hid, -, hinventory, hrest⟩ :=
      Values.loadJob_of_named
        (rfl : (job.values.saved job.values.reservationRows database).named = _) hstatus
    unfold Database.Persists Database.save toDict
    rw [hruns]
    refine ⟨rfl, loaded, hload, fun field hfield ↦ ?_⟩
    by_cases hname : ∃ name, field = .other name
    · obtain ⟨name, rfl⟩ := hname
      have hunknown : Field.other name ∉ .text .id :: .int .schemaVersion :: inventory := by
        have hknown := other_notMem_knownFields name
        simp only [knownFields, List.mem_append, not_or] at hknown
        simp [hknown.1.1]
      rw [hrest _ hunknown, hvocabulary name]
    · have hknown := mem_knownFields fun name heq ↦ hname ⟨name, heq⟩
      rcases List.mem_append.mp hknown with hknown | hprimary
      · exact hinventory field ((List.mem_append.mp hknown).resolve_right hfield)
      · obtain rfl := List.mem_singleton.mp hprimary
        rw [hid, job.id_val]

section

attribute [local instance] asciiTextLibrary

/-- A queued job. -/
def queuedSpec : NewAgentJob :=
  { id := "0123456789ab"
    request := "add a test"
    createdAt := 1
    foregroundUntil := 2
    harnessKind := .cursor
    details := Values.empty }

/-- The queued job has its id, and its values are in range. -/
theorem new_queuedSpec : ∃ job, new queuedSpec = .ok job ∧ job.id = "0123456789ab" ∧
    job.values.InRange := by
  have hjob : (new queuedSpec).toOption.any (fun job ↦
      decide (job.id = "0123456789ab") &&
        inventory.all (fun field ↦ (databaseCell field (job.values field)).fits) &&
        decide (0 ≤ job.values.count .deliveryGeneration) &&
        decide (0 ≤ job.values.count .deliveryAttempts) &&
        decide (job.values.text .deliveryClaimToken ≠ some "") &&
        decide job.values.ticketKeys.Nodup) = true := by decide +kernel
  rcases hnew : new queuedSpec with message | job
  · rw [hnew] at hjob
    exact absurd hjob (by simp [Except.toOption])
  · rw [hnew] at hjob
    simp only [Except.toOption, Option.any_some, Bool.and_eq_true, decide_eq_true_eq,
      List.all_eq_true] at hjob
    obtain ⟨⟨⟨⟨⟨hid, hfits⟩, hgeneration⟩, hattempts⟩, htoken⟩, htickets⟩ := hjob
    exact ⟨job, rfl, hid, (job.values.fits_databaseCell_iff inventory).mp hfits,
      ⟨hgeneration, hattempts⟩, htoken, htickets⟩

/-- A pane is planned, submitted and fenced, and the operator confirms that it is absent. -/
def absentPaneSteps : List JobStep :=
  [.evolve [.put .participantAdmissionState (some .held)] none [],
    .evolve
      [.put (.operation .participantCreationState) (some .planned),
        .put (.participant .participantCreationParticipant) (some .planner),
        .put (.text .participantCreationTarget) (some "voice-planner"),
        .put (.text .participantCreationLabel) (some "planner"),
        .put (.text .participantCreationWorkspaceId) (some "workspace"),
        .put (.text .participantCreationCheckout) (some "/repository")] none [],
    .evolve [.put (.operation .participantCreationState) (some .submitting)] none [],
    .evolveRecovery (.put (.operation .participantCreationState) (some .manualRequired) ::
      manualSlot .pane "token" 3) 3 none [] false,
    .resolve .pane .confirmedAbsent 4 none none []]

end

end AgentJob

end VoiceHarness
