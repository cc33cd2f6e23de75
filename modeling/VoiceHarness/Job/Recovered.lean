import VoiceHarness.Job.Observed
import VoiceHarness.Job.Outcome

/-!
# The record of a recovery that keeps the status

`evolve_recovery` builds the next record in stages. For the changes of an observation the stages are
read off here: the changes are what the record holds, the session follows the target, the delivery is
prepared or stays, and everything else stays.
-/

set_option autoImplicit false
set_option relaxedAutoImplicit false

namespace VoiceHarness

namespace Values

/-- The fields the changes of an observation name. -/
def observationFields : List Field :=
  [.int .agentReconcileAttempts, .int .forkReconcileAttempts, .int .worktreeReconcileAttempts,
    .int .agentAbsentObservations, .int .forkAbsentObservations, .int .worktreeAbsentObservations,
    .float .agentLastReconciledAt, .float .forkLastReconciledAt, .float .worktreeLastReconciledAt,
    .float .agentNextReconcileAt, .float .forkNextReconcileAt, .float .worktreeNextReconcileAt,
    .float .agentConfirmedAbsentAt, .float .forkConfirmedAbsentAt, .float .worktreeConfirmedAbsentAt,
    .float .agentAutomaticReconcileStoppedAt, .float .forkAutomaticReconcileStoppedAt,
    .float .worktreeAutomaticReconcileStoppedAt, .operation .agentDispatchState,
    .operation .forkOperationState, .operation .worktreeProvisionState, .text .repository,
    .text .worktreeBranch, .text .worktreePath, .text .worktreeWorkspaceId,
    .text .worktreeRootPaneId, .text .agentOperationTarget, .text .agentOperationCheckout,
    .text .agentOperationWorkspaceId, .text .agentOperationPaneId, .text .agentProvider,
    .text .agentProviderSessionId, .int .agentStateSequence, .text .herdrTarget, .text .herdrPaneId,
    .text .herdrWorkspaceId, .text .agentName, .text .plannerTarget, .text .reviewerTarget,
    .text .implementerTarget, .participant .activeParticipant, .bool .agentDispatchExited,
    .text .manualReconcileOperation, .text .manualReconcileToken, .float .manualReconcileRequiredAt,
    .text .workerOperation, .bool .targetReleasePending, .bool .cancellationReconciliationPending,
    .text .targetReleaseToken, .int .targetReleaseOwnerPid, .text .targetReleaseOwnerBootId,
    .text .targetReleaseOwnerStart]

/-- The fields a recovery of a job that keeps its status writes besides its changes. -/
def recoveredFields : List Field :=
  [.bool .phasePromptActive, .text .sessionId, .text .reconciliationBaseError, .int .schemaVersion,
    .int .revision]

end Values

namespace AgentJob

variable {job : AgentJob}

/-- A job that ended has materialised its outcome. -/
theorem isMaterialized_of_isTerminal (h : job.values.status.isTerminal = true) :
    job.isMaterialized = true := by
  obtain ⟨⟨state, hstate⟩, -⟩ := exists_states job
  have hintent : job.values.terminalIntentStatus = none := by
    rcases hintent : job.values.terminalIntentStatus with _ | status
    · rfl
    · rw [(staged hintent).1] at h
      cases h
  obtain ⟨outcome, rfl⟩ := Values.materialized_of_terminal hstate hintent h
  unfold isMaterialized
  rw [hstate]
  rfl

/-- A recovery that keeps the status writes no text of the outcome, and prepares no delivery for it. -/
theorem recoveryTexts_status (values : Values) :
    (job.recoveryTexts values job.values.status).1.map Sigma.fst ⊆ [.text .reconciliationBaseError] ∧
      (job.recoveryTexts values job.values.status).2 = false := by
  unfold recoveryTexts
  extract_lets operation base
  cases hmaterialized : job.isMaterialized with
  | true =>
    rw [if_pos rfl]
    split_ifs <;> simp
  | false =>
    have hopen : ¬ job.values.status.isTerminal = true := by
      intro hterminal
      rw [isMaterialized_of_isTerminal hterminal] at hmaterialized
      cases hmaterialized
    have hfailed : job.values.status ≠ .failed := by
      intro hfailed
      exact hopen (by rw [hfailed]; rfl)
    rw [if_neg Bool.false_ne_true, if_neg fun h ↦ hopen h.1, if_neg hfailed]
    simp

theorem status_cell : job.values (.jobStatus .status) = .val job.values.status := by
  have hguard := job.presence ((job.values.get (.jobStatus .status)).isNone, "status has invalid value")
    (by simp [Values.presenceGuards])
  unfold Values.status
  rcases hcell : job.values (.jobStatus .status) with _ | _ | status
  · simp [Values.get, hcell] at hguard
  · simp [Values.get, hcell] at hguard
  · simp [Values.get, hcell]

/-- The record of a recovery before its status, its texts and its delivery. -/
def fencedRecord (job : AgentJob) (changes : List Change) : Values :=
  let changed := ((job.values.popAll []).update changes).pairWorkerOwnership
  let fenced := if (changed (.operation .promptOperationState)).isPresent then
    changed.popAll [.bool .phasePromptActive] else changed
  fenced.pairSession changes

section

variable {changes : List Change} {field : Field}

/-- An observation's changes reach that record; the session follows the target. -/
theorem fencedRecord_eq (field : Field) (hpaired : job.values.IsPaired)
    (hchanges : changes.map Sigma.fst ⊆ Values.observationFields) :
    (field ≠ .bool .phasePromptActive → field ≠ .text .sessionId →
      job.fencedRecord changes field = job.values.update changes field) ∧
    job.fencedRecord changes (.text .sessionId) =
      if mentions changes (.text .herdrTarget) = true then job.values.update changes (.text .herdrTarget)
      else job.values (.text .sessionId) := by
  have hunpaired : ((job.values.popAll []).update changes).pairWorkerOwnership = job.values.update changes :=
    (hpaired.of_agreeOff (Values.AgreeOff.update (.refl Values.observationFields _) hchanges)
      (by decide)).pairWorkerOwnership_eq
  have hsession : Field.text .sessionId ∉ changes.map Sigma.fst := by
    have hother : Field.text .sessionId ∉ Values.observationFields := by decide
    exact fun hmem ↦ hother (hchanges hmem)
  unfold fencedRecord
  extract_lets changed fenced
  have hfenced : ∀ field, field ≠ .bool .phasePromptActive →
      fenced field = job.values.update changes field := by
    intro field hfield
    rw [← hunpaired]
    unfold fenced
    split_ifs
    · exact Values.popAll_of_notMem _ fun hmem ↦ hfield (List.mem_singleton.mp hmem)
    · rfl
  unfold Values.pairSession
  simp only [mentions_eq_false hsession, Bool.false_and, Bool.not_false, Bool.and_true,
    Bool.false_eq_true, if_false]
  constructor
  · intro hactive hother
    split_ifs
    · rw [Values.set_of_ne _ _ hother, hfenced field hactive]
    · exact hfenced field hactive
  · split_ifs
    · rw [Values.set_self, hfenced _ (by decide)]
    · rw [hfenced _ (by decide), Values.update_of_notMem _ hsession]

/-- A recovery that keeps the status writes a text, the stamp and the delivery after that. -/
theorem recoveredRecord_fenced (hpaired : job.values.IsPaired)
    (hchanges : changes.map Sigma.fst ⊆ Values.observationFields) (now : Time) (prepareDelivery : Bool)
    (hfield : field ∉ [Field.text .reconciliationBaseError, .int .schemaVersion, .int .revision])
    (hdelivery : prepareDelivery = true → field ∉ .float .updatedAt :: Values.deliveryFields) :
    job.recoveredRecord changes now none [] prepareDelivery field = job.fencedRecord changes field := by
  have houtcome : ∀ kept ∈ [Field.jobStatus .status, .text .result, .text .error, .float .completedAt],
      job.fencedRecord changes kept = job.values kept := by
    have hother : ∀ kept ∈ [Field.jobStatus .status, .text .result, .text .error, .float .completedAt],
        kept ∉ Values.observationFields ∧ kept ≠ .bool .phasePromptActive ∧ kept ≠ .text .sessionId := by
      decide
    intro kept hkept
    obtain ⟨hnamed, hactive, hsession⟩ := hother kept hkept
    rw [(fencedRecord_eq _ hpaired hchanges).1 hactive hsession,
      Values.update_of_notMem _ fun hmem ↦ hnamed (hchanges hmem)]
  unfold recoveredRecord
  extract_lets changed fenced final values texts told kept delivered
  have hvalues : ∀ field, values field = job.fencedRecord changes field := by
    intro field
    by_cases hstatus : field = .jobStatus .status
    · subst hstatus
      rw [houtcome _ List.mem_cons_self, status_cell]
      exact Values.set_self _ _ _
    · have hother : field ∉ [Change.put (.jobStatus .status) (some final)].map Sigma.fst := by
        simpa using hstatus
      exact Values.update_of_notMem _ hother
  obtain ⟨htextFields, htextDelivery⟩ : texts.1.map Sigma.fst ⊆ _ ∧ texts.2 = false :=
    recoveryTexts_status values
  have htold : ∀ field ≠ .text .reconciliationBaseError,
      told field = job.fencedRecord changes field := by
    intro field hother
    have htexts : field ∉ texts.1.map Sigma.fst :=
      fun hmem ↦ hother (List.mem_singleton.mp (htextFields hmem))
    exact (Values.update_of_notMem values htexts).trans (hvalues field)
  have hkept : ∀ field ≠ .text .reconciliationBaseError,
      kept field = job.fencedRecord changes field := by
    intro field hother
    rw [← htold field hother]
    unfold kept
    split_ifs
    · unfold keepOutcome
      have hstored : ∀ kept ∈ [Field.jobStatus .status, .text .result, .text .error, .float .completedAt],
          told kept = job.values kept := by
        have hother : ∀ kept ∈ [Field.jobStatus .status, .text .result, .text .error,
            .float .completedAt], kept ≠ .text .reconciliationBaseError := by decide
        exact fun kept hmem ↦ (htold kept (hother kept hmem)).trans (houtcome kept hmem)
      have hcells : told.Holds [.put (.jobStatus .status) (some job.values.status),
          ⟨.text .result, job.values (.text .result)⟩, ⟨.text .error, job.values (.text .error)⟩,
          ⟨.float .completedAt, job.values (.float .completedAt)⟩] := by
        intro change hchange
        simp only [List.mem_cons, List.not_mem_nil, or_false] at hchange
        rcases hchange with rfl | rfl | rfl | rfl
        · exact (hstored (.jobStatus .status) (by decide)).trans status_cell
        · exact hstored (.text .result) (by decide)
        · exact hstored (.text .error) (by decide)
        · exact hstored (.float .completedAt) (by decide)
      rw [Values.update_eq_self hcells (by simp [Field.isOther])]
    · rfl
  simp only [List.mem_cons, List.not_mem_nil, or_false, not_or] at hfield
  have hdelivered : delivered field = job.fencedRecord changes field := by
    rw [← hkept field hfield.1]
    unfold delivered
    rw [htextDelivery, Bool.or_false]
    split_ifs with hprepare
    · refine Values.update_of_notMem _ fun hmem ↦ hdelivery hprepare ?_
      unfold preparedDelivery at hmem
      split at hmem
      next state _ =>
        rw [List.map_append, List.mem_append] at hmem
        rcases hmem with hmem | hmem
        · exact List.mem_cons_of_mem _ (DeliveryState.fields_subset _ hmem)
        · rw [List.mem_singleton.mp hmem]
          exact List.mem_cons_self
      next => exact absurd hmem List.not_mem_nil
    · rfl
  have hstamp : field ∉ [Change.put (.int .schemaVersion) (some currentSchemaVersion),
      .put (.int .revision) (some (job.values.revision + 1))].map Sigma.fst := by
    simp [hfield.2.1, hfield.2.2]
  rw [Values.update_of_notMem _ hstamp, hdelivered]

/-- The changes of an observation are what the next record holds. -/
theorem recoveredRecord_eq (hpaired : job.values.IsPaired)
    (hchanges : changes.map Sigma.fst ⊆ Values.observationFields) (now : Time) (prepareDelivery : Bool)
    (hfield : field ∉ Values.recoveredFields)
    (hdelivery : prepareDelivery = true → field ∉ .float .updatedAt :: Values.deliveryFields) :
    job.recoveredRecord changes now none [] prepareDelivery field = job.values.update changes field := by
  have hsubset : [Field.text .reconciliationBaseError, .int .schemaVersion, .int .revision] ⊆
      Values.recoveredFields := by decide
  have hne : ∀ other ∈ Values.recoveredFields, field ≠ other := by
    rintro other hother rfl
    exact hfield hother
  rw [recoveredRecord_fenced hpaired hchanges now prepareDelivery (fun hmem ↦ hfield (hsubset hmem))
    hdelivery]
  exact (fencedRecord_eq _ hpaired hchanges).1 (hne _ (by decide)) (hne _ (by decide))

end

end AgentJob

/-! ### The record of an observation -/

namespace AgentJob

section

variable {job : AgentJob} {changes : List Change} {now : Time} {prepareDelivery : Bool}

/-- The changes of an observation, as they are stored. -/
structure Observes (job : AgentJob) (changes : List Change) : Prop where
  fields : changes.map Sigma.fst ⊆ Values.observationFields
  nodup : (changes.map Sigma.fst).Nodup
  same : ∀ change ∈ changes, Values.isObserved change.1 = false → job.values change.1 = change.2

theorem recoveredRecord_change (hpaired : job.values.IsPaired) (h : job.Observes changes) {change : Change}
    (hchange : change ∈ changes) :
    job.recoveredRecord changes now none [] prepareDelivery change.1 = change.2 := by
  have hmem := h.fields (List.mem_map_of_mem hchange)
  have hrecovered : ∀ field ∈ Values.observationFields, field ∉ Values.recoveredFields := by decide
  have hdelivery : ∀ field ∈ Values.observationFields,
      field ∉ .float .updatedAt :: Values.deliveryFields := by decide
  rw [recoveredRecord_eq hpaired h.fields now prepareDelivery (hrecovered _ hmem)
    fun _ ↦ hdelivery _ hmem]
  exact Values.update_of_mem _ h.nodup hchange

theorem recoveredRecord_other (hpaired : job.values.IsPaired) (h : job.Observes changes) {field : Field}
    (hother : field ∉ changes.map Sigma.fst) (hrecovered : field ∉ Values.recoveredFields)
    (hdelivery : field ∉ .float .updatedAt :: Values.deliveryFields) :
    job.recoveredRecord changes now none [] prepareDelivery field = job.values field := by
  rw [recoveredRecord_eq hpaired h.fields now prepareDelivery hrecovered fun _ ↦ hdelivery]
  exact Values.update_of_notMem _ hother

theorem keepsUnobserved_recoveredRecord (hpaired : job.values.IsPaired) (h : job.Observes changes) :
    job.values.KeepsUnobserved (job.recoveredRecord changes now none [] prepareDelivery) := by
  intro field hfield
  have hrecovered : ∀ field ∈ Values.recoveredFields, Values.isObserved field = true := by decide
  have hdelivery : ∀ field ∈ Field.float .updatedAt :: Values.deliveryFields,
      Values.isObserved field = true := by decide
  have hnot : ∀ {fields : List Field}, (∀ field ∈ fields, Values.isObserved field = true) →
      field ∉ fields := by
    intro fields hfields hmem
    rw [hfields field hmem] at hfield
    cases hfield
  by_cases hmem : field ∈ changes.map Sigma.fst
  · obtain ⟨change, hchange, rfl⟩ := List.mem_map.mp hmem
    rw [recoveredRecord_change hpaired h hchange, h.same change hchange hfield]
  · exact recoveredRecord_other hpaired h hmem (hnot hrecovered) (hnot hdelivery)

theorem recoveredRecord_stamp (job : AgentJob) (changes : List Change) (now : Time)
    (prepareDelivery : Bool) :
    job.recoveredRecord changes now none [] prepareDelivery (.int .schemaVersion) =
        .val currentSchemaVersion ∧
      job.recoveredRecord changes now none [] prepareDelivery (.int .revision) =
        .val (job.values.revision + 1) := by
  unfold recoveredRecord
  extract_lets changed fenced final values texts told kept delivered
  have hne : Field.int .schemaVersion ≠ .int .revision := by decide
  exact ⟨(Values.set_of_ne _ _ hne).trans (Values.set_self _ _ _), Values.set_self _ _ _⟩

/-- The two names of the session stay paired. -/
theorem recoveredRecord_session [TextLibrary] (now : Time) (prepareDelivery : Bool)
    (hcanonical : job.values.IsCanonical)
    (hpaired : job.values.IsPaired) (h : job.Observes changes) :
    (((job.recoveredRecord changes now none [] prepareDelivery).text .sessionId).isSome →
      (job.recoveredRecord changes now none [] prepareDelivery (.text .herdrTarget)).isPresent) ∧
    (((job.recoveredRecord changes now none [] prepareDelivery).text .herdrTarget).isSome →
      (job.recoveredRecord changes now none [] prepareDelivery (.text .sessionId)).isPresent) := by
  have hdelivery : ∀ field ∈ [Field.text .sessionId, .text .herdrTarget],
      field ∉ [Field.text .reconciliationBaseError, .int .schemaVersion, .int .revision] ∧
        field ∉ .float .updatedAt :: Values.deliveryFields := by decide
  have hrecord : ∀ field ∈ [Field.text .sessionId, .text .herdrTarget],
      job.recoveredRecord changes now none [] prepareDelivery field = job.fencedRecord changes field := by
    intro field hfield
    obtain ⟨hstamp, hother⟩ := hdelivery field hfield
    exact recoveredRecord_fenced hpaired h.fields now prepareDelivery hstamp fun _ ↦ hother
  have htarget := (fencedRecord_eq (.text .herdrTarget) hpaired h.fields).1 (by decide) (by decide)
  have hsession := (fencedRecord_eq (.text .herdrTarget) hpaired h.fields).2
  unfold Values.text Values.get
  rw [hrecord _ List.mem_cons_self, hrecord (.text .herdrTarget) (by decide), htarget, hsession]
  by_cases hmentioned : mentions changes (.text .herdrTarget) = true
  · rw [if_pos hmentioned]
    have hpresent : ∀ cell : Cell String, cell.get?.isSome → cell.isPresent := by
      intro cell hsome
      cases cell with
      | absent => cases hsome
      | null => cases hsome
      | val value => rfl
    exact ⟨hpresent _, hpresent _⟩
  · rw [if_neg hmentioned]
    have hother : Field.text .herdrTarget ∉ changes.map Sigma.fst := by
      intro hmem
      obtain ⟨change, hchange, heq⟩ := List.mem_map.mp hmem
      exact hmentioned (List.any_eq_true.mpr ⟨change, hchange, decide_eq_true heq⟩)
    rw [Values.update_of_notMem _ hother]
    exact ⟨hcanonical.target, hcanonical.session⟩

/-- The delivery is prepared, or stays. -/
theorem recoveredRecord_delivery [TextLibrary] (now : Time) (prepareDelivery : Bool)
    (hcanonical : job.values.IsCanonical)
    (hpaired : job.values.IsPaired) (h : job.Observes changes) :
    (∃ state, (job.recoveredRecord changes now none [] prepareDelivery).deliveryState = .ok state) ∧
      (∀ guard ∈ (job.recoveredRecord changes now none [] prepareDelivery).deliveryGuards,
        guard.1 = false) ∧
      (∃ ack, job.recoveredRecord changes now none [] prepareDelivery .announcementAck = .val ack ∧
        ¬ ((job.recoveredRecord changes now none [] prepareDelivery).bool .delivered = true ∧
          ack = .pending)) ∧
      (job.recoveredRecord changes now none [] prepareDelivery (.bool .delivered)).isPresent = true := by
  cases prepareDelivery with
  | true =>
    have hholds : (job.recoveredRecord changes now none [] true).Holds
      (VoiceHarness.prepareDelivery job.delivery).fields := holds_recoveredRecord
    generalize job.recoveredRecord changes now none [] true = next at hholds ⊢
    have hput : ∀ {field : Field} {value : Option field.type},
        Change.put field value ∈ (VoiceHarness.prepareDelivery job.delivery).fields →
          next.get field = value := by
      intro field value hmem
      exact (hholds.get_eq hmem).trans (Cell.get?_ofOption value)
    have hack : next .announcementAck = .val .pending :=
      hholds (Change.put .announcementAck (some .pending)) (by
        simp [VoiceHarness.prepareDelivery, DeliveryState.fields, DeliveryState.announcement])
    have hdelivered : next (.bool .delivered) = .val false :=
      hholds (Change.put (.bool .delivered) (some false)) (by
        simp [VoiceHarness.prepareDelivery, DeliveryState.fields])
    have htoken : next.text .deliveryClaimToken = none :=
      hput (by simp [VoiceHarness.prepareDelivery, DeliveryState.fields])
    have hclaimedAt : next.float .deliveryClaimedAt = none :=
      hput (by simp [VoiceHarness.prepareDelivery, DeliveryState.fields])
    have hpending : next.announcementAck = .pending := by
      unfold Values.announcementAck Values.get
      rw [hack]
      rfl
    have hopen : next.bool .delivered = false := by
      unfold Values.bool Values.get
      rw [hdelivered]
      rfl
    refine ⟨⟨.pending (next.count .deliveryGeneration) ((next.float .deliveryRetryAt).getD 0)
      (next.count .deliveryAttempts)
      { acknowledgement := .pending, repeated := next.bool .announcementRepeated }, ?_⟩, ?_,
      ⟨.pending, hack, ?_⟩, ?_⟩
    · unfold Values.deliveryState
      rw [htoken, hclaimedAt, hpending, hopen]
      rfl
    · simp [Values.deliveryGuards, hpending, hopen, hclaimedAt, Values.hasText, htoken, truthy]
    · rw [hopen]
      exact fun h ↦ Bool.false_ne_true h.1
    · rw [hdelivered]
      rfl
  | false =>
    have hkept : ∀ field ∈ Values.deliveryFields,
        job.recoveredRecord changes now none [] false field = job.values field := by
      intro field hfield
      have hfields : ∀ field ∈ Values.deliveryFields,
          field ∉ Values.recoveredFields ∧ field ∉ Values.observationFields := by decide
      obtain ⟨hrecovered, hnamed⟩ := hfields field hfield
      rw [recoveredRecord_eq hpaired h.fields now false hrecovered (by simp)]
      exact Values.update_of_notMem _ fun hmem ↦ hnamed (h.fields hmem)
    generalize job.recoveredRecord changes now none [] false = next at hkept ⊢
    have hget : ∀ field ∈ Values.deliveryFields, next.get field = job.values.get field := by
      intro field hfield
      unfold Values.get
      rw [hkept field hfield]
    obtain ⟨ack, hack, hopen⟩ := hcanonical.acknowledged
    have hnextAck : next .announcementAck = .val ack := (hkept _ (by decide)).trans hack
    have hread : ∀ other : Values, other .announcementAck = .val ack → other.announcementAck = ack := by
      intro other hcell
      unfold Values.announcementAck Values.get
      rw [hcell]
      rfl
    have hdelivered : next.bool .delivered = job.values.bool .delivered := by
      unfold Values.bool
      rw [hget (.bool .delivered) (by decide)]
    have hrepeated : next.bool .announcementRepeated = job.values.bool .announcementRepeated := by
      unfold Values.bool
      rw [hget (.bool .announcementRepeated) (by decide)]
    have htoken : next.text .deliveryClaimToken = job.values.text .deliveryClaimToken :=
      hget (.text .deliveryClaimToken) (by decide)
    have hclaimedAt : next.float .deliveryClaimedAt = job.values.float .deliveryClaimedAt :=
      hget (.float .deliveryClaimedAt) (by decide)
    have hretryAt : next.float .deliveryRetryAt = job.values.float .deliveryRetryAt :=
      hget (.float .deliveryRetryAt) (by decide)
    have hdeliveredAt : next.float .deliveredAt = job.values.float .deliveredAt :=
      hget (.float .deliveredAt) (by decide)
    have hgeneration : next.int .deliveryGeneration = job.values.int .deliveryGeneration :=
      hget (.int .deliveryGeneration) (by decide)
    have hattempts : next.int .deliveryAttempts = job.values.int .deliveryAttempts :=
      hget (.int .deliveryAttempts) (by decide)
    have hmember : ∀ guard ∈ job.values.deliveryGuards, guard ∈ job.values.invariantGuards := by
      intro guard hguard
      simp [Values.invariantGuards, hguard]
    refine ⟨⟨job.delivery, ?_⟩, ?_, ⟨ack, hnextAck, ?_⟩, ?_⟩
    · rw [← deliveryState_eq]
      unfold Values.deliveryState Values.count
      rw [hdelivered, hgeneration, htoken, hclaimedAt, hretryAt, hattempts, hdeliveredAt,
        hread next hnextAck, hread job.values hack, hrepeated]
    · have hguards : next.deliveryGuards = job.values.deliveryGuards := by
        unfold Values.deliveryGuards Values.hasText
        simp only [hread next hnextAck, hread job.values hack, htoken, hclaimedAt, hdelivered]
      intro guard hguard
      exact job.invariant_guard (hmember guard (hguards ▸ hguard))
    · rw [hdelivered]
      exact hopen
    · rw [hkept (.bool .delivered) (by decide)]
      have hguard := job.presence (!(job.values (.bool .delivered)).isPresent, "job requires delivered")
        (by simp [Values.presenceGuards])
      simpa using hguard

end

end AgentJob

end VoiceHarness
