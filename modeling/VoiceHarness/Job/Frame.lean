import VoiceHarness.Job.Evolve

/-!
# What the record builders leave alone

`AgreeOff fields` relates two records that agree outside a list of fields. `from_dict` writes the
fields of `canonicalFields` only, and an evolution or a recovery writes those its changes name
besides the ones of its own bookkeeping.
-/

set_option autoImplicit false
set_option relaxedAutoImplicit false

namespace VoiceHarness

namespace Values

/-- The second record agrees with the first outside the fields. -/
def AgreeOff (fields : List Field) (values other : Values) : Prop :=
  ∀ field, field ∉ fields → other field = values field

namespace AgreeOff

variable {fields : List Field} {values other : Values}

theorem refl (fields : List Field) (values : Values) : AgreeOff fields values values :=
  fun _ _ ↦ rfl

theorem trans {third : Values} (h : AgreeOff fields values other)
    (hthird : AgreeOff fields other third) : AgreeOff fields values third :=
  fun field hfield ↦ (hthird field hfield).trans (h field hfield)

theorem mono {more : List Field} (h : AgreeOff fields values other) (hsubset : fields ⊆ more) :
    AgreeOff more values other :=
  fun field hfield ↦ h field fun hmem ↦ hfield (hsubset hmem)

theorem set (h : AgreeOff fields values other) {field : Field} (hfield : field ∈ fields)
    (cell : Cell field.type) : AgreeOff fields values (other.set field cell) := by
  intro kept hkept
  have hne : kept ≠ field := fun heq ↦ hkept (heq ▸ hfield)
  rw [set_of_ne _ _ hne, h kept hkept]

theorem update (h : AgreeOff fields values other) {changes : List Change}
    (hchanges : changes.map Sigma.fst ⊆ fields) : AgreeOff fields values (other.update changes) :=
  fun kept hkept ↦ (update_of_notMem _ fun hmem ↦ hkept (hchanges hmem)).trans (h kept hkept)

theorem popAll (h : AgreeOff fields values other) {popped : List Field} (hpopped : popped ⊆ fields) :
    AgreeOff fields values (other.popAll popped) :=
  fun kept hkept ↦ (popAll_of_notMem _ fun hmem ↦ hkept (hpopped hmem)).trans (h kept hkept)

theorem setDefault (h : AgreeOff fields values other) {field : Field} (hfield : field ∈ fields)
    (value : Option field.type) : AgreeOff fields values (other.setDefault field value) := by
  unfold Values.setDefault
  split_ifs
  · exact h
  · exact h.set hfield _

end AgreeOff

/-! ### `from_dict` -/

section Canonical

variable [TextLibrary] {values result : Values}

/-- The fields of the session defaults. -/
def sessionFields : List Field := [.text .herdrTarget, .text .sessionId, .harnessKind]

/-- The fields of the provider, admission and session control defaults. -/
def currentFields : List Field :=
  [.text .issueProvider, .participantAdmissionState, .sessionControl,
    .int .sessionControlGeneration]

def announcementFields : List Field := [.announcementAck, .bool .announcementDismissed]

/-- The fields of the issue identity and of its creation. -/
def issueFields : List Field :=
  [.int .githubIssue, .text .githubIssueUrl, .int .githubIssueCreatedNumber,
    .text .githubIssueCreatedUrl]

def branchFields : List Field := [.text .worktreeBranch, .text .pullRequestBranch]

/-- The fields of the prompt defaults. -/
def promptFields : List Field :=
  [.operation .promptOperationState, .phase .promptOperationPhase, .int .promptOperationTurn,
    .text .promptOperationTarget, .int .promptBaselineSequence, .text .manualReconcileOperation,
    .text .manualReconcileToken, .float .manualReconcileRequiredAt,
    .operation .participantCreationState]

def collectionFields : List Field :=
  [.structured .clarifications, .targetReleaseUnverifiedTargets, .participantSessionOwners,
    .structured .promptContextSessions]

/-- The fields that the defaults and the canonical forms of `from_dict` write. -/
def canonicalFields : List Field :=
  [.text .herdrTarget, .text .sessionId, .harnessKind, .text .issueProvider,
    .participantAdmissionState, .sessionControl, .int .sessionControlGeneration, .announcementAck,
    .bool .announcementDismissed, .bool .reviewApproved, .int .githubIssue, .text .githubIssueUrl,
    .int .githubIssueCreatedNumber, .text .githubIssueCreatedUrl, .text .worktreeBranch,
    .text .pullRequestBranch, .int .schemaVersion, .operation .promptOperationState,
    .phase .promptOperationPhase, .int .promptOperationTurn, .text .promptOperationTarget,
    .int .promptBaselineSequence, .text .manualReconcileOperation, .text .manualReconcileToken,
    .float .manualReconcileRequiredAt, .operation .participantCreationState,
    .structured .clarifications, .targetReleaseUnverifiedTargets, .participantSessionOwners,
    .structured .promptContextSessions]

omit [TextLibrary] in
theorem agreeOff_sessionDefaults : AgreeOff sessionFields values values.sessionDefaults := by
  unfold sessionDefaults
  extract_lets flat kind
  have hflat : AgreeOff sessionFields values flat := by
    unfold flat
    split_ifs
    · exact (AgreeOff.refl _ _).setDefault (by decide) _
    · exact AgreeOff.refl _ _
  have hkind : AgreeOff sessionFields values kind := hflat.setDefault (by decide) _
  split_ifs
  · exact hkind.setDefault (by decide) _
  · exact hkind

omit [TextLibrary] in
theorem agreeOff_currentDefaults : AgreeOff currentFields values values.currentDefaults := by
  unfold currentDefaults
  exact ((((AgreeOff.refl _ _).setDefault (by decide) _).setDefault (by decide) _).setDefault
    (by decide) _).setDefault (by decide) _

omit [TextLibrary] in
theorem agreeOff_canonicalizeAnnouncementDismissal
    (h : values.canonicalizeAnnouncementDismissal = .ok result) :
    AgreeOff announcementFields values result := by
  have hpopped : ∀ other, AgreeOff announcementFields values other →
      AgreeOff announcementFields values (other.popAll [.bool .announcementDismissed]) :=
    fun other hother ↦ hother.popAll (by decide)
  unfold canonicalizeAnnouncementDismissal at h
  extract_lets dismissed mirrored popped at h
  rcases hack : values.get .announcementAck with _ | ack
  · rw [hack] at h
    cases h
    exact hpopped _ ((AgreeOff.refl _ _).set (by decide) _)
  · rw [hack] at h
    simp only at h
    split_ifs at h
    · cases h
      exact hpopped _ ((AgreeOff.refl _ _).set (by decide) _)
    · cases h
      exact hpopped _ (AgreeOff.refl _ _)

omit [TextLibrary] in
theorem agreeOff_canonicalizeReviewApproval
    (h : values.canonicalizeReviewApproval = .ok result) :
    AgreeOff [.bool .reviewApproved] values result := by
  have hpopped : AgreeOff [.bool .reviewApproved] values (values.popAll [.bool .reviewApproved]) :=
    (AgreeOff.refl _ _).popAll (by decide)
  unfold canonicalizeReviewApproval at h
  extract_lets approved at h
  split_ifs at h
  · cases h
    exact AgreeOff.refl _ _
  · cases h
    exact hpopped
  · cases h
    exact hpopped

theorem agreeOff_canonicalizeGithubIssueCreationIdentity
    (h : values.canonicalizeGithubIssueCreationIdentity = .ok result) :
    AgreeOff issueFields values result := by
  unfold canonicalizeGithubIssueCreationIdentity at h
  extract_lets createdUrl url read parsed repositories numbers issue canonical at h
  have hissue : AgreeOff issueFields values issue := by
    unfold issue
    split_ifs
    · exact (AgreeOff.refl _ _).set (by decide) _
    · exact AgreeOff.refl _ _
  have hcanonical : AgreeOff issueFields values canonical := by
    unfold canonical
    split_ifs
    · exact hissue.set (by decide) _
    · exact hissue
  split_ifs at h
  cases h
  exact hcanonical.popAll (by decide)

omit [TextLibrary] in
theorem agreeOff_canonicalizePullRequestBranch
    (h : values.canonicalizePullRequestBranch = .ok result) :
    AgreeOff branchFields values result := by
  unfold canonicalizePullRequestBranch at h
  extract_lets stored planned branch at h
  have hbranch : AgreeOff branchFields values branch := by
    unfold branch
    split_ifs
    · exact (AgreeOff.refl _ _).set (by decide) _
    · exact AgreeOff.refl _ _
  split_ifs at h
  cases h
  exact hbranch.popAll (by decide)

theorem agreeOff_promptOperationDefaults :
    AgreeOff promptFields values values.promptOperationDefaults := by
  have hstate : ∀ cell, AgreeOff promptFields values
      (values.set (.operation .promptOperationState) cell) :=
    fun cell ↦ (AgreeOff.refl _ _).set (by decide) cell
  unfold promptOperationDefaults
  extract_lets turn phase token active
  split_ifs
  · exact AgreeOff.refl _ _
  · refine AgreeOff.setDefault ?_ (by decide) _
    unfold active
    split_ifs
    · exact ((((((((hstate _).setDefault (by decide) _).setDefault (by decide) _).setDefault
        (by decide) _).setDefault (by decide) _).setDefault (by decide) _).setDefault
        (by decide) _).setDefault (by decide) _)
    · exact hstate _

omit [TextLibrary] in
theorem agreeOff_collectionDefaults : AgreeOff collectionFields values values.collectionDefaults := by
  unfold collectionDefaults
  exact ((((AgreeOff.refl _ _).setDefault (by decide) _).setDefault (by decide) _).setDefault
    (by decide) _).setDefault (by decide) _

/-- `from_dict` keeps every field but the canonical ones. -/
theorem agreeOff_canonicalise (h : values.canonicalise = .ok result) :
    AgreeOff canonicalFields values result := by
  unfold canonicalise at h
  simp only [checked_bind_eq_ok_iff] at h
  obtain ⟨announced, hannounced, reviewed, hreviewed, issue, hissue, branch, hbranch, h⟩ := h
  cases h
  have hbefore : AgreeOff canonicalFields values branch :=
    ((agreeOff_sessionDefaults.mono (by decide)).trans
      (agreeOff_currentDefaults.mono (by decide))).trans
      (((agreeOff_canonicalizeAnnouncementDismissal hannounced).mono (by decide)).trans
        (((agreeOff_canonicalizeReviewApproval hreviewed).mono (by decide)).trans
          (((agreeOff_canonicalizeGithubIssueCreationIdentity hissue).mono (by decide)).trans
            ((agreeOff_canonicalizePullRequestBranch hbranch).mono (by decide)))))
  exact ((hbefore.set (by decide) _).trans (agreeOff_promptOperationDefaults.mono (by decide))).trans
    (agreeOff_collectionDefaults.mono (by decide))

end Canonical

end Values

/-! ### Evolutions -/

namespace Values

variable {values : Values}

/-- The fields of a worker claim besides its token. -/
def workerClaimFields : List Field :=
  [.int .workerPid, .text .workerBootId, .text .workerProcessStart, .text .workerClaimOperation,
    .float .workerClaimedAt]

/-- The manual slot, the two names of the session, and the stamp of a record. -/
def bookkeepingFields : List Field :=
  [.text .manualReconcileOperation, .text .manualReconcileToken, .text .sessionId,
    .text .herdrTarget, .jobStatus .status, .int .schemaVersion, .int .revision]

/-- The fields every builder of a record writes besides its changes, the mirror of an active prompt
aside. -/
def recordFields : List Field := workerClaimFields ++ bookkeepingFields

/-- The fields an evolution writes besides its changes, the mirror of an active prompt aside. -/
def evolutionFields : List Field := .announcementAck :: recordFields

/-- The fields a delivery is stored in. -/
def deliveryFields : List Field :=
  [.int .deliveryGeneration, .int .deliveryAttempts, .announcementAck, .bool .announcementRepeated,
    .text .deliveryClaimToken, .float .deliveryClaimedAt, .float .deliveryRetryAt, .bool .delivered,
    .float .deliveredAt]

/-- The fields a recovery writes after the pairing of the worker claim. -/
def recoveryFields : List Field :=
  [.bool .phasePromptActive, .text .reconciliationBaseError, .text .result, .text .error,
    .float .completedAt, .float .updatedAt] ++ bookkeepingFields ++ deliveryFields

theorem agreeOff_pairAnnouncementAck :
    AgreeOff evolutionFields values values.pairAnnouncementAck := by
  unfold pairAnnouncementAck
  extract_lets ack
  split_ifs <;> first
    | exact AgreeOff.refl _ _
    | exact (AgreeOff.refl _ _).set (by decide) _

theorem agreeOff_pairWorkerOwnership :
    AgreeOff workerClaimFields values values.pairWorkerOwnership := by
  unfold pairWorkerOwnership
  split_ifs
  · exact AgreeOff.refl _ _
  · exact (AgreeOff.refl _ _).update (by decide)
  · exact (AgreeOff.refl _ _).set (by decide) _
  · exact AgreeOff.refl _ _

theorem agreeOff_pairSession (changes : List Change) :
    AgreeOff bookkeepingFields values (values.pairSession changes) := by
  unfold pairSession
  extract_lets target session
  split_ifs
  · exact (AgreeOff.refl _ _).set (by decide) _
  · exact (AgreeOff.refl _ _).set (by decide) _
  · exact AgreeOff.refl _ _

theorem agreeOff_releaseManualSlot :
    AgreeOff bookkeepingFields values values.releaseManualSlot := by
  unfold releaseManualSlot
  extract_lets slot
  split_ifs
  · exact (AgreeOff.refl _ _).update (by decide)
  · exact AgreeOff.refl _ _

theorem agreeOff_stamp (status : JobStatus) (revision : ℤ) :
    AgreeOff bookkeepingFields values (values.stamp status revision) :=
  (AgreeOff.refl _ _).update (by simp [bookkeepingFields])

end Values

theorem DeliveryState.fields_subset (state : DeliveryState) :
    state.fields.map Sigma.fst ⊆ Values.deliveryFields := by
  cases state <;> simp [fields, Values.deliveryFields]

namespace AgentJob

variable {job : AgentJob}

/-- What an evolution writes after the pairings. -/
theorem agreeOff_evolvedRecord (changes : List Change) (status : Option JobStatus)
    (remove : List Field) :
    Values.AgreeOff (.bool .phasePromptActive :: Values.bookkeepingFields)
      ((job.values.popAll remove).update changes).pairAnnouncementAck.pairWorkerOwnership
      (job.evolvedRecord changes status remove) := by
  have hbookkeeping : Values.bookkeepingFields ⊆
      .bool .phasePromptActive :: Values.bookkeepingFields := List.subset_cons_self _ _
  unfold evolvedRecord
  extract_lets changed fenced
  have hfenced : Values.AgreeOff (.bool .phasePromptActive :: Values.bookkeepingFields) changed
      fenced := by
    unfold fenced
    split_ifs
    · exact (Values.AgreeOff.refl _ _).popAll (by simp)
    · exact .refl _ _
  have hreleased := hfenced.trans (Values.agreeOff_releaseManualSlot.mono hbookkeeping)
  have hpaired := hreleased.trans ((Values.agreeOff_pairSession changes).mono hbookkeeping)
  exact hpaired.trans ((Values.agreeOff_stamp _ _).mono hbookkeeping)

/-- A field that an evolution neither changes nor writes by itself stays. -/
theorem evolvedRecord_of_notMem {changes : List Change} {status : Option JobStatus}
    {remove : List Field} {field : Field} (hremove : field ∉ remove)
    (hchanges : field ∉ changes.map Sigma.fst) (hevolution : field ∉ Values.evolutionFields)
    (hactive : field ≠ .bool .phasePromptActive) :
    job.evolvedRecord changes status remove field = job.values field := by
  have hclaim : field ∉ Values.workerClaimFields := fun h ↦
    hevolution (List.mem_cons_of_mem _ (List.mem_append_left _ h))
  have hfield : field ∉ Field.bool .phasePromptActive :: Values.bookkeepingFields := by
    rw [List.mem_cons, not_or]
    exact ⟨hactive, fun h ↦ hevolution (List.mem_cons_of_mem _ (List.mem_append_right _ h))⟩
  rw [agreeOff_evolvedRecord changes status remove field hfield,
    Values.agreeOff_pairWorkerOwnership field hclaim,
    Values.agreeOff_pairAnnouncementAck field hevolution, Values.update_of_notMem _ hchanges,
    Values.popAll_of_notMem _ hremove]

/-- A field that an evolution neither changes nor writes by itself stays absent. -/
theorem evolvedRecord_absent {changes : List Change} {status : Option JobStatus}
    {remove : List Field} {field : Field} (hjob : job.values field = .absent)
    (hremove : field ∉ remove) (hchanges : field ∉ changes.map Sigma.fst)
    (hevolution : field ∉ Values.evolutionFields) :
    job.evolvedRecord changes status remove field = .absent := by
  by_cases hactive : field = .bool .phasePromptActive
  · subst hactive
    have hbuilt : ((job.values.popAll remove).update changes) (.bool .phasePromptActive) =
        .absent := by
      rw [Values.update_of_notMem _ hchanges, Values.popAll_of_notMem _ hremove, hjob]
    unfold evolvedRecord
    extract_lets changed fenced
    have hchanged : changed (.bool .phasePromptActive) = .absent := by
      unfold changed
      rw [Values.agreeOff_pairWorkerOwnership _ (by decide),
        Values.agreeOff_pairAnnouncementAck _ (by decide), hbuilt]
    have hfenced : fenced (.bool .phasePromptActive) = .absent := by
      unfold fenced
      split_ifs
      · exact Values.popAll_of_mem _ List.mem_cons_self
      · exact hchanged
    rw [Values.agreeOff_stamp _ _ _ (by decide), Values.agreeOff_pairSession _ _ (by decide),
      Values.agreeOff_releaseManualSlot _ (by decide), hfenced]
  · rw [evolvedRecord_of_notMem hremove hchanges hevolution hactive, hjob]

end AgentJob

/-! ### Recoveries -/

namespace AgentJob

variable (job : AgentJob)

/-- A recovery writes three texts. -/
theorem recoveryTexts_fields (values : Values) (status : JobStatus) :
    (job.recoveryTexts values status).1.map Sigma.fst ⊆
      [.text .reconciliationBaseError, .text .result, .text .error] := by
  unfold recoveryTexts
  extract_lets operation base
  split_ifs <;> simp

/-- What a recovery writes after the pairing. -/
theorem agreeOff_recoveredRecord (changes : List Change) (now : Time) (status : Option JobStatus)
    (remove : List Field) (prepareDelivery : Bool) :
    Values.AgreeOff Values.recoveryFields
      ((job.values.popAll remove).update changes).pairWorkerOwnership
      (job.recoveredRecord changes now status remove prepareDelivery) := by
  unfold recoveredRecord
  extract_lets changed fenced final values texts told kept delivered
  have hfenced : Values.AgreeOff Values.recoveryFields changed fenced := by
    unfold fenced
    split_ifs
    · exact (Values.AgreeOff.refl _ _).popAll (by decide)
    · exact .refl _ _
  have hvalues : Values.AgreeOff Values.recoveryFields changed values :=
    (hfenced.trans ((Values.agreeOff_pairSession _).mono (by decide))).update (by
      simp [Values.recoveryFields, Values.bookkeepingFields])
  have htold : Values.AgreeOff Values.recoveryFields changed told :=
    hvalues.update (List.Subset.trans (job.recoveryTexts_fields _ _) (by decide))
  have hkept : Values.AgreeOff Values.recoveryFields changed kept := by
    unfold kept keepOutcome
    split_ifs
    · exact htold.update (by simp [Values.recoveryFields, Values.bookkeepingFields])
    · exact htold
  have hprepared : (job.preparedDelivery now).map Sigma.fst ⊆ Values.recoveryFields := by
    unfold preparedDelivery
    split
    next state _ =>
      rw [List.map_append]
      refine List.append_subset.mpr ⟨?_, by simp [Values.recoveryFields]⟩
      exact List.Subset.trans (DeliveryState.fields_subset _) (List.subset_append_right _ _)
    next => exact List.nil_subset _
  have hdelivered : Values.AgreeOff Values.recoveryFields changed delivered := by
    unfold delivered
    split_ifs
    · exact hkept.update hprepared
    · exact hkept
  exact hdelivered.update (by simp [Values.recoveryFields, Values.bookkeepingFields])

/-- A field that a recovery neither changes nor writes by itself stays. -/
theorem recoveredRecord_of_notMem {changes : List Change} {now : Time} {status : Option JobStatus}
    {remove : List Field} {prepareDelivery : Bool} {field : Field} (hremove : field ∉ remove)
    (hchanges : field ∉ changes.map Sigma.fst) (hclaim : field ∉ Values.workerClaimFields)
    (hrecovery : field ∉ Values.recoveryFields) :
    job.recoveredRecord changes now status remove prepareDelivery field = job.values field := by
  rw [job.agreeOff_recoveredRecord changes now status remove prepareDelivery field hrecovery,
    Values.agreeOff_pairWorkerOwnership field hclaim, Values.update_of_notMem _ hchanges,
    Values.popAll_of_notMem _ hremove]

end AgentJob

end VoiceHarness
