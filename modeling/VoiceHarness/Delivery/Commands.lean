import VoiceHarness.Job.Canonical
import VoiceHarness.Delivery.States

/-!
# What the clients do to a delivery

A job stores the state of its delivery in ten flat fields, and a `DeliveryCommand` is what a client
does to the stored job in one update. A command that stores a job has taken the transition of its
name on the state of the job (`DeliveryCommand.transition_of_apply`).
-/

set_option autoImplicit false
set_option relaxedAutoImplicit false

namespace VoiceHarness

/-! ### The operations of a job -/

namespace AgentJob

variable [TextLibrary] (job : AgentJob)

/-- The record `_updated` reads. -/
def updatedRecord (changes : List Change) : Values :=
  (job.values.update changes).pairWorkerOwnership.update
    [.put (.int .schemaVersion) (some currentSchemaVersion),
      .put (.int .revision) (some (job.values.revision + 1))]

/-- `_updated`. -/
def updated (changes : List Change) : Checked AgentJob := do
  let updated ← fromDict (job.updatedRecord changes)
  validateTransition job updated
  .ok updated

/-- `claim_delivery`. -/
def claimDelivery (token : String) (claimedAt leaseSeconds : Time) : Checked AgentJob := do
  job.updated (← (← job.values.deliveryState).claim token claimedAt leaseSeconds).fields

/-- `renew_delivery`. -/
def renewDelivery (token : String) (claimedAt leaseSeconds : Time) : Checked AgentJob := do
  job.updated (← (← job.values.deliveryState).renew token claimedAt leaseSeconds).fields

/-- `acknowledge_delivery`. -/
def acknowledgeDelivery (token : String) (deliveredAt leaseSeconds : Time) : Checked AgentJob := do
  job.updated
    (← (← job.values.deliveryState).acknowledge token deliveredAt .spoken leaseSeconds).fields

/-- `acknowledge_desktop_delivery`. -/
def acknowledgeDesktopDelivery (token : String) (acknowledgedAt leaseSeconds : Time) :
    Checked AgentJob := do
  job.updated
    (← (← job.values.deliveryState).acknowledge token acknowledgedAt .desktop leaseSeconds).fields

/-- `acknowledge_deferred_delivery`. -/
def acknowledgeDeferredDelivery (token : String) (acknowledgedAt leaseSeconds : Time) :
    Checked AgentJob := do
  job.updated
    (← (← job.values.deliveryState).acknowledge token acknowledgedAt .deferred leaseSeconds).fields

/-- `release_delivery`. -/
def releaseDelivery (token : String) (retryAt : Time) : Checked AgentJob := do
  job.updated (← (← job.values.deliveryState).release token retryAt).fields

/-- `mark_delivered`. -/
def markDelivered (deliveredAt : Option Time) (status : Option JobStatus)
    (changes : List Change) : Checked AgentJob := do
  let state ← (← job.values.deliveryState).acknowledgeWithoutClaim deliveredAt
  job.updated (changes ++ state.fields ++
    status.toList.map fun status ↦ .put (.jobStatus .status) (some status))

/-- `dismiss_announcement`. -/
def dismissAnnouncement (deliveredAt : Time) : Checked AgentJob := do
  job.updated (← (← job.values.deliveryState).dismiss deliveredAt).fields

/-- `repeat_announcement`. -/
def repeatAnnouncement (now : Time) : Checked AgentJob := do
  job.updated ((← job.values.deliveryState).repeatAnnouncement.fields ++
    [.put (.float .updatedAt) (some now)])

/-- The names `evolve_for_delivery` passes itself. -/
def preparedFields : List Field :=
  [.int .deliveryGeneration, .int .deliveryAttempts, .announcementAck,
    .bool .announcementRepeated, .text .deliveryClaimToken, .float .deliveryClaimedAt,
    .float .deliveryRetryAt, .bool .delivered, .float .updatedAt]

/-- `evolve_for_delivery`; a name that is passed twice is an error. -/
def evolveForDelivery (now : Time) (status : Option JobStatus) (remove : List Field)
    (changes : List Change) : Checked AgentJob := do
  let prepared := (prepareDelivery (← job.values.deliveryState)).fields
  if changes.any fun change ↦ change.1 ∈ preparedFields then
    .error "got multiple values for keyword argument"
  else job.evolve (prepared ++ [.put (.float .updatedAt) (some now)] ++ changes) status remove

end AgentJob

/-! ### What a client does -/

/-- `DELIVERY_CLAIM_SECONDS`. -/
def deliveryClaimSeconds : Time := 300

/-- `DELIVERY_RETRY_SECONDS`. -/
def deliveryRetrySeconds : Time := 5

/-- `DELIVERABLE_STATUSES`. -/
def JobStatus.isDeliverable : JobStatus → Bool
  | awaitingUser | blocked | completed | failed | cancelled => true
  | queued | routing | running | reconciling => false

/-- One update of a stored job by a client. A claim draws its token; the three acknowledgements are
one command. -/
inductive DeliveryCommand
  | claim (token : String) (now : Time) (foreground : Bool) (eligible : Option (AgentJob → Bool))
  | renew (token : String) (now : Time)
  | acknowledge (token : String) (now : Time)
  | acknowledgeDesktop (token : String) (now : Time)
  | acknowledgeDeferred (token : String) (now : Time)
  | release (token : String) (now : Time) (retry : Bool)
  | markDelivered (deliveredAt : Option Time) (status : Option JobStatus) (changes : List Change)
  | prepare (now : Time) (status : Option JobStatus) (remove : List Field) (changes : List Change)
  | prepareRecovery (changes : List Change) (now : Time) (status : Option JobStatus)
      (remove : List Field)
  | dismiss (now : Time)
  | repeatAnnouncement (now : Time)

namespace AgentJob

variable [TextLibrary] (job : AgentJob)

/-- `_claim_is_live`. -/
def claimIsLive (now : Time) : Bool :=
  job.values.hasText .deliveryClaimToken &&
    (job.values.float .deliveryClaimedAt).any (now - · < deliveryClaimSeconds)

/-- What `claim_delivery` asks of a job before it claims it. -/
def isClaimable (now : Time) (foreground : Bool) (eligible : Option (AgentJob → Bool)) : Bool :=
  let completedAt := ((job.values.float .completedAt).filter (· ≠ 0)).getD now
  job.values.status.isDeliverable && !job.values.bool .delivered &&
    eligible.all (· job) &&
    !(!foreground && now < (job.values.float .foregroundUntil).getD 0) &&
    !(now < (job.values.float .deliveryRetryAt).getD 0) &&
    !(!foreground && job.values.status ≠ .awaitingUser && job.values.status ≠ .blocked &&
      now - completedAt < 1) &&
    !job.claimIsLive now

/-- What the clients ask of a job whose claim they hold. -/
def isHeldBy (token : String) (now : Time) : Bool :=
  job.values.text .deliveryClaimToken = some token && !job.values.bool .delivered &&
    job.claimIsLive now

/-- The update where the job passes the checks of the client. -/
def answering (check : Bool) (update : Checked AgentJob) : Option AgentJob :=
  if check then update.toOption else none

end AgentJob

/-- The job the command stores; none where the command leaves the job alone or raises. -/
def DeliveryCommand.apply [TextLibrary] (job : AgentJob) : DeliveryCommand → Option AgentJob
  | claim token now foreground eligible =>
    AgentJob.answering (job.isClaimable now foreground eligible)
      (job.claimDelivery token now deliveryClaimSeconds)
  | renew token now =>
    AgentJob.answering (job.isHeldBy token now)
      (job.renewDelivery token now deliveryClaimSeconds)
  | acknowledge token now =>
    AgentJob.answering (job.isHeldBy token now)
      (job.acknowledgeDelivery token now deliveryClaimSeconds)
  | acknowledgeDesktop token now =>
    AgentJob.answering (job.isHeldBy token now)
      (job.acknowledgeDesktopDelivery token now deliveryClaimSeconds)
  | acknowledgeDeferred token now =>
    AgentJob.answering (job.isHeldBy token now)
      (job.acknowledgeDeferredDelivery token now deliveryClaimSeconds)
  | release token now retry =>
    AgentJob.answering
      (job.values.text .deliveryClaimToken = some token && !job.values.bool .delivered)
      (job.releaseDelivery token (if retry then now + deliveryRetrySeconds else 0))
  | markDelivered deliveredAt status changes =>
    (job.markDelivered deliveredAt status changes).toOption
  | prepare now status remove changes =>
    (job.evolveForDelivery now status remove changes).toOption
  | prepareRecovery changes now status remove =>
    (job.evolveRecovery changes now status remove true).toOption
  | dismiss now =>
    AgentJob.answering
      (!(job.values.announcementAck = .dismissed && job.values.bool .delivered))
      (job.dismissAnnouncement now)
  | repeatAnnouncement now =>
    AgentJob.answering job.values.status.isDeliverable (job.repeatAnnouncement now)

/-! ### The state a record holds -/

namespace Values

/-- The record holds the cells of the changes. -/
def Holds (values : Values) (changes : List Change) : Prop :=
  ∀ change ∈ changes, values change.1 = change.2

variable {values other : Values} {changes : List Change}

theorem holds_update (values : Values) (hdistinct : (changes.map Sigma.fst).Nodup) :
    (values.update changes).Holds changes := by
  induction changes generalizing values with
  | nil => exact fun _ h ↦ absurd h List.not_mem_nil
  | cons change changes ih =>
    obtain ⟨hnew, hrest⟩ := List.nodup_cons.mp hdistinct
    rw [update_cons]
    refine List.forall_mem_cons.mpr ⟨?_, ih _ hrest⟩
    rw [update_of_notMem _ hnew, set_self]

theorem Holds.of_agreeOff {fields : List Field} (h : values.Holds changes)
    (hagree : AgreeOff fields values other) (hdisjoint : ∀ change ∈ changes, change.1 ∉ fields) :
    other.Holds changes :=
  fun change hchange ↦ (hagree _ (hdisjoint change hchange)).trans (h change hchange)

theorem Holds.get_eq (h : values.Holds changes) {field : Field} {cell : Cell field.type}
    (hmem : (⟨field, cell⟩ : Change) ∈ changes) : values.get field = cell.get? := by
  unfold get
  rw [h _ hmem]

/-- The acknowledgement of a record that `from_dict` reads, where it fits the delivery. -/
theorem canonicalise_announcementAck [TextLibrary] {result : Values} {ack : AnnouncementAck}
    (h : values.canonicalise = .ok result) (hack : values .announcementAck = .val ack)
    (hfits : ¬ (values.bool .delivered = true ∧ ack = .pending)) :
    result .announcementAck = .val ack := by
  unfold canonicalise at h
  simp only [checked_bind_eq_ok_iff] at h
  obtain ⟨announced, hannounced, reviewed, hreviewed, issue, hissue, branch, hbranch, h⟩ := h
  cases h
  have hbefore : ∀ field, field ∉ sessionFields ++ currentFields →
      values.sessionDefaults.currentDefaults field = values field := by
    intro field hfield
    rw [List.mem_append, not_or] at hfield
    rw [agreeOff_currentDefaults field hfield.2, agreeOff_sessionDefaults field hfield.1]
  have hcell := (hbefore .announcementAck (by decide)).trans hack
  have hdelivered : values.sessionDefaults.currentDefaults.bool .delivered =
      values.bool .delivered := by
    unfold bool get
    rw [hbefore (.bool .delivered) (by decide)]
  have hannouncedAck : announced .announcementAck = .val ack := by
    have hget : values.sessionDefaults.currentDefaults.get .announcementAck = some ack := by
      unfold get
      rw [hcell]
      rfl
    have hpending : (values.bool .delivered && decide (ack = .pending)) = false := by
      simpa using hfits
    unfold canonicalizeAnnouncementDismissal at hannounced
    simp only [hget, hdelivered, hpending, Bool.false_eq_true, if_false] at hannounced
    split_ifs at hannounced
    cases hannounced
    rw [popAll_of_notMem _ (by decide), hcell]
  rw [agreeOff_collectionDefaults _ (by decide), agreeOff_promptOperationDefaults _ (by decide),
    set_of_ne _ _ (by decide), agreeOff_canonicalizePullRequestBranch hbranch _ (by decide),
    agreeOff_canonicalizeGithubIssueCreationIdentity hissue _ (by decide),
    agreeOff_canonicalizeReviewApproval hreviewed _ (by decide), hannouncedAck]

end Values

namespace DeliveryState

theorem nodup_fields (state : DeliveryState) : (state.fields.map Sigma.fst).Nodup := by
  cases state <;> simp [fields]

/-- A record with the fields of a state is read as that state, where it is read at all. -/
theorem eq_of_holds {values : Values} {state read : DeliveryState} (h : values.Holds state.fields)
    (hread : values.deliveryState = .ok read) : read = state := by
  have hcells : ∀ {field : Field} {value : Option field.type},
      Change.put field value ∈ state.fields → values.get field = value := by
    intro field value hmem
    rw [h.get_eq hmem, Cell.get?_ofOption]
  have hgeneration : values.get (.int .deliveryGeneration) = some state.generation :=
    hcells (by simp [fields])
  have hattempts : values.get (.int .deliveryAttempts) = some state.attempts :=
    hcells (by cases state <;> simp [fields, attempts])
  have hack : values.get .announcementAck = some state.announcement.acknowledgement :=
    hcells (by simp [fields])
  have hrepeated : values.get (.bool .announcementRepeated) = some state.announcement.repeated :=
    hcells (by simp [fields])
  simp only [Values.deliveryState, Values.count, Values.int, Values.text, Values.float, Values.bool,
    Values.announcementAck, hgeneration, hattempts, hack, hrepeated, Option.getD_some] at hread
  cases state with
  | pending generation retryAt attempts announcement =>
    have htoken : values.get (.text .deliveryClaimToken) = none := hcells (by simp [fields])
    have hretryAt : values.get (.float .deliveryRetryAt) = some retryAt :=
      hcells (by simp [fields])
    have hdelivered : values.get (.bool .delivered) = some false := hcells (by simp [fields])
    simp only [htoken, hretryAt, hdelivered, loadDeliveryState, Option.getD_some,
      Bool.false_eq_true, if_false] at hread
    split_ifs at hread
    cases hread
    rfl
  | claimed generation token claimedAt retryAt attempts announcement =>
    have htoken : values.get (.text .deliveryClaimToken) = some token := hcells (by simp [fields])
    have hclaimedAt : values.get (.float .deliveryClaimedAt) = some claimedAt :=
      hcells (by simp [fields])
    have hretryAt : values.get (.float .deliveryRetryAt) = some retryAt :=
      hcells (by simp [fields])
    have hdelivered : values.get (.bool .delivered) = some false := hcells (by simp [fields])
    simp only [htoken, hclaimedAt, hretryAt, hdelivered, loadDeliveryState, Option.getD_some,
      Bool.false_eq_true, if_false] at hread
    split_ifs at hread
    cases hread
    rfl
  | delivered generation deliveredAt attempts announcement =>
    have htoken : values.get (.text .deliveryClaimToken) = none := hcells (by simp [fields])
    have hdeliveredAt : values.get (.float .deliveredAt) = deliveredAt := hcells (by simp [fields])
    have hdelivered : values.get (.bool .delivered) = some true := hcells (by simp [fields])
    simp only [htoken, hdeliveredAt, hdelivered, loadDeliveryState, Option.getD_some,
      if_true] at hread
    split_ifs at hread
    cases hread
    rfl

end DeliveryState

namespace DeliveryState

theorem mem_deliveryFields {state : DeliveryState} {change : Change} (h : change ∈ state.fields) :
    change.1 ∈ Values.deliveryFields := state.fields_subset (List.mem_map_of_mem h)

/-- The fields of a delivery are none of those the builders write by themselves. -/
theorem not_mem_recordFields {state : DeliveryState} {change : Change}
    (h : change ∈ state.fields) : change.1 ∉ Values.recordFields := by
  have hdisjoint : ∀ field ∈ Values.deliveryFields, field ∉ Values.recordFields := by decide
  exact hdisjoint _ (mem_deliveryFields h)

end DeliveryState

/-! ### The state of a job -/

namespace AgentJob

theorem exists_delivery (job : AgentJob) : ∃ state, job.values.deliveryState = .ok state :=
  parses_eq_ok_iff.mp (job.adapter_check (by simp [Values.adapterChecks]))

/-- The state of the delivery of a valid job. -/
def delivery (job : AgentJob) : DeliveryState :=
  job.values.deliveryState.toOption.get (by
    obtain ⟨state, hstate⟩ := job.exists_delivery
    rw [hstate]
    rfl)

theorem deliveryState_eq (job : AgentJob) : job.values.deliveryState = .ok job.delivery := by
  obtain ⟨state, hstate⟩ := job.exists_delivery
  have hdelivery : job.delivery = state := by
    unfold delivery
    simp only [hstate, Except.toOption, Option.get_some]
  rw [hdelivery, hstate]

variable [TextLibrary] {job next : AgentJob} {state : DeliveryState}

/-- A job that is read from a record with the fields of a state has that state. -/
theorem delivery_of_holds {raw : Values} (h : fromDict raw = .ok next)
    (hraw : raw.Holds state.fields)
    (hfits : state.isDelivered = true → state.announcement.acknowledgement ≠ .pending) :
    next.delivery = state := by
  obtain ⟨values, hcanonical, hvalues⟩ := fromDict_ok h
  have hack : raw .announcementAck = .val state.announcement.acknowledgement :=
    hraw (.put .announcementAck (some state.announcement.acknowledgement))
      (by simp [DeliveryState.fields])
  have hdelivered : raw.bool .delivered = state.isDelivered := by
    have hget : raw.get (.bool .delivered) = (Cell.ofOption (some state.isDelivered)).get? :=
      hraw.get_eq (by cases state <;> simp [DeliveryState.fields, DeliveryState.isDelivered,
        Change.put])
    unfold Values.bool
    rw [hget]
    rfl
  have hholds : next.values.Holds state.fields := by
    intro change hchange
    rw [hvalues]
    by_cases hfield : change.1 = .announcementAck
    · obtain ⟨field, cell⟩ := change
      obtain rfl : field = .announcementAck := hfield
      rw [← hraw _ hchange, hack]
      refine Values.canonicalise_announcementAck hcanonical hack fun hboth ↦ ?_
      exact hfits (hdelivered ▸ hboth.1) hboth.2
    · rw [← hraw _ hchange]
      refine Values.agreeOff_canonicalise hcanonical _ ?_
      have hdisjoint : ∀ field ∈ Values.deliveryFields, field ≠ .announcementAck →
          field ∉ Values.canonicalFields := by decide
      exact hdisjoint _ (DeliveryState.mem_deliveryFields hchange) hfield
  exact DeliveryState.eq_of_holds hholds next.deliveryState_eq

omit [TextLibrary] in
/-- A record holds the fields of the state that was put last. -/
theorem holds_puts (values : Values) (before : List Change) {after : List Change}
    (hafter : ∀ change ∈ after, change.1 ∉ state.fields.map Sigma.fst) :
    (values.update (before ++ state.fields ++ after)).Holds state.fields := by
  rw [Values.update_append, Values.update_append]
  have hput := Values.holds_update (values.update before) state.nodup_fields
  refine hput.of_agreeOff (Values.AgreeOff.update (.refl (after.map Sigma.fst) _) (fun _ h ↦ h))
    fun change hchange hmem ↦ ?_
  obtain ⟨other, hother, heq⟩ := List.mem_map.mp hmem
  exact hafter other hother (heq ▸ List.mem_map_of_mem hchange)

omit [TextLibrary] in
/-- What the builders write by themselves leaves the fields of a delivery alone. -/
theorem holds_of_recordFields {values other : Values} {fields : List Field}
    (h : values.Holds state.fields) (hagree : Values.AgreeOff fields values other)
    (hfields : fields ⊆ Values.recordFields) : other.Holds state.fields :=
  h.of_agreeOff hagree fun _ hchange hmem ↦
    DeliveryState.not_mem_recordFields hchange (hfields hmem)

omit [TextLibrary] in
theorem holds_updatedRecord {before after : List Change}
    (hafter : ∀ change ∈ after, change.1 ∉ state.fields.map Sigma.fst) :
    (job.updatedRecord (before ++ state.fields ++ after)).Holds state.fields := by
  have hpaired := holds_of_recordFields (holds_puts job.values before hafter)
    Values.agreeOff_pairWorkerOwnership (List.subset_append_left _ _)
  exact holds_of_recordFields hpaired (Values.AgreeOff.update (.refl Values.bookkeepingFields _) (by
    simp [Values.bookkeepingFields])) (List.subset_append_right _ _)

omit [TextLibrary] in
theorem mem_prepareDelivery {change : Change} (h : change ∈ (prepareDelivery state).fields) :
    change.1 ∈ preparedFields := by
  have hsubset : (prepareDelivery state).fields.map Sigma.fst ⊆ preparedFields := by
    simp [prepareDelivery, DeliveryState.fields, preparedFields]
  exact hsubset (List.mem_map_of_mem h)

omit [TextLibrary] in
/-- The pairing of the acknowledgement leaves a prepared delivery as it is. -/
theorem pairAnnouncementAck_prepared {values : Values}
    (h : values.Holds (prepareDelivery state).fields) : values.pairAnnouncementAck = values := by
  have hdelivered : values.get (.bool .delivered) = (Cell.ofOption (some false)).get? :=
    h.get_eq (by simp [prepareDelivery, DeliveryState.fields, Change.put])
  have hack : values.get .announcementAck = (Cell.ofOption (some .pending)).get? :=
    h.get_eq (by simp [prepareDelivery, DeliveryState.fields, Change.put,
      DeliveryState.announcement])
  unfold Values.pairAnnouncementAck Values.bool
  rw [hdelivered, hack]
  rfl

omit [TextLibrary] in
/-- The record of an evolution for a delivery holds the fields of the prepared state. -/
theorem holds_evolvedRecord {now : Time} {changes : List Change} {status : Option JobStatus}
    {remove : List Field} (h : ¬ (changes.any fun change ↦ change.1 ∈ preparedFields) = true) :
    (job.evolvedRecord ((prepareDelivery state).fields ++ [.put (.float .updatedAt) (some now)] ++
      changes) status remove).Holds (prepareDelivery state).fields := by
  unfold evolvedRecord
  extract_lets changed fenced
  have hput : ((job.values.popAll remove).update ((prepareDelivery state).fields ++
      [.put (.float .updatedAt) (some now)] ++ changes)).Holds (prepareDelivery state).fields := by
    rw [List.append_assoc]
    refine holds_puts _ [] fun change hchange hmem ↦ ?_
    rcases List.mem_append.mp hchange with hupdated | hother
    · rw [List.mem_singleton.mp hupdated] at hmem
      have hother : Field.float .updatedAt ∉ Values.deliveryFields := by decide
      exact hother (DeliveryState.fields_subset _ hmem)
    · obtain ⟨prepared, hprepared, heq⟩ := List.mem_map.mp hmem
      exact h (List.any_eq_true.mpr ⟨change, hother,
        decide_eq_true (heq ▸ mem_prepareDelivery hprepared)⟩)
  have hchanged : changed.Holds (prepareDelivery state).fields := by
    unfold changed
    rw [pairAnnouncementAck_prepared hput]
    exact holds_of_recordFields hput Values.agreeOff_pairWorkerOwnership
      (List.subset_append_left _ _)
  have hfenced : fenced.Holds (prepareDelivery state).fields := by
    unfold fenced
    split_ifs
    · refine hchanged.of_agreeOff (Values.AgreeOff.popAll (.refl _ _) (fun _ h ↦ h))
        fun change hchange hmem ↦ ?_
      have hactive : Field.bool .phasePromptActive ∉ Values.deliveryFields := by decide
      rw [List.mem_singleton] at hmem
      exact hactive (hmem ▸ DeliveryState.mem_deliveryFields hchange)
    · exact hchanged
  have hbookkeeping : Values.bookkeepingFields ⊆ Values.recordFields :=
    List.subset_append_right _ _
  have hreleased := holds_of_recordFields hfenced Values.agreeOff_releaseManualSlot hbookkeeping
  refine holds_of_recordFields ?_ (Values.agreeOff_stamp _ _) hbookkeeping
  exact holds_of_recordFields hreleased (Values.agreeOff_pairSession _) hbookkeeping

omit [TextLibrary] in
/-- The record of a recovery that prepares a delivery holds the fields of the prepared state. -/
theorem holds_recoveredRecord {changes : List Change} {now : Time} {status : Option JobStatus}
    {remove : List Field} :
    (job.recoveredRecord changes now status remove true).Holds
      (prepareDelivery job.delivery).fields := by
  unfold recoveredRecord
  extract_lets changed fenced final values texts told kept delivered
  have hdelivered : delivered.Holds (prepareDelivery job.delivery).fields := by
    unfold delivered preparedDelivery
    rw [if_pos (by simp), deliveryState_eq]
    refine holds_puts kept [] fun change hchange hmem ↦ ?_
    rw [List.mem_singleton.mp hchange] at hmem
    have hother : Field.float .updatedAt ∉ Values.deliveryFields := by decide
    exact hother (DeliveryState.fields_subset _ hmem)
  exact holds_of_recordFields hdelivered (Values.AgreeOff.update (.refl Values.bookkeepingFields _)
    (by simp [Values.bookkeepingFields])) (List.subset_append_right _ _)

theorem updated_ok {changes : List Change} (h : job.updated changes = .ok next) :
    fromDict (job.updatedRecord changes) = .ok next ∧ validateTransition job next = .ok () := by
  obtain ⟨updated, hupdated, h⟩ := checked_bind_eq_ok_iff.mp h
  obtain ⟨⟨⟩, hvalid, h⟩ := checked_bind_eq_ok_iff.mp h
  cases h
  exact ⟨hupdated, hvalid⟩

/-- An update that puts a state among its changes gives the job this state. -/
theorem delivery_updated {before after : List Change}
    (h : job.updated (before ++ state.fields ++ after) = .ok next)
    (hafter : ∀ change ∈ after, change.1 ∉ state.fields.map Sigma.fst)
    (hfits : state.isDelivered = true → state.announcement.acknowledgement ≠ .pending) :
    next.delivery = state :=
  delivery_of_holds (updated_ok h).1 (holds_updatedRecord hafter) hfits

theorem delivery_updated_fields (h : job.updated state.fields = .ok next)
    (hfits : state.isDelivered = true → state.announcement.acknowledgement ≠ .pending) :
    next.delivery = state := by
  have happend : state.fields = [] ++ state.fields ++ [] := by simp
  rw [happend] at h
  exact delivery_updated h (fun _ hmem ↦ absurd hmem List.not_mem_nil) hfits

omit [TextLibrary] in
/-- The delivery of a job is over exactly when its acknowledgement is final. -/
theorem isDelivered_delivery (job : AgentJob) :
    job.delivery.isDelivered =
      decide (job.delivery.announcement.acknowledgement ∈ [AnnouncementAck.spoken, .dismissed]) := by
  have hstate := job.deliveryState_eq
  generalize job.delivery = state at hstate
  unfold Values.deliveryState loadDeliveryState at hstate
  split_ifs at hstate with hpaired hdelivered hclaim hfinal hopen
  · cases hstate
    exact (decide_eq_true hfinal).symm
  · split at hstate <;>
      · cases hstate
        exact (decide_eq_false hopen).symm

end AgentJob

/-! ### The transition of a command -/

/-- The transition of a command on the state of a delivery. -/
def DeliveryCommand.transition (state : DeliveryState) : DeliveryCommand → Checked DeliveryState
  | claim token now _ _ => state.claim token now deliveryClaimSeconds
  | renew token now => state.renew token now deliveryClaimSeconds
  | acknowledge token now => state.acknowledge token now .spoken deliveryClaimSeconds
  | acknowledgeDesktop token now => state.acknowledge token now .desktop deliveryClaimSeconds
  | acknowledgeDeferred token now => state.acknowledge token now .deferred deliveryClaimSeconds
  | release token now retry => state.release token (if retry then now + deliveryRetrySeconds else 0)
  | markDelivered deliveredAt _ _ => state.acknowledgeWithoutClaim deliveredAt
  | prepare .. | prepareRecovery .. => .ok (prepareDelivery state)
  | dismiss now => state.dismiss now
  | repeatAnnouncement _ => .ok state.repeatAnnouncement

section

variable [TextLibrary] {job next : AgentJob}

omit [TextLibrary] in
theorem AgentJob.answering_eq_some_iff {check : Bool} {update : Checked AgentJob} :
    AgentJob.answering check update = some next ↔ check = true ∧ update = .ok next := by
  unfold AgentJob.answering
  rcases update with message | job <;> cases check <;> simp [Except.toOption]

omit [TextLibrary] in
/-- A transition leaves an acknowledgement that fits the delivery. -/
theorem DeliveryCommand.fits_transition {command : DeliveryCommand} {state : DeliveryState}
    (h : command.transition job.delivery = .ok state) (hdone : state.isDelivered = true) :
    state.announcement.acknowledgement ≠ .pending := by
  have hack : ∀ {token : String} {now : Time} {acknowledgement : AnnouncementAck},
      job.delivery.acknowledge token now acknowledgement deliveryClaimSeconds = .ok state →
      state.announcement.acknowledgement ≠ .pending := by
    intro token now acknowledgement h
    obtain ⟨-, hallowed, rfl⟩ := DeliveryState.acknowledge_ok h
    have hne : acknowledgement ≠ .pending := by
      rintro rfl
      revert hallowed
      cases job.delivery.announcement.acknowledgement <;> decide
    split_ifs <;> exact hne
  cases command with
  | claim token now foreground eligible =>
    obtain ⟨-, rfl⟩ := DeliveryState.claim_ok h
    cases hdone
  | renew token now =>
    obtain ⟨-, rfl⟩ := DeliveryState.renew_ok h
    cases hdone
  | acknowledge | acknowledgeDesktop | acknowledgeDeferred => exact hack h
  | release token now retry =>
    obtain ⟨-, rfl⟩ := DeliveryState.release_ok h
    cases hdone
  | markDelivered deliveredAt status changes =>
    rcases DeliveryState.acknowledgeWithoutClaim_ok h with ⟨-, hspoken, rfl⟩ | ⟨-, rfl⟩
    · rw [hspoken]
      decide
    · simp [DeliveryState.announcement]
  | prepare | prepareRecovery =>
    cases h
    cases hdone
  | dismiss now =>
    obtain ⟨-, rfl⟩ := DeliveryState.dismiss_ok h
    simp [DeliveryState.announcement]
  | repeatAnnouncement now =>
    cases h
    cases hdone

/-- A command that stores a job has taken its transition on the state of the job. -/
theorem DeliveryCommand.transition_of_apply {command : DeliveryCommand}
    (h : command.apply job = some next) :
    command.transition job.delivery = .ok next.delivery := by
  have hstored := job.deliveryState_eq
  have hheld : ∀ {check : Bool} {transition : Checked DeliveryState},
      command.transition job.delivery = transition →
      AgentJob.answering check (do job.updated (← transition).fields) = some next →
      command.transition job.delivery = .ok next.delivery := by
    intro check transition heq h
    obtain ⟨-, h⟩ := AgentJob.answering_eq_some_iff.mp h
    obtain ⟨state, hstate, hupdated⟩ := checked_bind_eq_ok_iff.mp h
    have hfits := DeliveryCommand.fits_transition (heq.trans hstate)
    rw [heq, hstate, AgentJob.delivery_updated_fields hupdated hfits]
  cases command with
  | claim token now foreground eligible =>
    simp only [apply, AgentJob.claimDelivery, hstored] at h
    exact hheld rfl h
  | renew token now =>
    simp only [apply, AgentJob.renewDelivery, hstored] at h
    exact hheld rfl h
  | acknowledge token now =>
    simp only [apply, AgentJob.acknowledgeDelivery, hstored] at h
    exact hheld rfl h
  | acknowledgeDesktop token now =>
    simp only [apply, AgentJob.acknowledgeDesktopDelivery, hstored] at h
    exact hheld rfl h
  | acknowledgeDeferred token now =>
    simp only [apply, AgentJob.acknowledgeDeferredDelivery, hstored] at h
    exact hheld rfl h
  | release token now retry =>
    simp only [apply, AgentJob.releaseDelivery, hstored] at h
    exact hheld rfl h
  | dismiss now =>
    simp only [apply, AgentJob.dismissAnnouncement, hstored] at h
    exact hheld rfl h
  | markDelivered deliveredAt status changes =>
    have h := checked_toOption_eq_some_iff.mp h
    obtain ⟨current, hcurrent, h⟩ := checked_bind_eq_ok_iff.mp h
    obtain rfl : job.delivery = current := Except.ok.inj (hstored.symm.trans hcurrent)
    obtain ⟨state, hstate, hupdated⟩ := checked_bind_eq_ok_iff.mp h
    have htransition : (DeliveryCommand.markDelivered deliveredAt status changes).transition
        job.delivery = .ok state := hstate
    have hfits := DeliveryCommand.fits_transition htransition
    have hstatus : ∀ change ∈ status.toList.map fun status ↦
        Change.put (.jobStatus .status) (some status),
        change.1 ∉ state.fields.map Sigma.fst := by
      intro change hchange hmem
      obtain ⟨value, -, rfl⟩ := List.mem_map.mp hchange
      have hother : Field.jobStatus .status ∉ Values.deliveryFields := by decide
      exact hother (state.fields_subset hmem)
    rw [AgentJob.delivery_updated hupdated hstatus hfits]
    exact hstate
  | repeatAnnouncement now =>
    obtain ⟨-, h⟩ := AgentJob.answering_eq_some_iff.mp h
    obtain ⟨current, hcurrent, hupdated⟩ := checked_bind_eq_ok_iff.mp h
    obtain rfl : job.delivery = current := Except.ok.inj (hstored.symm.trans hcurrent)
    rw [← List.nil_append (DeliveryState.fields _)] at hupdated
    rw [AgentJob.delivery_updated hupdated]
    · rfl
    · intro change hchange hmem
      rw [List.mem_singleton.mp hchange] at hmem
      have hother : Field.float .updatedAt ∉ Values.deliveryFields := by decide
      exact hother (DeliveryState.fields_subset _ hmem)
    · exact fun hdone ↦ by cases hdone
  | prepare now status remove changes =>
    have h := checked_toOption_eq_some_iff.mp h
    obtain ⟨current, hcurrent, h⟩ := checked_bind_eq_ok_iff.mp h
    obtain rfl : job.delivery = current := Except.ok.inj (hstored.symm.trans hcurrent)
    simp only at h
    split_ifs at h with htwice
    rw [AgentJob.delivery_of_holds (AgentJob.evolve_ok h).1 (AgentJob.holds_evolvedRecord htwice)]
    · rfl
    · exact fun hdone ↦ by cases hdone
  | prepareRecovery changes now status remove =>
    have h := checked_toOption_eq_some_iff.mp h
    obtain ⟨updated, hread, hvalues, -⟩ := AgentJob.evolveRecovery_ok h
    have hupdated := AgentJob.delivery_of_holds hread AgentJob.holds_recoveredRecord
      fun hdone ↦ by cases hdone
    have hnext := next.deliveryState_eq
    rw [hvalues, updated.deliveryState_eq, hupdated] at hnext
    exact hnext

end

end VoiceHarness
