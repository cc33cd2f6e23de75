import VoiceHarness.Activation.Execute

/-!
# The law of the activation log

`Allowed` says before which events an event may happen: what the user has to have agreed to, and what the worker has to
have seen, before it restarts a service, and that it restarts a service once for an activation and once for its
rollback. A log is `Lawful` where each of its events was allowed when it happened.

`Right` says what the journal's record tells of the log. It is what the worker knows after a crash, and the operations
keep it where they are `Justified`.
-/

set_option autoImplicit false
set_option relaxedAutoImplicit false

namespace VoiceHarness.Activation

/-! ### What may happen -/

/-- The user has heard the offer, has accepted it, and has heard that the restart comes. -/
structure Confirmed (log : List ActivationEvent) (id : String) : Prop where
  delivered : .changed id .markOfferDelivered ∈ log
  accepted : .changed id .accept ∈ log
  announced : .changed id .markPreRestartDelivered ∈ log

/-- The snapshot of the outcome was taken, and shows its service installed and active. -/
def SeenActive (log : List ActivationEvent) (outcome : ServiceOutcome) : Prop :=
  ∃ snapshot, outcome.before = some snapshot ∧ .observed outcome.service snapshot ∈ log ∧
    snapshot.installed = true ∧ snapshot.activeState = "active"

/-- The restarts began with no snapshot of the service. So they do where the stored configuration was found changed. -/
def BegunUnseen (log : List ActivationEvent) (id service : String) : Prop :=
  ∃ outcomes outcome, .changed id (.beginRestart outcomes) ∈ log ∧ outcome ∈ outcomes ∧ outcome.service = service ∧
    outcome.before = none

/-- The id was given to an offer. -/
def Known (log : List ActivationEvent) (id : String) : Prop := ∃ offer, .offered offer ∈ log ∧ offer.id = id

/-- The operations that end an activation. -/
def Change.isEnding : Change → Bool
  | .decline | .finish _ _ | .failWorker _ => true
  | _ => false

/-- The activation has come to an end. -/
def HasEnded (log : List ActivationEvent) (id : String) : Prop :=
  ∃ change, change.isEnding = true ∧ .changed id change ∈ log

/-- What has to have happened before an event. -/
def Allowed (earlier : List ActivationEvent) : ActivationEvent → Prop
  | .offered record => ∀ other, .offered other ∈ earlier → other.id ≠ record.id
  | .changed id change =>
    Known earlier id ∧ (change = .decline → ∀ rollback service, .restarted id rollback service ∉ earlier) ∧
      (change = .acknowledge → HasEnded earlier id)
  | .observed _ _ => True
  | .validated id _ => Known earlier id ∧ Confirmed earlier id ∧ ∀ usable, .validated id usable ∉ earlier
  | .restarted id rollback service =>
    Confirmed earlier id ∧ .changed id .decline ∉ earlier ∧ .restarted id rollback service ∉ earlier ∧
      ((∃ snapshot, .observed service snapshot ∈ earlier ∧ snapshot.installed = true ∧
          snapshot.activeState = "active") ∨ rollback = false ∧ BegunUnseen earlier id service) ∧
      ∃ offer, .offered offer ∈ earlier ∧ offer.id = id ∧ service ∈ offer.targets ∧
        (offer.settingKey = "audio.voice" → rollback = false → .validated id true ∈ earlier) ∧
        (rollback = true → offer.settingKey = "audio.voice" ∧ ∃ detail, .changed id (.beginRollback detail) ∈ earlier)

/-- Each event was allowed when it happened. -/
def Lawful : List ActivationEvent → Prop
  | [] => True
  | event :: earlier => Allowed earlier event ∧ Lawful earlier

/-- Every event that names an activation comes after its offer. -/
theorem Lawful.known {log : List ActivationEvent} (h : Lawful log) {event : ActivationEvent} (hmem : event ∈ log)
    {id : String}
    (hid : (∃ change, event = .changed id change) ∨ (∃ rollback service, event = .restarted id rollback service) ∨
      ∃ usable, event = .validated id usable) : Known log id := by
  induction log with
  | nil => exact absurd hmem List.not_mem_nil
  | cons first earlier ih =>
    have hlonger : ∀ {id : String}, Known earlier id → Known (first :: earlier) id := by
      rintro id ⟨offer, hoffer, hid⟩
      exact ⟨offer, List.mem_cons_of_mem _ hoffer, hid⟩
    rcases List.mem_cons.mp hmem with rfl | hearlier
    · refine hlonger ?_
      rcases hid with ⟨change, rfl⟩ | ⟨rollback, service, rfl⟩ | ⟨usable, rfl⟩
      · exact h.1.1
      · obtain ⟨-, -, -, -, offer, hoffer, hid, -⟩ := h.1
        exact ⟨offer, hoffer, hid⟩
      · exact h.1.1
    · exact hlonger (ih h.2 hearlier)

/-! ### What the record tells of the log -/

/-- How far an activation has come. -/
def ActivationStatus.rank : ActivationStatus → ℕ
  | .offered => 0
  | .accepted => 1
  | .ready | .validating => 2
  | .restarting => 3
  | .rollingBack => 4
  | .succeeded | .partly | .failed | .declined => 5

/-- The record is about the same change as the offer. -/
structure SameOffer (offer record : ActivationRecord) : Prop where
  id : offer.id = record.id
  settingKey : offer.settingKey = record.settingKey
  oldValue : offer.oldValue = record.oldValue
  newValue : offer.newValue = record.newValue
  targets : offer.targets = record.targets

theorem SameOffer.refl (record : ActivationRecord) : SameOffer record record := ⟨rfl, rfl, rfl, rfl, rfl⟩

theorem SameOffer.trans {first second third : ActivationRecord} (h : SameOffer first second)
    (hnext : SameOffer second third) : SameOffer first third where
  id := h.id.trans hnext.id
  settingKey := h.settingKey.trans hnext.settingKey
  oldValue := h.oldValue.trans hnext.oldValue
  newValue := h.newValue.trans hnext.newValue
  targets := h.targets.trans hnext.targets

/-- The service runs with a new identity and the expected snapshot, as the worker has seen. -/
structure Proven (log : List ActivationEvent) (record : ActivationRecord) (outcome : ServiceOutcome) : Prop where
  attempted : outcome.attempted = true
  observed : ∃ after, outcome.after = some after ∧ .observed outcome.service after ∈ log ∧ after.installed = true ∧
    after.activeState = "active" ∧ identityChanged outcome.before after = true ∧
    matchesExpectedSnapshot after record.expectedConfigDigest (expectedVoiceOf record) = true

/-- The record is an offer's, and is read back. -/
structure Identified (log : List ActivationEvent) (record : ActivationRecord) : Prop where
  wellFormed : record.WellFormed
  distinct : record.targets.Nodup
  offered : ∃ offer, .offered offer ∈ log ∧ SameOffer offer record

/-- The status says what the user has agreed to. -/
structure Consented (log : List ActivationEvent) (record : ActivationRecord) : Prop where
  delivered : record.offerDelivered = true → .changed record.id .markOfferDelivered ∈ log
  accepted : record.status = .accepted →
    .changed record.id .markOfferDelivered ∈ log ∧ .changed record.id .accept ∈ log
  confirmed : 2 ≤ record.status.rank → record.status.rank ≤ 4 → Confirmed log record.id
  declined : .changed record.id .decline ∈ log → record.status.rank = 5

/-- A restart is recorded as attempted before it is asked for. -/
structure Attempted (log : List ActivationEvent) (record : ActivationRecord) : Prop where
  fresh : record.status.rank < 3 → record.outcomes = record.targets.map fun service ↦ { service }
  restarts : ∀ service, .restarted record.id false service ∈ log →
    3 ≤ record.status.rank ∧ ∃ outcome ∈ record.outcomes, outcome.service = service ∧ outcome.attempted = true
  rollbacks : ∀ service, .restarted record.id true service ∈ log →
    4 ≤ record.status.rank ∧
      ∃ outcome ∈ record.rollbackOutcomes, outcome.service = service ∧ outcome.attempted = true
  rollingBack : record.status = .rollingBack →
    record.settingKey = "audio.voice" ∧ record.rollbackOutcomes.map ServiceOutcome.service = record.targets ∧
      ∃ detail, .changed record.id (.beginRollback detail) ∈ log

/-- A validation is recorded as attempted before it is asked for, and a validated voice was found usable. -/
structure Voiced (log : List ActivationEvent) (record : ActivationRecord) : Prop where
  attempted : ∀ usable, .validated record.id usable ∈ log → record.voiceValidationAttempted = true
  usable : record.voiceValidated = true → .validated record.id true ∈ log
  restarting : record.status = .restarting → record.settingKey = "audio.voice" → record.voiceValidated = true

/-- What the outcomes report was seen. -/
structure Evident (log : List ActivationEvent) (record : ActivationRecord) : Prop where
  seen : record.status = .restarting → ∀ outcome ∈ record.outcomes, outcome.status = .pending →
    SeenActive log outcome ∨ BegunUnseen log record.id outcome.service
  unattempted : record.status = .rollingBack → ∀ outcome ∈ record.rollbackOutcomes, outcome.status = .pending →
    outcome.before = none ∨ outcome.attempted = true
  proven : ∀ outcome ∈ record.outcomes, outcome.status = .succeeded → Proven log record outcome
  success : record.status = .succeeded → ∀ outcome ∈ record.outcomes, outcome.status = .succeeded

/-- The status and the acknowledgement say how the activation ended. -/
structure Closed (log : List ActivationEvent) (record : ActivationRecord) : Prop where
  ended : record.status.rank = 5 → HasEnded log record.id
  acknowledged : record.acknowledged = true → .changed record.id .acknowledge ∈ log

/-- What the record tells of the log is so. -/
structure Right (log : List ActivationEvent) (record : ActivationRecord) : Prop where
  identified : Identified log record
  consented : Consented log record
  attempted : Attempted log record
  voiced : Voiced log record
  evident : Evident log record
  closed : Closed log record

/-! ### Longer logs -/

section Longer

variable {log longer : List ActivationEvent} {record : ActivationRecord}

theorem Confirmed.mono {id : String} (h : Confirmed log id) (hlog : log ⊆ longer) : Confirmed longer id :=
  ⟨hlog h.delivered, hlog h.accepted, hlog h.announced⟩

theorem SeenActive.mono {outcome : ServiceOutcome} (h : SeenActive log outcome) (hlog : log ⊆ longer) :
    SeenActive longer outcome := by
  obtain ⟨snapshot, hbefore, hseen, hsnapshot⟩ := h
  exact ⟨snapshot, hbefore, hlog hseen, hsnapshot⟩

theorem BegunUnseen.mono {id service : String} (h : BegunUnseen log id service) (hlog : log ⊆ longer) :
    BegunUnseen longer id service := by
  obtain ⟨outcomes, outcome, hbegun, houtcome⟩ := h
  exact ⟨outcomes, outcome, hlog hbegun, houtcome⟩

theorem Proven.mono {outcome : ServiceOutcome} (h : Proven log record outcome) (hlog : log ⊆ longer) :
    Proven longer record outcome := by
  obtain ⟨after, hafter, hobserved, hproven⟩ := h.observed
  exact ⟨h.attempted, after, hafter, hlog hobserved, hproven⟩

theorem Identified.mono (h : Identified log record) (hlog : log ⊆ longer) : Identified longer record := by
  obtain ⟨offer, hoffer, hsame⟩ := h.offered
  exact ⟨h.wellFormed, h.distinct, offer, hlog hoffer, hsame⟩

theorem Consented.mono (h : Consented log record) (hlog : log ⊆ longer)
    (hdeclined : .changed record.id .decline ∈ longer → .changed record.id .decline ∈ log) :
    Consented longer record where
  delivered hdelivered := hlog (h.delivered hdelivered)
  accepted hstatus := (h.accepted hstatus).imp (fun hmem ↦ hlog hmem) fun hmem ↦ hlog hmem
  confirmed hfirst hlast := (h.confirmed hfirst hlast).mono hlog
  declined hmem := h.declined (hdeclined hmem)

theorem Attempted.mono (h : Attempted log record) (hlog : log ⊆ longer)
    (hrestarts : ∀ rollback service, .restarted record.id rollback service ∈ longer →
      .restarted record.id rollback service ∈ log) : Attempted longer record where
  fresh := h.fresh
  restarts service hmem := h.restarts service (hrestarts false service hmem)
  rollbacks service hmem := h.rollbacks service (hrestarts true service hmem)
  rollingBack hstatus := by
    obtain ⟨hkey, hservices, detail, hbegun⟩ := h.rollingBack hstatus
    exact ⟨hkey, hservices, detail, hlog hbegun⟩

theorem Voiced.mono (h : Voiced log record) (hlog : log ⊆ longer)
    (hvalidated : ∀ usable, .validated record.id usable ∈ longer → .validated record.id usable ∈ log) :
    Voiced longer record where
  attempted usable hmem := h.attempted usable (hvalidated usable hmem)
  usable hvoice := hlog (h.usable hvoice)
  restarting := h.restarting

theorem Evident.mono (h : Evident log record) (hlog : log ⊆ longer) : Evident longer record where
  seen hstatus outcome houtcome hpending :=
    (h.seen hstatus outcome houtcome hpending).imp (fun hseen ↦ hseen.mono hlog) fun hbegun ↦ hbegun.mono hlog
  unattempted := h.unattempted
  proven outcome houtcome hsucceeded := (h.proven outcome houtcome hsucceeded).mono hlog
  success := h.success

theorem HasEnded.mono {id : String} (h : HasEnded log id) (hlog : log ⊆ longer) : HasEnded longer id := by
  obtain ⟨change, hending, hmem⟩ := h
  exact ⟨change, hending, hlog hmem⟩

theorem Closed.mono (h : Closed log record) (hlog : log ⊆ longer) : Closed longer record where
  ended hrank := (h.ended hrank).mono hlog
  acknowledged hacknowledged := hlog (h.acknowledged hacknowledged)

/-- The events of a longer log that tell something new of a record. -/
structure Adds (log longer : List ActivationEvent) (id : String) : Prop where
  subset : log ⊆ longer
  declined : .changed id .decline ∈ longer → .changed id .decline ∈ log
  restarts : ∀ rollback service, .restarted id rollback service ∈ longer → .restarted id rollback service ∈ log
  validated : ∀ usable, .validated id usable ∈ longer → .validated id usable ∈ log

/-- A log that tells nothing new of a record leaves it right. -/
theorem Right.mono (h : Right log record) (hlog : Adds log longer record.id) : Right longer record where
  identified := h.identified.mono hlog.subset
  consented := h.consented.mono hlog.subset hlog.declined
  attempted := h.attempted.mono hlog.subset hlog.restarts
  voiced := h.voiced.mono hlog.subset hlog.validated
  evident := h.evident.mono hlog.subset
  closed := h.closed.mono hlog.subset

/-- The time of the last change tells nothing. -/
theorem Right.touch (h : Right log record) (now : Time) : Right log { record with updatedAt := now } where
  identified := ⟨⟨h.identified.wellFormed.id, h.identified.wellFormed.digest, h.identified.wellFormed.some,
    h.identified.wellFormed.services, h.identified.wellFormed.outcomes, h.identified.wellFormed.rollback⟩,
    h.identified.distinct, by
      obtain ⟨offer, hoffer, hsame⟩ := h.identified.offered
      exact ⟨offer, hoffer, hsame.id, hsame.settingKey, hsame.oldValue, hsame.newValue, hsame.targets⟩⟩
  consented := ⟨h.consented.delivered, h.consented.accepted, h.consented.confirmed, h.consented.declined⟩
  attempted := ⟨h.attempted.fresh, h.attempted.restarts, h.attempted.rollbacks, h.attempted.rollingBack⟩
  voiced := ⟨h.voiced.attempted, h.voiced.usable, h.voiced.restarting⟩
  evident := ⟨h.evident.seen, h.evident.unattempted,
    fun outcome houtcome hsucceeded ↦
      ⟨(h.evident.proven outcome houtcome hsucceeded).attempted,
        (h.evident.proven outcome houtcome hsucceeded).observed⟩,
    h.evident.success⟩
  closed := ⟨h.closed.ended, h.closed.acknowledged⟩

end Longer

/-! ### The operations -/

/-- What the worker has to know for an operation to leave the record right. -/
def Justified (log : List ActivationEvent) (record : ActivationRecord) : Change → Prop
  | .markVoiceValidated => .validated record.id true ∈ log
  | .updateRollbackOutcome outcome =>
    (.restarted record.id true outcome.service ∈ log → outcome.attempted = true) ∧
      (outcome.status = .pending → outcome.before = none ∨ outcome.attempted = true)
  | .beginRestart outcomes =>
    outcomes.map ServiceOutcome.service = record.targets ∧
      (record.settingKey = "audio.voice" → record.voiceValidated = true) ∧
      ∀ outcome ∈ outcomes, outcome.status ≠ .succeeded ∧
        (outcome.status = .pending → outcome.before = none ∨ SeenActive log outcome)
  | .updateOutcome outcome =>
    (.restarted record.id false outcome.service ∈ log → outcome.attempted = true) ∧
      (outcome.status = .pending → SeenActive log outcome ∨ BegunUnseen log record.id outcome.service) ∧
      (outcome.status = .succeeded → Proven log record outcome)
  | .finish status _ => status = .succeeded → ∀ outcome ∈ record.outcomes, outcome.status = .succeeded
  | _ => True

section Transition

variable {log : List ActivationEvent} {record next : ActivationRecord} {change : Change}

/-- An operation keeps the identity of its record. -/
theorem Applies.sameOffer (happlies : Applies record change next) : SameOffer record next := by
  cases happlies <;> exact ⟨rfl, rfl, rfl, rfl, rfl⟩

theorem SameOffer.touch (h : SameOffer record next) (now : Time) :
    SameOffer record { next with updatedAt := now } :=
  ⟨h.id, h.settingKey, h.oldValue, h.newValue, h.targets⟩

theorem Identified.applies (h : Identified log record) (happlies : Applies record change next)
    (hchange : Justified log record change) : Identified log next := by
  obtain ⟨offer, hoffer, hsame⟩ := h.offered
  have hwell := h.wellFormed
  refine ⟨?_, ?_, offer, hoffer, hsame.trans happlies.sameOffer⟩
  swap
  · cases happlies <;> exact h.distinct
  cases happlies with
  | beginRollback =>
    refine ⟨hwell.id, hwell.digest, hwell.some, hwell.services, hwell.outcomes, .inr ?_⟩
    simp [Function.comp_def]
  | markRollbackConfigRestored digest _ hdigest =>
    exact ⟨hwell.id, .inr hdigest, hwell.some, hwell.services, hwell.outcomes, hwell.rollback⟩
  | updateRollbackOutcome outcome =>
    refine ⟨hwell.id, hwell.digest, hwell.some, hwell.services, hwell.outcomes, hwell.rollback.imp ?_ ?_⟩
    · intro hempty
      change putOutcome outcome record.rollbackOutcomes = []
      rw [hempty]
      rfl
    · intro hservices
      exact (map_service_putOutcome _ _).trans hservices
  | beginRestart =>
    exact ⟨hwell.id, hwell.digest, hwell.some, hwell.services, hchange.1, hwell.rollback⟩
  | updateOutcome =>
    exact ⟨hwell.id, hwell.digest, hwell.some, hwell.services, (map_service_putOutcome _ _).trans hwell.outcomes,
      hwell.rollback⟩
  | _ => exact ⟨hwell.id, hwell.digest, hwell.some, hwell.services, hwell.outcomes, hwell.rollback⟩

theorem rank_eq_five_iff {status : ActivationStatus} : status.rank = 5 ↔ status.isFinal = true := by
  cases status <;> decide

theorem Change.rank_of_precheck {status : ActivationStatus} {detail : String}
    (h : (Change.finish status detail).precheck = .ok ()) : status.rank = 5 := by
  rw [Change.precheck] at h
  split_ifs at h with hterminal
  rw [rank_eq_five_iff]
  exact (Bool.and_eq_true_iff.mp hterminal).1

/-- What the log of the operation says of the user is what the log before it said. -/
theorem changed_cons {event : Change} (hne : event ≠ change)
    (hmem : .changed record.id event ∈ ActivationEvent.changed record.id change :: log) :
    .changed record.id event ∈ log := by
  rcases List.mem_cons.mp hmem with heq | hmem
  · exact absurd (ActivationEvent.changed.inj heq).2 hne
  · exact hmem

/-- While the worker is at the activation, its operations leave what the user has agreed to. -/
theorem Consented.keep (h : Consented log record) (hid : next.id = record.id)
    (hoffer : next.offerDelivered = record.offerDelivered) (hfirst : 2 ≤ record.status.rank)
    (hlast : record.status.rank ≤ 4) (hnext : next.status ≠ .accepted) (hchange : Change.decline ≠ change) :
    Consented (.changed record.id change :: log) next := by
  have hlonger : log ⊆ ActivationEvent.changed record.id change :: log := List.subset_cons_self _ _
  constructor
  · intro hdelivered
    rw [hid]
    exact hlonger (h.delivered (hoffer ▸ hdelivered))
  · intro haccepted
    exact absurd haccepted hnext
  · intro _ _
    rw [hid]
    exact (h.confirmed hfirst hlast).mono hlonger
  · intro hmem
    rw [hid] at hmem
    have hrank := h.declined (changed_cons hchange hmem)
    omega

theorem Consented.applies (h : Consented log record) (happlies : Applies record change next)
    (hfinal : change.precheck = .ok ()) : Consented (.changed record.id change :: log) next := by
  have hlonger : log ⊆ ActivationEvent.changed record.id change :: log := List.subset_cons_self _ _
  cases happlies with
  | markOfferDelivered hstatus =>
    have hmono := h.mono hlonger (changed_cons (by decide))
    exact ⟨fun _ ↦ List.mem_cons_self, hmono.accepted, hmono.confirmed, hmono.declined⟩
  | accept hstatus hdelivered =>
    refine ⟨fun _ ↦ hlonger (h.delivered hdelivered), fun _ ↦ ⟨hlonger (h.delivered hdelivered), List.mem_cons_self⟩,
      fun hfirst ↦ ?_, fun hmem ↦ ?_⟩
    · simp [ActivationStatus.rank] at hfirst
    · have hrank := h.declined (changed_cons (by decide) hmem)
      simp [hstatus, ActivationStatus.rank] at hrank
  | decline hstatus hdelivered detail =>
    refine ⟨fun _ ↦ hlonger (h.delivered hdelivered), fun haccepted ↦ ?_, fun _ hlast ↦ ?_, fun _ ↦ rfl⟩
    · cases haccepted
    · simp [ActivationStatus.rank] at hlast
  | markPreRestartDelivered hstatus =>
    obtain ⟨hdelivered, haccepted⟩ := h.accepted hstatus
    refine ⟨fun hoffer ↦ hlonger (h.delivered hoffer), fun hother ↦ ?_,
      fun _ _ ↦ ⟨hlonger hdelivered, hlonger haccepted, List.mem_cons_self⟩, fun hmem ↦ ?_⟩
    · cases hother
    have hrank := h.declined (changed_cons (by decide) hmem)
    simp [hstatus, ActivationStatus.rank] at hrank
  | beginVoiceValidation hstatus =>
    exact h.keep rfl rfl (by rw [hstatus]; decide) (by rw [hstatus]; decide) (by simp) (by simp)
  | markVoiceValidated hstatus =>
    exact h.keep rfl rfl (by rw [hstatus]; decide) (by rw [hstatus]; decide) (by simp) (by simp)
  | updateVoiceActivationDigest digest hstatus =>
    exact h.keep rfl rfl (by rw [hstatus]; decide) (by rw [hstatus]; decide) (by simp [hstatus]) (by simp)
  | beginRollback detail hkey hstatus =>
    have hrank : 2 ≤ record.status.rank ∧ record.status.rank ≤ 4 := by
      rcases hstatus with hstatus | hstatus | hstatus <;> rw [hstatus] <;> decide
    exact h.keep rfl rfl hrank.1 hrank.2 (by simp) (by simp)
  | markRollbackConfigRestored digest hstatus =>
    exact h.keep rfl rfl (by rw [hstatus]; decide) (by rw [hstatus]; decide) (by simp [hstatus]) (by simp)
  | updateRollbackOutcome outcome hstatus =>
    exact h.keep rfl rfl (by rw [hstatus]; decide) (by rw [hstatus]; decide) (by simp [hstatus]) (by simp)
  | beginRestart outcomes hstatus =>
    exact h.keep rfl rfl (by rw [hstatus]; decide) (by rw [hstatus]; decide) (by simp) (by simp)
  | updateOutcome outcome hstatus =>
    exact h.keep rfl rfl (by rw [hstatus]; decide) (by rw [hstatus]; decide) (by simp [hstatus]) (by simp)
  | failWorker detail hstatus =>
    have hrank : 2 ≤ record.status.rank ∧ record.status.rank ≤ 4 := by
      rcases hstatus with hstatus | hstatus | hstatus | hstatus <;> rw [hstatus] <;> decide
    exact h.keep rfl rfl hrank.1 hrank.2 (by simp) (by simp)
  | finish status detail =>
    have hrank := Change.rank_of_precheck hfinal
    refine ⟨fun hdelivered ↦ hlonger (h.delivered hdelivered), fun haccepted ↦ ?_, fun _ hlast ↦ ?_, fun _ ↦ hrank⟩
    · change status = .accepted at haccepted
      rw [haccepted] at hrank
      exact absurd hrank (by decide)
    · change status.rank ≤ 4 at hlast
      omega
  | acknowledge hstatus =>
    have hmono := h.mono hlonger (changed_cons (by simp))
    exact ⟨hmono.delivered, hmono.accepted, hmono.confirmed, hmono.declined⟩

/-! The operations add no restart and no validation to the log. -/

/-- Before the restarts, nothing has been attempted. -/
theorem Attempted.early (h : Attempted log record) (hrank : record.status.rank < 3) (hid : next.id = record.id)
    (hfresh : next.status.rank < 3 → next.outcomes = record.outcomes ∧ next.targets = record.targets)
    (hnext : next.status ≠ .rollingBack) : Attempted log next := by
  constructor
  · intro hearly
    obtain ⟨houtcomes, htargets⟩ := hfresh hearly
    rw [houtcomes, htargets]
    exact h.fresh hrank
  · intro service hmem
    rw [hid] at hmem
    have hlate := (h.restarts service hmem).1
    omega
  · intro service hmem
    rw [hid] at hmem
    have hlate := (h.rollbacks service hmem).1
    omega
  · intro hrolling
    exact absurd hrolling hnext

/-- Where the activation ends, the attempts stay recorded. -/
theorem Attempted.final (h : Attempted log record) (hrank : next.status.rank = 5) (hid : next.id = record.id)
    (houtcomes : next.outcomes = record.outcomes) (hrollback : next.rollbackOutcomes = record.rollbackOutcomes) :
    Attempted log next := by
  constructor
  · intro hearly
    omega
  · intro service hmem
    rw [hid] at hmem
    rw [houtcomes, hrank]
    exact ⟨by decide, (h.restarts service hmem).2⟩
  · intro service hmem
    rw [hid] at hmem
    rw [hrollback, hrank]
    exact ⟨by decide, (h.rollbacks service hmem).2⟩
  · intro hrolling
    rw [hrolling] at hrank
    exact absurd hrank (by decide)

/-- An outcome that replaces its service's one keeps the attempts. -/
theorem attempted_putOutcome {outcome : ServiceOutcome} {outcomes : List ServiceOutcome} {service : String}
    (hmember : outcome.service ∈ outcomes.map ServiceOutcome.service)
    (hattempted : service = outcome.service → outcome.attempted = true)
    (h : ∃ item ∈ outcomes, item.service = service ∧ item.attempted = true) :
    ∃ item ∈ putOutcome outcome outcomes, item.service = service ∧ item.attempted = true := by
  obtain ⟨item, hitem, hservice, hitemAttempted⟩ := h
  by_cases hsame : item.service = outcome.service
  · exact ⟨outcome, mem_putOutcome hmember, hsame.symm.trans hservice,
      hattempted (hservice.symm.trans hsame)⟩
  · exact ⟨item, mem_putOutcome_of_ne hitem hsame, hservice, hitemAttempted⟩

theorem Attempted.applies (h : Attempted log record) (hidentified : Identified log record)
    (happlies : Applies record change next) (hchange : Justified log record change)
    (hfinal : change.precheck = .ok ()) : Attempted (.changed record.id change :: log) next := by
  have hadds : ∀ rollback service,
      .restarted record.id rollback service ∈ ActivationEvent.changed record.id change :: log →
        .restarted record.id rollback service ∈ log := by
    intro rollback service hmem
    exact (List.mem_cons.mp hmem).resolve_left (by simp)
  have hmono := h.mono (List.subset_cons_self (ActivationEvent.changed record.id change) log) hadds
  cases happlies with
  | markOfferDelivered => exact ⟨hmono.fresh, hmono.restarts, hmono.rollbacks, hmono.rollingBack⟩
  | accept hstatus => exact hmono.early (by rw [hstatus]; decide) rfl (fun _ ↦ ⟨rfl, rfl⟩) (by simp)
  | decline => exact hmono.final rfl rfl rfl rfl
  | markPreRestartDelivered hstatus =>
    exact hmono.early (by rw [hstatus]; decide) rfl (fun _ ↦ ⟨rfl, rfl⟩) (by simp)
  | beginVoiceValidation hstatus =>
    exact hmono.early (by rw [hstatus]; decide) rfl (fun _ ↦ ⟨rfl, rfl⟩) (by simp)
  | markVoiceValidated hstatus =>
    exact hmono.early (by rw [hstatus]; decide) rfl (fun _ ↦ ⟨rfl, rfl⟩) (by simp)
  | updateVoiceActivationDigest digest hstatus =>
    exact hmono.early (by rw [hstatus]; decide) rfl (fun _ ↦ ⟨rfl, rfl⟩) (by simp [hstatus])
  | beginRestart outcomes hstatus =>
    exact hmono.early (by rw [hstatus]; decide) rfl
      (fun hearly ↦ absurd hearly (by simp [ActivationStatus.rank])) (by simp)
  | beginRollback detail hkey hstatus =>
    have hrank : record.status.rank < 4 := by
      rcases hstatus with hstatus | hstatus | hstatus <;> rw [hstatus] <;> decide
    refine ⟨fun hearly ↦ absurd hearly (by simp [ActivationStatus.rank]), ?_, ?_,
      fun _ ↦ ⟨hkey, ?_, detail, List.mem_cons_self⟩⟩
    · intro service hmem
      exact ⟨by simp [ActivationStatus.rank], (hmono.restarts service hmem).2⟩
    · intro service hmem
      have hlate := (hmono.rollbacks service hmem).1
      omega
    · simp [Function.comp_def]
  | markRollbackConfigRestored =>
    exact ⟨hmono.fresh, hmono.restarts, hmono.rollbacks, hmono.rollingBack⟩
  | updateRollbackOutcome outcome hstatus hservice =>
    obtain ⟨hkey, hservices, hbegun⟩ := hmono.rollingBack hstatus
    refine ⟨hmono.fresh, hmono.restarts, ?_, fun _ ↦ ⟨hkey, (map_service_putOutcome _ _).trans hservices, hbegun⟩⟩
    intro service hmem
    obtain ⟨hrank, hitem⟩ := hmono.rollbacks service hmem
    refine ⟨hrank, attempted_putOutcome (by rwa [hservices]) ?_ hitem⟩
    rintro rfl
    exact hchange.1 (hadds true _ hmem)
  | updateOutcome outcome hstatus hservice =>
    refine ⟨fun hearly ↦ absurd hearly (by simp [hstatus, ActivationStatus.rank]), ?_, ?_,
      fun hrolling ↦ absurd hrolling (by simp [hstatus])⟩
    · intro service hmem
      obtain ⟨hrank, hitem⟩ := hmono.restarts service hmem
      refine ⟨hrank, attempted_putOutcome (by rwa [hidentified.wellFormed.outcomes]) ?_ hitem⟩
      rintro rfl
      exact hchange.1 (hadds false _ hmem)
    · intro service hmem
      have hlate := (hmono.rollbacks service hmem).1
      rw [hstatus] at hlate
      exact absurd hlate (by decide)
  | finish status detail => exact hmono.final (Change.rank_of_precheck hfinal) rfl rfl rfl
  | failWorker => exact hmono.final rfl rfl rfl rfl
  | acknowledge => exact ⟨hmono.fresh, hmono.restarts, hmono.rollbacks, hmono.rollingBack⟩

theorem Voiced.applies (h : Voiced log record) (happlies : Applies record change next)
    (hchange : Justified log record change) (hfinal : change.precheck = .ok ()) :
    Voiced (.changed record.id change :: log) next := by
  have hmono : Voiced (.changed record.id change :: log) record := by
    refine h.mono (List.subset_cons_self _ _) ?_
    intro usable hmem
    exact (List.mem_cons.mp hmem).resolve_left (by simp)
  cases happlies with
  | beginVoiceValidation => exact ⟨fun _ _ ↦ rfl, hmono.usable, fun hstatus ↦ absurd hstatus (by simp)⟩
  | markVoiceValidated =>
    exact ⟨hmono.attempted, fun _ ↦ List.mem_cons_of_mem _ hchange, fun hstatus ↦ absurd hstatus (by simp)⟩
  | beginRestart => exact ⟨hmono.attempted, hmono.usable, fun _ ↦ hchange.2.1⟩
  | finish status detail =>
    refine ⟨hmono.attempted, hmono.usable, fun hstatus ↦ ?_⟩
    have hrank := Change.rank_of_precheck hfinal
    change status = .restarting at hstatus
    rw [hstatus] at hrank
    exact absurd hrank (by decide)
  | accept | decline | markPreRestartDelivered | beginRollback | failWorker =>
    exact ⟨hmono.attempted, hmono.usable, fun hstatus ↦ absurd hstatus (by simp)⟩
  | _ => exact ⟨hmono.attempted, hmono.usable, hmono.restarting⟩

/-- Where the outcomes stay, they stay evident. -/
theorem Evident.keep (h : Evident log record) (hid : next.id = record.id) (houtcomes : next.outcomes = record.outcomes)
    (hdigest : next.expectedConfigDigest = record.expectedConfigDigest)
    (hvoice : expectedVoiceOf next = expectedVoiceOf record)
    (hseen : next.status = .restarting → record.status = .restarting)
    (hrolling : next.status = .rollingBack →
      record.status = .rollingBack ∧ next.rollbackOutcomes = record.rollbackOutcomes)
    (hsuccess : next.status = .succeeded → ∀ outcome ∈ record.outcomes, outcome.status = .succeeded) :
    Evident log next := by
  constructor
  · intro hstatus
    rw [hid, houtcomes]
    exact h.seen (hseen hstatus)
  · intro hstatus
    obtain ⟨hbefore, hrollback⟩ := hrolling hstatus
    rw [hrollback]
    exact h.unattempted hbefore
  · intro outcome houtcome hsucceeded
    rw [houtcomes] at houtcome
    have hproven := h.proven outcome houtcome hsucceeded
    refine ⟨hproven.attempted, ?_⟩
    rw [hdigest, hvoice]
    exact hproven.observed
  · intro hstatus
    rw [houtcomes]
    exact hsuccess hstatus

theorem Evident.applies (h : Evident log record) (hattempted : Attempted log record)
    (happlies : Applies record change next) (hchange : Justified log record change)
    (hfinal : change.precheck = .ok ()) : Evident (.changed record.id change :: log) next := by
  have hlonger : log ⊆ ActivationEvent.changed record.id change :: log := List.subset_cons_self _ _
  have hmono := h.mono hlonger
  cases happlies with
  | updateVoiceActivationDigest digest hstatus =>
    have hfresh : ∀ outcome ∈ record.outcomes, outcome.status ≠ .succeeded := by
      intro outcome houtcome
      rw [hattempted.fresh (by rw [hstatus]; decide)] at houtcome
      obtain ⟨service, -, rfl⟩ := List.mem_map.mp houtcome
      simp
    refine ⟨hmono.seen, hmono.unattempted, ?_, hmono.success⟩
    intro outcome houtcome hsucceeded
    exact absurd hsucceeded (hfresh outcome houtcome)
  | beginRollback detail =>
    refine ⟨fun hstatus ↦ absurd hstatus (by simp), ?_, ?_, fun hstatus ↦ absurd hstatus (by simp)⟩
    · intro _ outcome houtcome _
      obtain ⟨service, -, rfl⟩ := List.mem_map.mp houtcome
      exact .inl rfl
    · intro outcome houtcome hsucceeded
      have hproven := hmono.proven outcome houtcome hsucceeded
      exact ⟨hproven.attempted, hproven.observed⟩
  | updateRollbackOutcome outcome hstatus =>
    refine ⟨hmono.seen, ?_, ?_, hmono.success⟩
    · intro _ item hitem hpending
      rcases mem_putOutcome_cases hitem with rfl | ⟨hold, -⟩
      · exact hchange.2 hpending
      · exact hmono.unattempted hstatus item hold hpending
    · intro item hitem hsucceeded
      have hproven := hmono.proven item hitem hsucceeded
      exact ⟨hproven.attempted, hproven.observed⟩
  | beginRestart outcomes =>
    obtain ⟨-, -, houtcomes⟩ := hchange
    refine ⟨?_, fun hstatus ↦ absurd hstatus (by simp), ?_, fun hstatus ↦ absurd hstatus (by simp)⟩
    · intro _ outcome houtcome hpending
      rcases (houtcomes outcome houtcome).2 hpending with hnone | hseen
      · exact .inr ⟨outcomes, outcome, List.mem_cons_self, houtcome, rfl, hnone⟩
      · exact .inl (hseen.mono hlonger)
    · intro outcome houtcome hsucceeded
      exact absurd hsucceeded (houtcomes outcome houtcome).1
  | updateOutcome outcome hstatus =>
    obtain ⟨-, hpending, hproven⟩ := hchange
    refine ⟨?_, hmono.unattempted, ?_, fun hsuccess ↦ absurd hsuccess (by simp [hstatus])⟩
    · intro _ item hitem hitemPending
      rcases mem_putOutcome_cases hitem with rfl | ⟨hold, -⟩
      · exact (hpending hitemPending).imp (fun hseen ↦ hseen.mono hlonger) fun hbegun ↦ hbegun.mono hlonger
      · exact hmono.seen hstatus item hold hitemPending
    · intro item hitem hsucceeded
      rcases mem_putOutcome_cases hitem with rfl | ⟨hold, -⟩
      · have hitemProven := (hproven hsucceeded).mono hlonger
        exact ⟨hitemProven.attempted, hitemProven.observed⟩
      · have hitemProven := hmono.proven item hold hsucceeded
        exact ⟨hitemProven.attempted, hitemProven.observed⟩
  | finish status detail =>
    have hrank := Change.rank_of_precheck hfinal
    refine hmono.keep rfl rfl rfl rfl ?_ ?_ hchange
    · intro hstatus
      change status = .restarting at hstatus
      rw [hstatus] at hrank
      exact absurd hrank (by decide)
    · intro hstatus
      change status = .rollingBack at hstatus
      rw [hstatus] at hrank
      exact absurd hrank (by decide)
  | accept | decline | markPreRestartDelivered | beginVoiceValidation | markVoiceValidated | failWorker =>
    exact hmono.keep rfl rfl rfl rfl (fun hstatus ↦ absurd hstatus (by simp))
      (fun hstatus ↦ absurd hstatus (by simp)) fun hstatus ↦ absurd hstatus (by simp)
  | markOfferDelivered | acknowledge | markRollbackConfigRestored =>
    exact hmono.keep rfl rfl rfl rfl (fun hstatus ↦ hstatus) (fun hstatus ↦ ⟨hstatus, rfl⟩) hmono.success

theorem Closed.applies (h : Closed log record) (happlies : Applies record change next) :
    Closed (.changed record.id change :: log) next := by
  have hmono := h.mono (List.subset_cons_self (ActivationEvent.changed record.id change) log)
  cases happlies with
  | decline | finish | failWorker =>
    exact ⟨fun _ ↦ ⟨_, rfl, List.mem_cons_self⟩, hmono.acknowledged⟩
  | acknowledge => exact ⟨hmono.ended, fun _ ↦ List.mem_cons_self⟩
  | accept | markPreRestartDelivered | beginVoiceValidation | markVoiceValidated | beginRollback | beginRestart =>
    exact ⟨fun hrank ↦ absurd hrank (by simp [ActivationStatus.rank]), hmono.acknowledged⟩
  | _ => exact ⟨hmono.ended, hmono.acknowledged⟩

/-- An operation that is justified leaves its record right. -/
theorem Right.applies (h : Right log record) (happlies : Applies record change next)
    (hchange : Justified log record change) (hfinal : change.precheck = .ok ()) :
    Right (.changed record.id change :: log) next where
  identified := (h.identified.applies happlies hchange).mono (List.subset_cons_self _ _)
  consented := h.consented.applies happlies hfinal
  attempted := h.attempted.applies h.identified happlies hchange hfinal
  voiced := h.voiced.applies happlies hchange hfinal
  evident := h.evident.applies h.attempted happlies hchange hfinal
  closed := h.closed.applies happlies

/-- The operations that others than the worker call. -/
def Change.isOthers : Change → Bool
  | .markOfferDelivered | .accept | .decline | .markPreRestartDelivered | .beginRollback _ | .failWorker _
  | .acknowledge => true
  | _ => false

/-- The others need to know nothing. -/
theorem justified_of_isOthers (h : change.isOthers = true) : Justified log record change := by
  cases change <;> first | exact trivial | simp [Change.isOthers] at h

end Transition

end VoiceHarness.Activation
