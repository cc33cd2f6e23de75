import VoiceHarness.Activation.Others

/-!
# What the worker does to the journal

The worker keeps the journal sound, whatever the others do between its requests. `Holds` is what it knows of the record
that it last read or wrote: the record is right about the log, and the journal's record of the same activation, if
there is one, follows it. Each part of the worker has its triple, and `safe_executeActivation` is the whole worker's.
-/

set_option autoImplicit false
set_option relaxedAutoImplicit false

namespace VoiceHarness.Activation

open Library Process

section Worker

variable [JournalLibrary]

/-- The journal as a setting of processes. -/
def journalSetting : Library.Setting Request Answer Oracle Journal where
  perform := perform
  Rely := Rely
  Invariant := Sound
  refl := Rely.refl
  trans := Rely.trans

/-- The record is what the worker last read or wrote of its activation. -/
structure Holds (journal : Journal) (record : ActivationRecord) : Prop where
  right : Right journal.log record
  rank : 2 ≤ record.status.rank
  follows : ∀ other, journal.Has other → other.id = record.id → Follows record other

/-- An assertion that the others leave. -/
def Stable (P : Journal → Prop) : Prop := ∀ before after, Rely before after → P before → P after

variable {journal later : Journal} {record next : ActivationRecord}

omit [JournalLibrary] in
theorem Holds.known (h : Holds journal record) : Known journal.log record.id := by
  obtain ⟨offer, hoffer, hsame⟩ := h.right.identified.offered
  exact ⟨offer, hoffer, hsame.id⟩

omit [JournalLibrary] in
theorem Holds.rely (h : Holds journal record) (hrely : Rely journal later) : Holds later record where
  right := by
    refine h.right.mono ⟨hrely.grows.subset, ?_, hrely.grows.restarts record.id, hrely.grows.validated record.id⟩
    refine hrely.undeclined record.id h.known ?_
    intro other hother hid
    exact h.rank.trans (h.follows other hother hid).rank
  rank := h.rank
  follows other hother hid := by
    obtain ⟨old, hold, holdId, hfollows⟩ := hrely.follows record.id h.known other hother hid
    exact (h.follows old hold holdId).trans hfollows

omit [JournalLibrary] in
theorem stable_holds : Stable fun journal ↦ Holds journal record := fun _ _ hrely h ↦ h.rely hrely

omit [JournalLibrary] in
theorem stable_mem (event : ActivationEvent) : Stable fun journal ↦ event ∈ journal.log :=
  fun _ _ hrely hmem ↦ hrely.grows.subset hmem

omit [JournalLibrary] in
theorem Stable.and {P Q : Journal → Prop} (hp : Stable P) (hq : Stable Q) : Stable fun journal ↦ P journal ∧ Q journal :=
  fun before after hrely h ↦ ⟨hp before after hrely h.1, hq before after hrely h.2⟩

omit [JournalLibrary] in
/-- How the log has grown is stable. -/
theorem stable_grows (log : List ActivationEvent) : Stable fun journal ↦ Grows log journal.log :=
  fun _ _ hrely h ↦ h.trans hrely.grows

/-- A request keeps the journal sound and establishes what the others leave. -/
theorem safe_request {asked : Request} {Post : Answer asked → Journal → Prop} (hstable : ∀ answer, Stable (Post answer))
    (h : ∀ later, Rely journal later → Sound later → ∀ oracle,
      Sound (perform oracle asked later).2 ∧ Post (perform oracle asked later).1 (perform oracle asked later).2) :
    Safe journalSetting Post (Process.request asked : Worker (Answer asked)) journal := by
  refine Safe.request ?_
  intro later hrely hsound oracle
  obtain ⟨hafter, hpost⟩ := h later hrely hsound oracle
  exact ⟨hafter, fun last hlast _ ↦ hstable _ _ last hlast hpost⟩

/-- The value of an answer, or its exception. -/
theorem safe_ofExcept {α : Type} {answer : Checked α} {Post : α → Journal → Prop} (hstable : ∀ value, Stable (Post value))
    (h : ∀ value, answer = .ok value → Post value journal) :
    Safe journalSetting Post (Process.ofExcept answer : Worker α) journal := by
  refine Safe.ofExcept ?_
  intro value hvalue later hrely _
  exact hstable value _ _ hrely (h value hvalue)

theorem safe_pure {α : Type} {value : α} {Post : α → Journal → Prop} (hstable : Stable (Post value))
    (h : Post value journal) : Safe journalSetting Post (Process.pure value : Worker α) journal :=
  Safe.pure fun _ hrely _ ↦ hstable _ _ hrely h

/-! ### Requests that only read -/

section Reads

variable {P : Journal → Prop}

omit [JournalLibrary] in
theorem rely_observed {service : String} {snapshot : ServiceSnapshot} :
    Rely journal { journal with log := .observed service snapshot :: journal.log } where
  grows := grows_cons (by simp) (by simp)
  undeclined id _ _ hmem := (List.mem_cons.mp hmem).resolve_left (by simp)
  follows id _ record hrecord hid := ⟨record, ⟨hrecord.file, hrecord.wellFormed⟩, hid, Follows.refl record⟩

omit [JournalLibrary] in
/-- What the file no longer holds has been acknowledged, also after an event that makes no offer. -/
theorem Sound.keptAfter (h : Sound journal) {event : ActivationEvent} (hevent : ∀ offer, event ≠ .offered offer)
    {id : String} (hid : Known (event :: journal.log) id) :
    (∃ record, Journal.Has { journal with log := event :: journal.log } record ∧ record.id = id) ∨
      .changed id .acknowledge ∈ event :: journal.log := by
  obtain ⟨offer, hoffer, hofferId⟩ := hid
  have hknown : Known journal.log id :=
    ⟨offer, (List.mem_cons.mp hoffer).resolve_left (hevent offer).symm, hofferId⟩
  rcases h.kept id hknown with ⟨record, hrecord, hrecordId⟩ | hacknowledged
  · exact .inl ⟨record, ⟨hrecord.file, hrecord.wellFormed⟩, hrecordId⟩
  · exact .inr (List.mem_cons_of_mem _ hacknowledged)

omit [JournalLibrary] in
theorem Sound.observed (h : Sound journal) (service : String) (snapshot : ServiceSnapshot) :
    Sound { journal with log := .observed service snapshot :: journal.log } where
  lawful := ⟨trivial, h.lawful⟩
  readable := h.readable.imp_right fun hrecord ↦ by
    obtain ⟨record, hrecord⟩ := hrecord
    exact ⟨record, hrecord.file, hrecord.wellFormed⟩
  right record hrecord := by
    refine (h.right record ⟨hrecord.file, hrecord.wellFormed⟩).mono ⟨List.subset_cons_self _ _, ?_, ?_, ?_⟩
    · intro hmem
      exact (List.mem_cons.mp hmem).resolve_left (by simp)
    · intro rollback other hmem
      exact (List.mem_cons.mp hmem).resolve_left (by simp)
    · intro usable hmem
      exact (List.mem_cons.mp hmem).resolve_left (by simp)
  kept id hid := h.keptAfter (by simp) hid

theorem safe_loadConfig (hstable : Stable P) (h : P journal) :
    Safe journalSetting (fun _ later ↦ P later) loadConfig journal := by
  have hrequest : Safe journalSetting (fun _ later ↦ P later)
      (Process.request Request.loadConfig : Worker (Checked StoredConfig)) journal :=
    safe_request (fun _ ↦ hstable) fun later hrely hsound _ ↦ ⟨hsound, hstable _ _ hrely h⟩
  refine hrequest.bind fun answer later _ hlater ↦ ?_
  exact safe_ofExcept (fun _ ↦ hstable) fun _ _ ↦ hlater

theorem safe_polls (hstable : Stable P) (h : P journal) :
    Safe journalSetting (fun _ later ↦ P later) polls journal :=
  safe_request (fun _ ↦ hstable) fun _ hrely hsound _ ↦ ⟨hsound, hstable _ _ hrely h⟩

theorem safe_restoreVoice (hstable : Stable P) (h : P journal) :
    Safe journalSetting (fun _ later ↦ P later) (restoreVoice record) journal :=
  safe_request (fun _ ↦ hstable) fun _ hrely hsound _ ↦ ⟨hsound, hstable _ _ hrely h⟩

/-- A snapshot that is taken is in the log. -/
theorem safe_snapshot (hstable : Stable P) (h : P journal) (service : String) :
    Safe journalSetting (fun taken later ↦ P later ∧ .observed service taken ∈ later.log) (snapshot service)
      journal := by
  have hrequest : Safe journalSetting
      (fun answer later ↦ P later ∧ ∀ taken, answer = .ok taken → .observed service taken ∈ later.log)
      (Process.request (Request.snapshot service) : Worker (Checked ServiceSnapshot)) journal := by
    refine safe_request ?_ ?_
    · intro answer before after hrely hbefore
      exact ⟨hstable _ _ hrely hbefore.1, fun taken htaken ↦ hrely.grows.subset (hbefore.2 taken htaken)⟩
    · intro later hrely hsound oracle
      have hlater := hstable _ _ hrely h
      simp only [perform]
      cases oracle.snapshot service with
      | ok taken =>
        refine ⟨hsound.observed service taken, hstable _ _ rely_observed hlater, ?_⟩
        intro other hother
        cases hother
        exact List.mem_cons_self
      | error error =>
        refine ⟨hsound, hlater, ?_⟩
        intro other hother
        cases hother
  refine hrequest.bind fun answer later _ hlater ↦ ?_
  exact safe_ofExcept (fun taken ↦ hstable.and (stable_mem _)) fun taken htaken ↦
    ⟨hlater.1, hlater.2 taken htaken⟩

/-- What the observation of a restart finds. -/
structure Concluded (log : List ActivationEvent) (outcome : ServiceOutcome) (digest : String) (voice : Option String)
    (observed : ServiceOutcome) : Prop where
  service : observed.service = outcome.service
  attempted : observed.attempted = outcome.attempted
  before : observed.before = outcome.before
  status : observed.status ≠ .pending
  succeeded : observed.status = .succeeded → ∃ after, observed.after = some after ∧
    .observed outcome.service after ∈ log ∧ after.installed = true ∧ after.activeState = "active" ∧
    identityChanged outcome.before after = true ∧ matchesExpectedSnapshot after digest voice = true

variable {outcome observed : ServiceOutcome} {digest : String} {voice : Option String}

omit [JournalLibrary] in
theorem Concluded.mono {log longer : List ActivationEvent} (h : Concluded log outcome digest voice observed)
    (hlog : log ⊆ longer) : Concluded longer outcome digest voice observed where
  service := h.service
  attempted := h.attempted
  before := h.before
  status := h.status
  succeeded hstatus := by
    obtain ⟨after, hafter, hmem, hproven⟩ := h.succeeded hstatus
    exact ⟨after, hafter, hlog hmem, hproven⟩

omit [JournalLibrary] in
theorem concluded_concludeRestart {log : List ActivationEvent} {after : ServiceSnapshot}
    (hafter : .observed outcome.service after ∈ log) :
    Concluded log outcome digest voice (concludeRestart outcome digest voice after) := by
  rw [concludeRestart]
  by_cases hproven : (after.installed && after.activeState = "active" && identityChanged outcome.before after &&
      matchesExpectedSnapshot after digest voice) = true
  · rw [if_pos hproven]
    simp only [Bool.and_eq_true, decide_eq_true_eq] at hproven
    exact ⟨rfl, rfl, rfl, by simp, fun _ ↦
      ⟨after, rfl, hafter, hproven.1.1.1, hproven.1.1.2, hproven.1.2, hproven.2⟩⟩
  · rw [if_neg hproven]
    exact ⟨rfl, rfl, rfl, by simp, fun hstatus ↦ absurd hstatus (by simp)⟩

theorem safe_pollRestart (hstable : Stable P) (remaining : ℕ) (first : ServiceSnapshot) (h : P journal)
    (hfirst : .observed outcome.service first ∈ journal.log) :
    Safe journalSetting (fun after later ↦ P later ∧ .observed outcome.service after ∈ later.log)
      (pollRestart outcome digest voice remaining first) journal := by
  induction remaining generalizing first journal with
  | zero => exact safe_pure (hstable.and (stable_mem _)) ⟨h, hfirst⟩
  | succ remaining ih =>
    rw [pollRestart]
    split_ifs with hdone
    · exact safe_pure (hstable.and (stable_mem _)) ⟨h, hfirst⟩
    · exact (safe_snapshot hstable h outcome.service).bind fun after later _ hlater ↦ ih after hlater.1 hlater.2

theorem safe_observeRestart (hstable : Stable P) (h : P journal) :
    Safe journalSetting (fun observed later ↦ P later ∧ Concluded later.log outcome digest voice observed)
      (observeRestart outcome digest voice) journal := by
  refine (safe_polls hstable h).bind fun remaining later _ hlater ↦ ?_
  refine (safe_snapshot hstable hlater outcome.service).bind fun first later _ hfirst ↦ ?_
  refine (safe_pollRestart hstable remaining first hfirst.1 hfirst.2).bind fun after later _ hafter ↦ ?_
  refine safe_pure ?_ ⟨hafter.1, concluded_concludeRestart hafter.2⟩
  exact hstable.and fun _ _ hrely hconcluded ↦ hconcluded.mono hrely.grows.subset

end Reads

/-! ### Operations -/

/-- The record is what this operation left of the journal's record at some time after this one. -/
def Updated (journal : Journal) (recordId : String) (change : Change) (next : ActivationRecord) : Prop :=
  ∃ middle record old now, Rely journal middle ∧ Sound middle ∧ middle.Has record ∧ record.id = recordId ∧
    Applies record change old ∧ next = { old with updatedAt := now }

/-- The operations that the worker calls. -/
def Change.isWorkers : Change → Bool
  | .markOfferDelivered | .accept | .decline | .markPreRestartDelivered | .failWorker _ | .acknowledge => false
  | _ => true

omit [JournalLibrary] in
/-- After an operation of the worker, the activation has been made ready. -/
theorem Applies.rank {change : Change} (happlies : Applies record change next) (hworker : change.isWorkers = true)
    (hprecheck : change.precheck = .ok ()) : 2 ≤ next.status.rank := by
  cases happlies with
  | updateVoiceActivationDigest digest hstatus | markRollbackConfigRestored digest hstatus
  | updateRollbackOutcome outcome hstatus | updateOutcome outcome hstatus =>
    change 2 ≤ record.status.rank
    rw [hstatus]
    decide
  | beginVoiceValidation | markVoiceValidated | beginRollback | beginRestart => simp [ActivationStatus.rank]
  | finish status detail =>
    have hrank := Change.rank_of_precheck hprecheck
    change 2 ≤ status.rank
    omega
  | _ => simp [Change.isWorkers] at hworker

/-- An operation that is justified of every record that the journal may hold then. -/
theorem safe_update {recordId : String} {change : Change} (hworker : change.isWorkers = true)
    (hjustified : ∀ middle record, Rely journal middle → Sound middle → middle.Has record → record.id = recordId →
      Justified middle.log record change) :
    Safe journalSetting
      (fun next later ↦ Updated journal recordId change next ∧ Grows journal.log later.log ∧ Holds later next)
      (update recordId change) journal := by
  have hstable : ∀ next, Stable fun later ↦
      Updated journal recordId change next ∧ Grows journal.log later.log ∧ Holds later next := by
    rintro next before after hrely ⟨hupdated, hgrows, hholds⟩
    exact ⟨hupdated, hgrows.trans hrely.grows, hholds.rely hrely⟩
  have hrequest : Safe journalSetting
      (fun answer later ↦ ∀ next, answer = .ok next →
        Updated journal recordId change next ∧ Grows journal.log later.log ∧ Holds later next)
      (Process.request (Request.update recordId change) : Worker (Checked ActivationRecord)) journal := by
    refine safe_request ?_ ?_
    · intro answer before after hrely h next hnext
      exact hstable next before after hrely (h next hnext)
    · intro middle hrely hsound oracle
      have hperform : perform oracle (Request.update recordId change) middle =
          middle.update recordId change oracle.now := rfl
      rcases hsound.update_cases recordId change oracle.now with ⟨error, herror⟩ |
        ⟨record, old, hrecord, rfl, hprecheck, happlies, hwritten⟩
      · rw [hperform, herror]
        refine ⟨hsound, fun next hnext ↦ ?_⟩
        cases hnext
      · have hchange := hjustified middle record hrely hsound hrecord rfl
        have hright := ((hsound.right record hrecord).applies happlies hchange hprecheck).touch oracle.now
        rw [hperform, hwritten]
        refine ⟨hsound.applies hrecord happlies hchange hprecheck, fun next hnext ↦ ?_⟩
        cases hnext
        refine ⟨⟨middle, record, old, oracle.now, hrely, hsound, hrecord, rfl, happlies, rfl⟩,
          hrely.grows.trans (grows_changed _ _ _), hright, happlies.rank hworker hprecheck, fun other hother _ ↦ ?_⟩
        rw [eq_of_has_write hright.identified.wellFormed hother]
        exact Follows.refl _
  exact hrequest.bind fun answer later _ hlater ↦ safe_ofExcept hstable hlater

omit [JournalLibrary] in
/-- What an operation left of a record that follows the one that the worker held. -/
theorem Holds.updated {change : Change} (h : Holds journal record) (hupdated : Updated journal record.id change next) :
    ∃ middle old now, Follows record middle ∧ Applies middle change old ∧ next = { old with updatedAt := now } := by
  obtain ⟨between, middle, old, now, hrely, -, hmiddle, hid, happlies, hnext⟩ := hupdated
  exact ⟨middle, old, now, (h.rely hrely).follows middle hmiddle hid, happlies, hnext⟩

omit [JournalLibrary] in
/-- The record after an operation is about the same change. -/
theorem Holds.sameOffer {change : Change} (h : Holds journal record)
    (hupdated : Updated journal record.id change next) : SameOffer record next := by
  obtain ⟨middle, old, now, hfollows, happlies, rfl⟩ := h.updated hupdated
  exact hfollows.same.trans (happlies.sameOffer.touch now)

/-! ### Restarts -/

/-- The record has the attempt to restart the service. -/
def Recorded (record : ActivationRecord) (service : String) : Bool → Prop
  | false => 3 ≤ record.status.rank ∧
    ∃ outcome ∈ record.outcomes, outcome.service = service ∧ outcome.attempted = true
  | true => 4 ≤ record.status.rank ∧
    ∃ outcome ∈ record.rollbackOutcomes, outcome.service = service ∧ outcome.attempted = true

omit [JournalLibrary] in
theorem Recorded.follows {service : String} {rollback : Bool} (h : Recorded record service rollback)
    (hfollows : Follows record next) : Recorded next service rollback := by
  cases rollback with
  | false =>
    refine ⟨h.1.trans hfollows.rank, ?_⟩
    rw [hfollows.outcomes]
    exact h.2
  | true =>
    refine ⟨h.1.trans hfollows.rank, ?_⟩
    rw [hfollows.rollback h.1]
    exact h.2

omit [JournalLibrary] in
/-- A restart leaves a record right that has the attempt, and every record of another activation. -/
theorem Right.restarted {log : List ActivationEvent} {id service : String} {rollback : Bool} (h : Right log record)
    (hrecorded : record.id = id → Recorded record service rollback) :
    Right (.restarted id rollback service :: log) record where
  identified := h.identified.mono (List.subset_cons_self _ _)
  consented := h.consented.mono (List.subset_cons_self _ _) fun hmem ↦ (List.mem_cons.mp hmem).resolve_left (by simp)
  attempted := by
    refine ⟨h.attempted.fresh, fun other hmem ↦ ?_, fun other hmem ↦ ?_, fun hstatus ↦ ?_⟩
    · rcases List.mem_cons.mp hmem with heq | hmem
      · obtain ⟨hid, rfl, rfl⟩ := ActivationEvent.restarted.inj heq
        exact hrecorded hid
      · exact h.attempted.restarts other hmem
    · rcases List.mem_cons.mp hmem with heq | hmem
      · obtain ⟨hid, rfl, rfl⟩ := ActivationEvent.restarted.inj heq
        exact hrecorded hid
      · exact h.attempted.rollbacks other hmem
    · obtain ⟨hkey, hservices, detail, hbegun⟩ := h.attempted.rollingBack hstatus
      exact ⟨hkey, hservices, detail, List.mem_cons_of_mem _ hbegun⟩
  voiced := h.voiced.mono (List.subset_cons_self _ _) fun _ hmem ↦ (List.mem_cons.mp hmem).resolve_left (by simp)
  evident := h.evident.mono (List.subset_cons_self _ _)
  closed := h.closed.mono (List.subset_cons_self _ _)

/-- A longer log with no further validation, and no further restart but of this service. -/
structure Restarts (before after : List ActivationEvent) (id : String) (rollback : Bool) (service : String) : Prop where
  subset : before ⊆ after
  restarts : ∀ other flag name, .restarted other flag name ∈ after →
    .restarted other flag name ∈ before ∨ other = id ∧ flag = rollback ∧ name = service

omit [JournalLibrary] in
theorem Grows.restarts_of {before after : List ActivationEvent} (h : Grows before after) (id : String) (rollback : Bool)
    (service : String) : Restarts before after id rollback service :=
  ⟨h.subset, fun other flag name hmem ↦ .inl (h.restarts other flag name hmem)⟩

omit [JournalLibrary] in
theorem Restarts.trans {first second third : List ActivationEvent} {id service : String} {rollback : Bool}
    (h : Restarts first second id rollback service) (hnext : Restarts second third id rollback service) :
    Restarts first third id rollback service where
  subset _ hmem := hnext.subset (h.subset hmem)
  restarts other flag name hmem := by
    rcases hnext.restarts other flag name hmem with hmem | hsame
    · exact h.restarts other flag name hmem
    · exact .inr hsame

/-- A restart that is allowed, of a service whose attempt is recorded. -/
theorem safe_restart {service : String} {rollback : Bool} (h : Holds journal record)
    (hallowed : ∀ middle, Rely journal middle → Allowed middle.log (.restarted record.id rollback service))
    (hrecorded : Recorded record service rollback) :
    Safe journalSetting
      (fun _ later ↦ Holds later record ∧ Restarts journal.log later.log record.id rollback service)
      (restart record.id rollback service) journal := by
  refine safe_request ?_ ?_
  · rintro answer before after hrely ⟨hholds, hrestarts⟩
    exact ⟨hholds.rely hrely, hrestarts.trans (hrely.grows.restarts_of _ _ _)⟩
  · intro middle hrely hsound oracle
    have hmiddle := h.rely hrely
    have hhas : ∀ other, Journal.Has { middle with log := .restarted record.id rollback service :: middle.log } other →
        middle.Has other := fun other hother ↦ ⟨hother.file, hother.wellFormed⟩
    have hother : ∀ other, middle.Has other → other.id = record.id → Recorded other service rollback :=
      fun other hother hid ↦ hrecorded.follows (hmiddle.follows other hother hid)
    refine ⟨⟨⟨hallowed middle hrely, hsound.lawful⟩, ?_, ?_, fun id hid ↦ hsound.keptAfter (by simp) hid⟩,
      ⟨?_, hmiddle.rank, ?_⟩, ?_, ?_⟩
    · refine hsound.readable.imp_right ?_
      rintro ⟨other, hother⟩
      exact ⟨other, hother.file, hother.wellFormed⟩
    · intro other hafter
      exact (hsound.right other (hhas other hafter)).restarted (hother other (hhas other hafter))
    · exact hmiddle.right.restarted fun _ ↦ hrecorded
    · intro other hafter hid
      exact hmiddle.follows other (hhas other hafter) hid
    · intro event hmem
      exact List.mem_cons_of_mem _ (hrely.grows.subset hmem)
    · intro other flag name hmem
      rcases List.mem_cons.mp hmem with heq | hmem
      · exact .inr (ActivationEvent.restarted.inj heq)
      · exact .inl (hrely.grows.restarts other flag name hmem)

omit [JournalLibrary] in
/-- What has to have happened before any restart of an activation. -/
theorem Holds.allowed_restart {service : String} {rollback : Bool} (h : Holds journal record)
    (hrank : record.status.rank ≤ 4) (hservice : service ∈ record.targets)
    (hfirst : .restarted record.id rollback service ∉ journal.log)
    (hseen : (∃ snapshot, .observed service snapshot ∈ journal.log ∧ snapshot.installed = true ∧
      snapshot.activeState = "active") ∨ rollback = false ∧ BegunUnseen journal.log record.id service)
    (hvoice : record.settingKey = "audio.voice" → rollback = false → .validated record.id true ∈ journal.log)
    (hrollback : rollback = true → record.settingKey = "audio.voice" ∧
      ∃ detail, .changed record.id (.beginRollback detail) ∈ journal.log) :
    Allowed journal.log (.restarted record.id rollback service) := by
  obtain ⟨offer, hoffer, hsame⟩ := h.right.identified.offered
  refine ⟨h.right.consented.confirmed h.rank hrank, fun hdeclined ↦ ?_, hfirst, hseen, offer, hoffer, hsame.id,
    ?_, ?_, ?_⟩
  · have hfinal := h.right.consented.declined hdeclined
    omega
  · rwa [hsame.targets]
  · rwa [hsame.settingKey]
  · rwa [hsame.settingKey]

omit [JournalLibrary] in
theorem stable_restarts (log : List ActivationEvent) (id : String) (rollback : Bool) (service : String) :
    Stable fun journal ↦ Restarts log journal.log id rollback service :=
  fun _ _ hrely h ↦ h.trans (hrely.grows.restarts_of id rollback service)

variable {outcome observed : ServiceOutcome} {digest failure : String} {voice : Option String}

/-- The restart command, and what is observed after it. -/
theorem safe_restartAndObserve {rollback : Bool} (h : Holds journal record)
    (hallowed : ∀ middle, Rely journal middle → Allowed middle.log (.restarted record.id rollback outcome.service))
    (hrecorded : Recorded record outcome.service rollback) :
    Safe journalSetting
      (fun observed later ↦ (Holds later record ∧
        Restarts journal.log later.log record.id rollback outcome.service) ∧
          Concluded later.log outcome digest voice observed)
      (restartAndObserve record.id rollback outcome digest voice failure) journal := by
  have hstable : Stable fun later ↦ Holds later record ∧
      Restarts journal.log later.log record.id rollback outcome.service :=
    stable_holds.and (stable_restarts _ _ _ _)
  have hconcluded : ∀ observed, Stable fun later ↦ (Holds later record ∧
      Restarts journal.log later.log record.id rollback outcome.service) ∧
        Concluded later.log outcome digest voice observed :=
    fun observed ↦ hstable.and fun _ _ hrely hconcluded ↦ hconcluded.mono hrely.grows.subset
  refine (safe_restart h hallowed hrecorded).bind fun commanded later _ hlater ↦ ?_
  refine (safe_observeRestart hstable hlater).bind fun observed later _ hobserved ↦ ?_
  cases commanded with
  | ok answer => exact safe_pure (hconcluded _) hobserved
  | error raised =>
    by_cases hfailed : observed.status = .failed
    · simp only [if_pos hfailed]
      obtain ⟨hholds, hservice, hattempted, hbefore, hstatus, hsucceeded⟩ := hobserved
      exact safe_pure (hconcluded _) ⟨hholds, hservice, hattempted, hbefore, hstatus, hsucceeded⟩
    · simp only [if_neg hfailed]
      exact safe_pure (hconcluded _) hobserved

/-! ### The restarts of an activation -/

/-- What the loops know of the outcomes that they have not come to. -/
structure Unfinished (log : List ActivationEvent) (record : ActivationRecord) (rollback : Bool)
    (rest : List ServiceOutcome) : Prop where
  services : ∀ outcome ∈ rest, outcome.service ∈ record.targets
  distinct : (rest.map ServiceOutcome.service).Nodup
  attempted : ∀ outcome ∈ rest, .restarted record.id rollback outcome.service ∈ log → outcome.attempted = true

omit [JournalLibrary] in
/-- A pass of a loop leaves what is known of the outcomes after it. -/
theorem Unfinished.tail {log longer : List ActivationEvent} {rollback : Bool} {rest : List ServiceOutcome}
    (h : Unfinished log record rollback (outcome :: rest)) (hsame : SameOffer record next)
    (hlog : Restarts log longer record.id rollback outcome.service) : Unfinished longer next rollback rest where
  services other hother := by
    rw [← hsame.targets]
    exact h.services other (List.mem_cons_of_mem _ hother)
  distinct := (List.nodup_cons.mp h.distinct).2
  attempted other hother hmem := by
    rw [← hsame.id] at hmem
    rcases hlog.restarts _ _ _ hmem with hearlier | ⟨-, -, hservice⟩
    · exact h.attempted other (List.mem_cons_of_mem _ hother) hearlier
    · refine absurd ?_ (List.nodup_cons.mp h.distinct).1
      rw [← hservice]
      exact List.mem_map_of_mem hother

omit [JournalLibrary] in
theorem expectedVoiceOf_sameOffer (h : SameOffer record next) : expectedVoiceOf next = expectedVoiceOf record := by
  rw [expectedVoiceOf, expectedVoiceOf, h.newValue, h.settingKey]

omit [JournalLibrary] in
/-- An observation may be recorded. -/
theorem justified_concluded {log : List ActivationEvent} (hfollows : Follows record next)
    (hconcluded : Concluded log outcome record.expectedConfigDigest (expectedVoiceOf record) observed)
    (hattempted : outcome.attempted = true) : Justified log next (.updateOutcome observed) := by
  refine ⟨fun _ ↦ hconcluded.attempted.trans hattempted, fun hpending ↦ absurd hpending hconcluded.status, ?_⟩
  intro hsucceeded
  obtain ⟨after, hafter, hmem, hinstalled, hactive, hidentity, hmatches⟩ := hconcluded.succeeded hsucceeded
  refine ⟨hconcluded.attempted.trans hattempted, after, hafter, ?_, hinstalled, hactive, ?_, ?_⟩
  · rwa [hconcluded.service]
  · rwa [hconcluded.before]
  · rwa [hfollows.digest, expectedVoiceOf_sameOffer hfollows.same]

omit [JournalLibrary] in
theorem Updated.updateOutcome {recordId : String} (h : Updated journal recordId (.updateOutcome outcome) next) :
    next.status = .restarting ∧ outcome ∈ next.outcomes := by
  obtain ⟨between, middle, old, now, -, -, hmiddle, -, happlies, rfl⟩ := h
  cases happlies with
  | updateOutcome _ hstatus hservice =>
    refine ⟨hstatus, mem_putOutcome ?_⟩
    rwa [hmiddle.wellFormed.outcomes]

omit [JournalLibrary] in
theorem Updated.updateRollbackOutcome {recordId : String}
    (h : Updated journal recordId (.updateRollbackOutcome outcome) next) :
    next.status = .rollingBack ∧ outcome ∈ next.rollbackOutcomes := by
  obtain ⟨between, middle, old, now, -, hsound, hmiddle, -, happlies, rfl⟩ := h
  cases happlies with
  | updateRollbackOutcome _ hstatus hservice =>
    refine ⟨hstatus, mem_putOutcome ?_⟩
    rwa [((hsound.right middle hmiddle).attempted.rollingBack hstatus).2.1]

/-- What a pass of the loop over the outcomes leaves. -/
structure Passed (before : Journal) (record : ActivationRecord) (rollback : Bool) (service : String)
    (status : ActivationStatus) (next : ActivationRecord) (after : Journal) : Prop where
  holds : Holds after next
  status : next.status = status
  same : SameOffer record next
  restarts : Restarts before.log after.log record.id rollback service

omit [JournalLibrary] in
theorem stable_passed {service : String} {rollback : Bool} {status : ActivationStatus} :
    Stable (Passed journal record rollback service status next) :=
  fun _ _ hrely h ↦ ⟨h.holds.rely hrely, h.status, h.same, h.restarts.trans (hrely.grows.restarts_of _ _ _)⟩

theorem safe_restartTarget {rest : List ServiceOutcome} (h : Holds journal record) (hstatus : record.status = .restarting)
    (hunfinished : Unfinished journal.log record false (outcome :: rest))
    (hseen : outcome.status = .pending →
      SeenActive journal.log outcome ∨ BegunUnseen journal.log record.id outcome.service) :
    Safe journalSetting (Passed journal record false outcome.service .restarting)
      (restartTarget (expectedVoiceOf record) record outcome) journal := by
  rw [restartTarget]
  by_cases hpending : outcome.status = .pending
  swap
  · rw [if_pos hpending]
    exact safe_pure stable_passed ⟨h, hstatus, SameOffer.refl record, (Grows.refl _).restarts_of _ _ _⟩
  rw [if_neg (not_not.mpr hpending)]
  by_cases hattempted : outcome.attempted = true
  · rw [if_pos hattempted]
    refine (safe_observeRestart (stable_holds.and (stable_grows journal.log)) ⟨h, Grows.refl _⟩).bind ?_
    rintro reconciled later - ⟨⟨hholds, hgrows⟩, hconcluded⟩
    refine (safe_update rfl ?_).weaken ?_
    · intro middle other hrely _ hother hid
      exact justified_concluded ((hholds.rely hrely).follows other hother hid)
        (hconcluded.mono hrely.grows.subset) hattempted
    · rintro next last - ⟨hupdated, hlast, hnext⟩
      exact ⟨hnext, hupdated.updateOutcome.1, hholds.sameOffer hupdated, (hgrows.trans hlast).restarts_of _ _ _⟩
  · rw [if_neg hattempted]
    have hnever : .restarted record.id false outcome.service ∉ journal.log := fun hmem ↦
      hattempted (hunfinished.attempted outcome List.mem_cons_self hmem)
    refine (safe_update rfl ?_).bind ?_
    · intro middle other hrely _ hother hid
      refine ⟨fun _ ↦ rfl, fun _ ↦ ?_, fun hsucceeded ↦ ?_⟩
      · rw [hid]
        exact (hseen hpending).imp (fun hsnapshot ↦ hsnapshot.mono hrely.grows.subset) fun hbegun ↦
          hbegun.mono hrely.grows.subset
      · change outcome.status = .succeeded at hsucceeded
        rw [hpending] at hsucceeded
        cases hsucceeded
    rintro marked later - ⟨hupdated, hgrows, hmarked⟩
    have hmarkedSame := h.sameOffer hupdated
    obtain ⟨hmarkedStatus, hmem⟩ := hupdated.updateOutcome
    have hrank : marked.status.rank = 3 := by rw [hmarkedStatus, ActivationStatus.rank]
    have hallowed : ∀ middle, Rely later middle →
        Allowed middle.log (.restarted marked.id false outcome.service) := by
      intro middle hrely
      have hmiddle := hmarked.rely hrely
      refine hmiddle.allowed_restart (by omega) ?_ ?_ ?_ ?_ (by simp)
      · rw [← hmarkedSame.targets]
        exact hunfinished.services outcome List.mem_cons_self
      · intro hrestarted
        rw [← hmarkedSame.id] at hrestarted
        exact hnever ((hgrows.trans hrely.grows).restarts _ _ _ hrestarted)
      · refine (hmiddle.right.evident.seen hmarkedStatus _ hmem hpending).imp ?_ fun hbegun ↦ ⟨rfl, hbegun⟩
        rintro ⟨before, -, hsnapshot, hactive⟩
        exact ⟨before, hsnapshot, hactive⟩
      · intro hkey _
        exact hmiddle.right.voiced.usable (hmiddle.right.voiced.restarting hmarkedStatus hkey)
    have hobserve := @safe_restartAndObserve _ later marked { outcome with attempted := true }
      marked.expectedConfigDigest "restart command failed" (expectedVoiceOf record) false hmarked hallowed
      ⟨by omega, _, hmem, rfl, rfl⟩
    refine hobserve.bind ?_
    rintro observed last - ⟨⟨hholds, hrestarts⟩, hconcluded⟩
    refine (safe_update rfl ?_).weaken ?_
    · intro middle other hrely _ hother hid
      rw [← expectedVoiceOf_sameOffer hmarkedSame] at hconcluded
      exact justified_concluded ((hholds.rely hrely).follows other hother hid)
        (hconcluded.mono hrely.grows.subset) rfl
    · rintro next final - ⟨hlast, hlastGrows, hnext⟩
      have hnextSame := hholds.sameOffer hlast
      refine ⟨hnext, hlast.updateOutcome.1, hmarkedSame.trans hnextSame, ?_⟩
      rw [← hmarkedSame.id] at hrestarts
      exact ((hgrows.restarts_of _ _ _).trans hrestarts).trans (hlastGrows.restarts_of _ _ _)

theorem safe_restartTargets {outcomes : List ServiceOutcome} (h : Holds journal record)
    (hstatus : record.status = .restarting) (hvoice : voice = expectedVoiceOf record)
    (hunfinished : Unfinished journal.log record false outcomes)
    (hseen : ∀ outcome ∈ outcomes, outcome.status = .pending →
      SeenActive journal.log outcome ∨ BegunUnseen journal.log record.id outcome.service) :
    Safe journalSetting (fun next later ↦ Holds later next ∧ next.status = .restarting ∧ next.id = record.id)
      (restartTargets voice outcomes record) journal := by
  induction outcomes generalizing journal record with
  | nil =>
    refine safe_pure ?_ ⟨h, hstatus, rfl⟩
    rintro before after hrely ⟨hholds, hkept⟩
    exact ⟨hholds.rely hrely, hkept⟩
  | cons outcome outcomes ih =>
    subst hvoice
    refine (safe_restartTarget h hstatus hunfinished (hseen outcome List.mem_cons_self)).bind ?_
    intro next later _ hpassed
    have hrest := ih hpassed.holds hpassed.status (expectedVoiceOf_sameOffer hpassed.same).symm
      (hunfinished.tail hpassed.same hpassed.restarts) ?_
    · refine hrest.weaken ?_
      rintro last final - ⟨hholds, hfinal, hid⟩
      exact ⟨hholds, hfinal, hid.trans hpassed.same.id.symm⟩
    · intro other hother hpending
      rw [← hpassed.same.id]
      exact (hseen other (List.mem_cons_of_mem _ hother) hpending).imp
        (fun hsnapshot ↦ hsnapshot.mono hpassed.restarts.subset) fun hbegun ↦ hbegun.mono hpassed.restarts.subset

/-! ### The restarts of a rollback -/

/-- The snapshot before the restart is the recorded one, or is taken now. -/
theorem safe_snapshotBefore {P : Journal → Prop} (hstable : Stable P) (h : P journal) :
    Safe journalSetting
      (fun before later ↦ P later ∧ (outcome.before = none → .observed outcome.service before ∈ later.log))
      (snapshotBefore outcome) journal := by
  rw [snapshotBefore]
  cases hbefore : outcome.before with
  | some before =>
    refine safe_pure (hstable.and fun _ _ _ hnone ↦ ?_) ⟨h, fun hnone ↦ ?_⟩
    · exact fun hsome ↦ absurd hsome (by simp)
    · cases hnone
  | none =>
    refine (safe_snapshot hstable h outcome.service).weaken ?_
    rintro before later - ⟨hlater, hmem⟩
    exact ⟨hlater, fun _ ↦ hmem⟩

theorem safe_rollBackTarget {rest : List ServiceOutcome} (h : Holds journal record)
    (hstatus : record.status = .rollingBack) (hunfinished : Unfinished journal.log record true (outcome :: rest))
    (hunattempted : outcome.status = .pending → outcome.before = none ∨ outcome.attempted = true) :
    Safe journalSetting (Passed journal record true outcome.service .rollingBack)
      (rollBackTarget digest record outcome) journal := by
  rw [rollBackTarget]
  by_cases hpending : outcome.status = .pending
  swap
  · rw [if_pos hpending]
    exact safe_pure stable_passed ⟨h, hstatus, SameOffer.refl record, (Grows.refl _).restarts_of _ _ _⟩
  rw [if_neg (not_not.mpr hpending)]
  refine (safe_snapshotBefore (stable_holds.and (stable_grows journal.log)) ⟨h, Grows.refl _⟩).bind ?_
  rintro before later - ⟨⟨hholds, hgrows⟩, hobserved⟩
  have hearlier : ∀ log, Grows journal.log log → .restarted record.id true outcome.service ∈ log →
      outcome.attempted = true := fun log hlog hmem ↦
    hunfinished.attempted outcome List.mem_cons_self (hlog.restarts _ _ _ hmem)
  -- an outcome that is no longer pending is recorded
  have hrecord : ∀ concluded : ServiceOutcome, concluded.service = outcome.service → concluded.status ≠ .pending →
      concluded.attempted = outcome.attempted → ∀ last, Holds last record → Grows journal.log last.log →
      Safe journalSetting (Passed journal record true outcome.service .rollingBack)
        (update record.id (.updateRollbackOutcome concluded)) last := by
    intro concluded hservice hconcluded hattempted last hlast hlastGrows
    refine (safe_update rfl ?_).weaken ?_
    · intro middle other hrely _ hother hid
      refine ⟨fun hrestarted ↦ ?_, fun hstill ↦ absurd hstill hconcluded⟩
      rw [hid, hservice] at hrestarted
      exact hattempted.trans (hearlier _ (hlastGrows.trans hrely.grows) hrestarted)
    · rintro next final - ⟨hupdated, hfinal, hnext⟩
      exact ⟨hnext, hupdated.updateRollbackOutcome.1, hlast.sameOffer hupdated,
        (hlastGrows.trans hfinal).restarts_of _ _ _⟩
  by_cases hrestored : (before.installed && before.activeState = "active" && before.configDigest = digest) = true
  · rw [if_pos hrestored]
    refine hrecord _ ?_ ?_ ?_ later hholds hgrows
    · rfl
    · intro hstill
      cases hstill
    · rfl
  rw [if_neg hrestored]
  by_cases hunavailable : (!before.installed || before.activeState ≠ "active") = true
  · rw [if_pos hunavailable]
    refine hrecord _ ?_ ?_ ?_ later hholds hgrows
    · rfl
    · intro hstill
      cases hstill
    · rfl
  rw [if_neg hunavailable]
  by_cases hattempted : outcome.attempted = true
  · change Safe journalSetting _ (if outcome.attempted = true then _ else _) later
    rw [if_pos hattempted]
    have hobserve := @safe_observeRestart _ later _ { outcome with before := some before } digest none
      (stable_holds.and (stable_grows journal.log)) ⟨hholds, hgrows⟩
    refine hobserve.bind ?_
    rintro observed last - ⟨⟨hlast, hlastGrows⟩, hconcluded⟩
    exact hrecord observed hconcluded.service hconcluded.status hconcluded.attempted last hlast hlastGrows
  · change Safe journalSetting _ (if outcome.attempted = true then _ else _) later
    rw [if_neg hattempted]
    have hseen := hobserved ((hunattempted hpending).resolve_right hattempted)
    have hactive : before.installed = true ∧ before.activeState = "active" := by simpa using hunavailable
    refine (safe_update rfl ?_).bind ?_
    · intro middle other _ _ _ _
      exact ⟨fun _ ↦ rfl, fun _ ↦ .inr rfl⟩
    rintro marked last - ⟨hupdated, hlastGrows, hmarked⟩
    have hmarkedSame := hholds.sameOffer hupdated
    obtain ⟨hmarkedStatus, hmem⟩ := hupdated.updateRollbackOutcome
    have hrank : marked.status.rank = 4 := by rw [hmarkedStatus, ActivationStatus.rank]
    have hallowed : ∀ middle, Rely last middle →
        Allowed middle.log (.restarted marked.id true outcome.service) := by
      intro middle hrely
      have hmiddle := hmarked.rely hrely
      obtain ⟨hkey, -, hbegun⟩ := hmiddle.right.attempted.rollingBack hmarkedStatus
      refine hmiddle.allowed_restart (by omega) ?_ ?_ ?_ (by simp) fun _ ↦ ⟨hkey, hbegun⟩
      · rw [← hmarkedSame.targets]
        exact hunfinished.services outcome List.mem_cons_self
      · intro hrestarted
        rw [← hmarkedSame.id] at hrestarted
        exact hattempted (hearlier _ ((hgrows.trans hlastGrows).trans hrely.grows) hrestarted)
      · exact .inl ⟨before, (hlastGrows.trans hrely.grows).subset hseen, hactive⟩
    have hobserve := @safe_restartAndObserve _ last marked { outcome with before := some before, attempted := true }
      digest "rollback restart command failed" none true hmarked hallowed ⟨by omega, _, hmem, rfl, rfl⟩
    refine hobserve.bind ?_
    rintro observed final - ⟨⟨hfinal, hrestarts⟩, hconcluded⟩
    refine (safe_update rfl ?_).weaken ?_
    · intro middle other _ _ _ _
      exact ⟨fun _ ↦ hconcluded.attempted, fun hstill ↦ absurd hstill hconcluded.status⟩
    · rintro next closing - ⟨hclosing, hclosingGrows, hnext⟩
      refine ⟨hnext, hclosing.updateRollbackOutcome.1, hmarkedSame.trans (hfinal.sameOffer hclosing), ?_⟩
      rw [← hmarkedSame.id] at hrestarts
      exact (((hgrows.trans hlastGrows).restarts_of _ _ _).trans hrestarts).trans (hclosingGrows.restarts_of _ _ _)

theorem safe_rollBackTargets {outcomes : List ServiceOutcome} (h : Holds journal record)
    (hstatus : record.status = .rollingBack) (hunfinished : Unfinished journal.log record true outcomes)
    (hunattempted : ∀ outcome ∈ outcomes, outcome.status = .pending →
      outcome.before = none ∨ outcome.attempted = true) :
    Safe journalSetting (fun next later ↦ Holds later next ∧ next.id = record.id)
      (rollBackTargets digest outcomes record) journal := by
  induction outcomes generalizing journal record with
  | nil =>
    refine safe_pure ?_ ⟨h, rfl⟩
    rintro before after hrely ⟨hholds, hid⟩
    exact ⟨hholds.rely hrely, hid⟩
  | cons outcome outcomes ih =>
    refine (safe_rollBackTarget h hstatus hunfinished (hunattempted outcome List.mem_cons_self)).bind ?_
    intro next later _ hpassed
    have hrest := ih hpassed.holds hpassed.status (hunfinished.tail hpassed.same hpassed.restarts)
      fun other hother ↦ hunattempted other (List.mem_cons_of_mem _ hother)
    refine hrest.weaken ?_
    rintro last final - ⟨hholds, hid⟩
    exact ⟨hholds, hid.trans hpassed.same.id.symm⟩

/-! ### The end of an activation -/

/-- The worker has brought the activation to an end. -/
def Ended (recordId : String) (record : ActivationRecord) (journal : Journal) : Prop :=
  Holds journal record ∧ record.id = recordId ∧ record.status.isFinal = true

theorem safe_finish {status : ActivationStatus} {detail : String} (hfinal : status.isFinal = true)
    (hsuccess : status = .succeeded → Holds journal record ∧ ∀ outcome ∈ record.outcomes, outcome.status = .succeeded) :
    Safe journalSetting (Ended record.id) (finish record status detail) journal := by
  refine (safe_update rfl ?_).weaken ?_
  · intro middle other hrely _ hother hid hstatus
    obtain ⟨hholds, houtcomes⟩ := hsuccess hstatus
    rw [((hholds.rely hrely).follows other hother hid).outcomes]
    exact houtcomes
  · rintro next later - ⟨⟨between, middle, old, now, -, -, -, hid, happlies, rfl⟩, -, hnext⟩
    refine ⟨hnext, happlies.sameOffer.id.symm.trans hid, ?_⟩
    cases happlies with
    | finish => exact hfinal

/-- An activation that has not succeeded may end at any time. -/
theorem safe_finish_failed {status : ActivationStatus} {detail : String} (hfinal : status.isFinal = true)
    (hfailed : status ≠ .succeeded) : Safe journalSetting (Ended record.id) (finish record status detail) journal :=
  safe_finish hfinal fun hstatus ↦ absurd hstatus hfailed

end Worker

end VoiceHarness.Activation
