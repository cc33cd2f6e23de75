import VoiceHarness.Activation.Worker

/-!
# Activations among crashes

The whole worker keeps the journal sound (`safe_executeActivation`), so every run of workers and callers does, in which
workers are stopped anywhere and start again. What follows of such runs is said of the log: a service is restarted at
most once for an activation and once for its rollback, never without the user's consent, and a success that is
reported was seen.
-/

set_option autoImplicit false
set_option relaxedAutoImplicit false

namespace VoiceHarness.Activation

open Library Process

section Whole

variable [JournalLibrary] {journal later : Journal} {record next : ActivationRecord}

omit [JournalLibrary] in
theorem stable_ended {recordId : String} : Stable (Ended recordId record) :=
  fun _ _ hrely h ↦ ⟨h.1.rely hrely, h.2⟩

omit [JournalLibrary] in
/-- The outcomes that a right record has are unfinished before its first pass. -/
theorem unfinished_outcomes (h : Right journal.log record) : Unfinished journal.log record false record.outcomes := by
  have hservices := h.identified.wellFormed.outcomes
  have hdistinct : (record.outcomes.map ServiceOutcome.service).Nodup := by
    rw [hservices]
    exact h.identified.distinct
  refine ⟨fun outcome houtcome ↦ ?_, hdistinct, fun outcome houtcome hmem ↦ ?_⟩
  · rw [← hservices]
    exact List.mem_map_of_mem houtcome
  · obtain ⟨-, other, hother, hservice, hattempted⟩ := h.attempted.restarts _ hmem
    rwa [List.inj_on_of_nodup_map hdistinct houtcome hother hservice.symm]

omit [JournalLibrary] in
theorem unfinished_rollbackOutcomes (h : Right journal.log record) (hstatus : record.status = .rollingBack) :
    Unfinished journal.log record true record.rollbackOutcomes := by
  obtain ⟨-, hservices, -⟩ := h.attempted.rollingBack hstatus
  have hdistinct : (record.rollbackOutcomes.map ServiceOutcome.service).Nodup := by
    rw [hservices]
    exact h.identified.distinct
  refine ⟨fun outcome houtcome ↦ ?_, hdistinct, fun outcome houtcome hmem ↦ ?_⟩
  · rw [← hservices]
    exact List.mem_map_of_mem houtcome
  · obtain ⟨-, other, hother, hservice, hattempted⟩ := h.attempted.rollbacks _ hmem
    rwa [List.inj_on_of_nodup_map hdistinct houtcome hother hservice.symm]

/-! ### The rollback -/

theorem safe_rollBackServices (h : Holds journal record) (hstatus : record.status = .rollingBack) :
    Safe journalSetting (Ended record.id) (rollBackServices record) journal := by
  refine (safe_rollBackTargets h hstatus (unfinished_rollbackOutcomes h.right hstatus)
    (h.right.evident.unattempted hstatus)).bind ?_
  rintro last later - ⟨hlast, hid⟩
  refine (safe_loadConfig stable_holds hlast).bind ?_
  rintro finalConfig final - -
  rw [← hid]
  split_ifs
  · exact safe_finish_failed rfl (by decide)
  · exact safe_finish_failed rfl (by decide)
  · exact safe_finish_failed rfl (by decide)

theorem safe_rollBackFrom (h : Holds journal record) (restored : StoredConfig) :
    Safe journalSetting (Ended record.id) (rollBackFrom record restored) journal := by
  refine (safe_update rfl ?_).bind ?_
  · intro middle other _ _ _ _
    exact trivial
  rintro marked later - ⟨hupdated, -, hmarked⟩
  rw [(h.sameOffer hupdated).id]
  refine safe_rollBackServices hmarked ?_
  obtain ⟨between, middle, old, now, -, -, -, -, happlies, rfl⟩ := hupdated
  cases happlies with
  | markRollbackConfigRestored digest hstatus => exact hstatus

theorem safe_executeVoiceRollback (h : Holds journal record) (hstatus : record.status = .rollingBack) :
    Safe journalSetting (Ended record.id) (executeVoiceRollback record) journal := by
  have hfailed : ∀ detail later, Safe journalSetting (Ended record.id) (finish record .failed detail) later :=
    fun detail later ↦ safe_finish_failed rfl (by decide)
  rw [executeVoiceRollback]
  cases record.oldValue with
  | flag oldFlag => exact hfailed _ _
  | text oldVoice =>
    cases record.newValue with
    | flag newFlag => exact hfailed _ _
    | text newVoice =>
      refine (safe_loadConfig stable_holds h).bind ?_
      intro currentConfig later _ hlater
      split_ifs
      · exact safe_rollBackFrom hlater currentConfig
      · refine (safe_restoreVoice stable_holds hlater).bind ?_
        intro answer last _ hlast
        cases answer with
        | error raised => exact hfailed _ _
        | ok restored =>
          dsimp only
          split_ifs
          · exact hfailed _ _
          · exact safe_rollBackFrom hlast restored
      · exact hfailed _ _
      · exact hfailed _ _
      · exact safe_rollBackFrom hlater currentConfig
      · exact safe_rollBackServices hlater hstatus

theorem safe_rollBack (h : Holds journal record) (detail : String) :
    Safe journalSetting (Ended record.id) (rollBack record detail) journal := by
  refine (safe_update rfl ?_).bind ?_
  · intro middle other _ _ _ _
    exact trivial
  rintro begun later - ⟨hupdated, -, hbegun⟩
  rw [(h.sameOffer hupdated).id]
  refine safe_executeVoiceRollback hbegun ?_
  obtain ⟨between, middle, old, now, -, -, -, -, happlies, rfl⟩ := hupdated
  cases happlies
  rfl

/-! ### The activation -/

theorem safe_concludeActivation (h : Holds journal record) (finalConfig : StoredConfig) :
    Safe journalSetting (Ended record.id) (concludeActivation record finalConfig) journal := by
  -- as many outcomes have succeeded as there are
  have hcomplete : (record.outcomes.filter (·.status = .succeeded)).length = record.outcomes.length →
      Holds journal record ∧ ∀ outcome ∈ record.outcomes, outcome.status = .succeeded := by
    intro hlength
    refine ⟨h, fun outcome houtcome ↦ ?_⟩
    rw [List.length_filter_eq_length_iff] at hlength
    simpa using hlength outcome houtcome
  simp only [concludeActivation]
  refine Safe.ite (fun _ ↦ safe_rollBack h _) fun _ ↦ ?_
  refine Safe.ite (fun hvoice ↦ safe_finish rfl fun _ ↦ hcomplete hvoice.2) fun _ ↦ ?_
  refine Safe.ite (fun _ ↦ ?_) fun _ ↦ ?_
  · split_ifs
    · exact safe_finish_failed rfl (by decide)
    · exact safe_finish_failed rfl (by decide)
  refine Safe.ite (fun hall ↦ safe_finish rfl fun _ ↦ hcomplete hall) fun _ ↦ ?_
  exact Safe.ite (fun _ ↦ safe_finish_failed rfl (by decide)) fun _ ↦ safe_finish_failed rfl (by decide)

theorem safe_activateServices (h : Holds journal record) :
    Safe journalSetting (Ended record.id) (activateServices record) journal := by
  refine Safe.ite (fun _ ↦ Safe.throw) fun hstatus ↦ ?_
  have hrestarting : record.status = .restarting := not_not.mp hstatus
  refine (safe_restartTargets h hrestarting rfl (unfinished_outcomes h.right)
    (h.right.evident.seen hrestarting)).bind ?_
  rintro last later - ⟨hlast, -, hid⟩
  rw [← hid]
  refine (safe_loadConfig stable_holds hlast).bind ?_
  intro finalConfig final _ hfinal
  exact safe_concludeActivation hfinal finalConfig

/-- The outcomes with which the restarts begin. -/
structure Initial (log : List ActivationEvent) (services : List String) (initial : List ServiceOutcome) : Prop where
  services : initial.map ServiceOutcome.service = services
  unproven : ∀ outcome ∈ initial, outcome.status ≠ .succeeded
  seen : ∀ outcome ∈ initial, outcome.status = .pending → SeenActive log outcome

omit [JournalLibrary] in
theorem Initial.mono {log longer : List ActivationEvent} {services : List String} {initial : List ServiceOutcome}
    (h : Initial log services initial) (hlog : log ⊆ longer) : Initial longer services initial :=
  ⟨h.services, h.unproven, fun outcome houtcome hpending ↦ (h.seen outcome houtcome hpending).mono hlog⟩

omit [JournalLibrary] in
/-- A pending outcome with its snapshot, and the others. -/
theorem Initial.cons {log : List ActivationEvent} {services : List String} {initial : List ServiceOutcome}
    {outcome : ServiceOutcome} {before : ServiceSnapshot} (h : Initial log services initial)
    (hobserved : .observed outcome.service before ∈ log) (hpending : outcome.status = .pending) :
    Initial log (outcome.service :: services)
      ((if (!before.installed || before.activeState ≠ "active") = true then
        { outcome with status := .failed, before := some before, detail := unavailableDetail before }
      else { outcome with before := some before }) :: initial) := by
  by_cases hunavailable : (!before.installed || before.activeState ≠ "active") = true
  · rw [if_pos hunavailable]
    refine ⟨by rw [List.map_cons, h.services], fun other hother ↦ ?_, fun other hother hstatus ↦ ?_⟩
    · rcases List.mem_cons.mp hother with rfl | hother
      · simp
      · exact h.unproven other hother
    · rcases List.mem_cons.mp hother with rfl | hother
      · cases hstatus
      · exact h.seen other hother hstatus
  · rw [if_neg hunavailable]
    have hactive : before.installed = true ∧ before.activeState = "active" := by simpa using hunavailable
    refine ⟨by rw [List.map_cons, h.services], fun other hother ↦ ?_, fun other hother hstatus ↦ ?_⟩
    · rcases List.mem_cons.mp hother with rfl | hother
      · simp [hpending]
      · exact h.unproven other hother
    · rcases List.mem_cons.mp hother with rfl | hother
      · exact ⟨before, rfl, hobserved, hactive⟩
      · exact h.seen other hother hstatus

/-- The snapshots before the restarts. -/
theorem safe_initialOutcomes {P : Journal → Prop} (hstable : Stable P) {outcomes : List ServiceOutcome}
    (h : P journal) (hpending : ∀ outcome ∈ outcomes, outcome.status = .pending) :
    Safe journalSetting
      (fun initial later ↦ P later ∧ Initial later.log (outcomes.map ServiceOutcome.service) initial)
      (initialOutcomes outcomes) journal := by
  have hinitial : ∀ services initial, Stable fun later ↦ Initial later.log services initial :=
    fun _ _ _ _ hrely hbefore ↦ hbefore.mono hrely.grows.subset
  induction outcomes generalizing journal P with
  | nil =>
    refine safe_pure (hstable.and (hinitial _ _)) ⟨h, rfl, fun outcome houtcome ↦ ?_, fun outcome houtcome ↦ ?_⟩
    · exact absurd houtcome List.not_mem_nil
    · exact absurd houtcome List.not_mem_nil
  | cons outcome outcomes ih =>
    refine (safe_snapshot hstable h outcome.service).bind ?_
    rintro before later - hlater
    have hrest := ih (hstable.and (stable_mem _)) hlater fun other hother ↦
      hpending other (List.mem_cons_of_mem _ hother)
    refine hrest.bind ?_
    rintro initial last - ⟨⟨hlast, hobserved⟩, hservices⟩
    exact safe_pure (hstable.and (hinitial _ _))
      ⟨hlast, hservices.cons hobserved (hpending outcome List.mem_cons_self)⟩

/-- A voice that is ready to be activated has been found usable. -/
def VoiceReady (record : ActivationRecord) : Prop :=
  record.status = .ready → record.settingKey = "audio.voice" → record.voiceValidated = true

theorem safe_beginActivation (h : Holds journal record) (hvoice : VoiceReady record) :
    Safe journalSetting (Ended record.id) (beginActivation record) journal := by
  refine Safe.ite (fun hstatus ↦ ?_) fun _ ↦ safe_activateServices h
  have hfresh := h.right.attempted.fresh (by rw [hstatus]; decide)
  have hpending : ∀ outcome ∈ record.outcomes, outcome.status = .pending := by
    rw [hfresh]
    intro outcome houtcome
    obtain ⟨service, -, rfl⟩ := List.mem_map.mp houtcome
    rfl
  refine (safe_initialOutcomes stable_holds h hpending).bind ?_
  rintro initial later - ⟨hlater, hinitial⟩
  refine (safe_update rfl ?_).bind ?_
  · intro middle other hrely _ hother hid
    have hfollows := (hlater.rely hrely).follows other hother hid
    refine ⟨?_, fun hkey ↦ ?_, fun outcome houtcome ↦ ⟨hinitial.unproven outcome houtcome, fun hstill ↦ .inr ?_⟩⟩
    · rw [hinitial.services, h.right.identified.wellFormed.outcomes, hfollows.same.targets]
    · rw [hfollows.validated]
      exact hvoice hstatus (hfollows.same.settingKey.trans hkey)
    · exact (hinitial.seen outcome houtcome hstill).mono hrely.grows.subset
  rintro begun last - ⟨hupdated, -, hbegun⟩
  rw [(hlater.sameOffer hupdated).id]
  exact safe_activateServices hbegun

theorem safe_confirmVoice (h : Holds journal record) (hvoice : VoiceReady record) :
    Safe journalSetting (Ended record.id) (confirmVoice record) journal := by
  refine Safe.ite (fun hready ↦ ?_) fun _ ↦ safe_beginActivation h hvoice
  refine (safe_loadConfig stable_holds h).bind ?_
  intro effectiveConfig later _ hlater
  refine Safe.ite (fun _ ↦ safe_rollBack hlater _) fun _ ↦ ?_
  refine Safe.ite (fun _ ↦ ?_) fun _ ↦ safe_beginActivation hlater hvoice
  refine (safe_update rfl ?_).bind ?_
  · intro middle other _ _ _ _
    exact trivial
  rintro updated last - ⟨hupdated, -, hlast⟩
  rw [(hlater.sameOffer hupdated).id]
  refine safe_beginActivation hlast fun _ _ ↦ ?_
  obtain ⟨middle, old, now, hfollows, happlies, rfl⟩ := hlater.updated hupdated
  cases happlies
  exact hfollows.validated.trans (hvoice hready.2 hready.1)

omit [JournalLibrary] in
/-- A validation leaves a record right that has the attempt, and every record of another activation. -/
theorem Right.validated {log : List ActivationEvent} {id : String} {usable : Bool} (h : Right log record)
    (hattempted : record.id = id → record.voiceValidationAttempted = true) :
    Right (.validated id usable :: log) record where
  identified := h.identified.mono (List.subset_cons_self _ _)
  consented := h.consented.mono (List.subset_cons_self _ _) fun hmem ↦ (List.mem_cons.mp hmem).resolve_left (by simp)
  attempted := h.attempted.mono (List.subset_cons_self _ _) fun _ _ hmem ↦
    (List.mem_cons.mp hmem).resolve_left (by simp)
  voiced := by
    refine ⟨fun other hmem ↦ ?_, fun hvoice ↦ List.mem_cons_of_mem _ (h.voiced.usable hvoice), h.voiced.restarting⟩
    rcases List.mem_cons.mp hmem with heq | hmem
    · exact hattempted (ActivationEvent.validated.inj heq).1
    · exact h.voiced.attempted other hmem
  evident := h.evident.mono (List.subset_cons_self _ _)
  closed := h.closed.mono (List.subset_cons_self _ _)

/-- The first validation of an activation, and what it proves. -/
theorem safe_validate {voice : String} (h : Holds journal record) (hrank : record.status.rank ≤ 4)
    (hattempted : record.voiceValidationAttempted = true)
    (hfirst : ∀ usable, .validated record.id usable ∉ journal.log) :
    Safe journalSetting
      (fun answer later ↦ Holds later record ∧
        ((provenValidation answer).usable = true → .validated record.id true ∈ later.log))
      (validate record.id voice) journal := by
  refine safe_request ?_ ?_
  · rintro answer before after hrely ⟨hholds, husable⟩
    exact ⟨hholds.rely hrely, fun hproven ↦ hrely.grows.subset (husable hproven)⟩
  · intro middle hrely hsound oracle
    have hmiddle := h.rely hrely
    have hhas : ∀ other,
        Journal.Has { middle with log := .validated record.id oracle.isUsable :: middle.log } other →
          middle.Has other := fun other hother ↦ ⟨hother.file, hother.wellFormed⟩
    have hother : ∀ other, middle.Has other → other.id = record.id → other.voiceValidationAttempted = true :=
      fun other hother hid ↦ (hmiddle.follows other hother hid).attempted.trans hattempted
    refine ⟨⟨⟨⟨hmiddle.known, hmiddle.right.consented.confirmed h.rank hrank, fun usable hmem ↦ ?_⟩, hsound.lawful⟩,
      ?_, ?_, fun id hid ↦ hsound.keptAfter (by simp) hid⟩, ⟨?_, hmiddle.rank, ?_⟩, fun husable ↦ ?_⟩
    · exact hfirst usable (hrely.grows.validated _ _ hmem)
    · refine hsound.readable.imp_right ?_
      rintro ⟨other, hother⟩
      exact ⟨other, hother.file, hother.wellFormed⟩
    · intro other hafter
      exact (hsound.right other (hhas other hafter)).validated (hother other (hhas other hafter))
    · exact hmiddle.right.validated fun _ ↦ hattempted
    · intro other hafter hid
      exact hmiddle.follows other (hhas other hafter) hid
    · have husable : oracle.isUsable = true := by
        change (provenValidation oracle.validate).usable = true at husable
        rw [Oracle.isUsable]
        cases hanswer : oracle.validate with
        | ok validation => rwa [hanswer] at husable
        | error raised =>
          rw [hanswer] at husable
          cases husable
      rw [← husable]
      exact List.mem_cons_self

theorem safe_validateAndActivate (h : Holds journal record) :
    Safe journalSetting (Ended record.id) (validateAndActivate record) journal := by
  refine Safe.ite (fun hready ↦ ?_) fun hready ↦ ?_
  swap
  · refine safe_confirmVoice h fun hstatus hkey ↦ ?_
    by_contra hunvalidated
    exact hready ⟨hkey, hstatus, by simpa using hunvalidated⟩
  cases hvalue : record.newValue with
  | flag flag => exact safe_rollBack h _
  | text candidateVoice =>
    refine (safe_update rfl ?_).bind ?_
    · intro middle other _ _ _ _
      exact trivial
    rintro begun later - ⟨hupdated, hgrows, hbegun⟩
    rw [(h.sameOffer hupdated).id]
    -- the operation goes through only where no validation has been attempted
    obtain ⟨hstatus, hattempted, hfirst⟩ : begun.status = .validating ∧ begun.voiceValidationAttempted = true ∧
        ∀ usable, .validated begun.id usable ∉ later.log := by
      obtain ⟨between, middle, old, now, hrely, hsound, hmiddle, -, happlies, rfl⟩ := hupdated
      have hunvalidated := (hsound.right middle hmiddle).voiced.attempted
      cases happlies with
      | beginVoiceValidation _ _ hfirst =>
        refine ⟨rfl, rfl, fun usable hmem ↦ ?_⟩
        have hattempted := hunvalidated usable (hrely.grows.subset (hgrows.validated _ _ hmem))
        rw [hfirst] at hattempted
        cases hattempted
    refine (safe_validate hbegun (by rw [hstatus]; decide) hattempted hfirst).bind ?_
    rintro answer last - ⟨hlast, husable⟩
    refine Safe.ite (fun hproven ↦ ?_) fun _ ↦ safe_rollBack hlast _
    refine (safe_update rfl ?_).bind ?_
    · intro middle other hrely _ _ hid
      change .validated other.id true ∈ middle.log
      rw [hid]
      exact hrely.grows.subset (husable hproven)
    rintro validated final - ⟨hvalidated, -, hfinal⟩
    rw [(hlast.sameOffer hvalidated).id]
    refine safe_confirmVoice hfinal fun _ _ ↦ ?_
    obtain ⟨middle, old, now, -, happlies, rfl⟩ := hlast.updated hvalidated
    cases happlies
    rfl

/-- The journal's record when it is read. -/
theorem safe_current :
    Safe journalSetting
      (fun answer later ↦ ∀ record, answer = some record → 2 ≤ record.status.rank → Holds later record)
      current journal := by
  have hrequest : Safe journalSetting
      (fun answer later ↦ ∀ found, answer = .ok found → ∀ record, found = some record →
        2 ≤ record.status.rank → Holds later record)
      (Process.request Request.current : Worker (Checked (Option ActivationRecord))) journal := by
    refine safe_request ?_ ?_
    · intro answer before after hrely h found hfound record hrecord hrank
      exact (h found hfound record hrecord hrank).rely hrely
    · intro later _ hsound oracle
      refine ⟨hsound, fun found hfound record hrecord hrank ↦ ?_⟩
      change later.read = .ok found at hfound
      rcases hsound.read_cases with ⟨hread, -⟩ | ⟨held, hread, hheld⟩
      · rw [hread] at hfound
        cases hfound
        cases hrecord
      · rw [hread] at hfound
        cases hfound
        cases hrecord
        refine ⟨hsound.right record hheld, hrank, fun other hother _ ↦ ?_⟩
        rw [hother.unique hheld]
        exact Follows.refl record
  refine hrequest.bind fun answer later _ hlater ↦ safe_ofExcept ?_ hlater
  intro found before after hrely h record hrecord hrank
  exact (h record hrecord hrank).rely hrely

/-- A record that is not ready yet is refused. -/
theorem validateAndActivate_early (hready : record.status ≠ .ready) (hrestarting : record.status ≠ .restarting) :
    validateAndActivate record = .throw (stateError "activation request is not executable") := by
  rw [validateAndActivate, if_neg (fun h ↦ hready h.2.1), confirmVoice, if_neg (fun h ↦ hready h.2), beginActivation,
    if_neg hready, activateServices, if_pos hrestarting]

/-- The worker keeps the journal sound, and what it returns is the end of its activation. -/
theorem safe_executeActivation (recordId : String) (journal : Journal) :
    Safe journalSetting (Ended recordId) (executeActivation recordId) journal := by
  refine safe_current.bind ?_
  intro found later _ hfound
  cases found with
  | none => exact Safe.throw
  | some record =>
    refine Safe.ite (fun _ ↦ Safe.throw) fun hid ↦ ?_
    have hid : record.id = recordId := not_not.mp hid
    subst hid
    refine Safe.ite (fun hfinal ↦ ?_) fun _ ↦ ?_
    · have hrank := rank_eq_five_iff.mpr hfinal
      exact safe_pure stable_ended ⟨hfound record rfl (by omega), rfl, hfinal⟩
    refine Safe.ite (fun hstatus ↦ ?_) fun _ ↦ ?_
    · exact safe_executeVoiceRollback (hfound record rfl (by rw [hstatus]; decide)) hstatus
    refine Safe.ite (fun hstatus ↦ ?_) fun _ ↦ ?_
    · exact safe_rollBack (hfound record rfl (by rw [hstatus]; decide)) _
    have hstable : Stable fun later ↦ 2 ≤ record.status.rank → Holds later record :=
      fun before after hrely h hrank ↦ (h hrank).rely hrely
    refine (safe_loadConfig hstable (hfound record rfl)).bind ?_
    intro storedConfig last _ hlast
    have hactivate : Safe journalSetting (Ended record.id) (validateAndActivate record) last := by
      by_cases hready : record.status = .ready
      · exact safe_validateAndActivate (hlast (by rw [hready]; decide))
      by_cases hrestarting : record.status = .restarting
      · exact safe_validateAndActivate (hlast (by rw [hrestarting]; decide))
      rw [validateAndActivate_early hready hrestarting]
      exact Safe.throw
    refine Safe.ite (fun _ ↦ ?_) fun _ ↦ hactivate
    refine Safe.ite (fun hvoice ↦ ?_) fun hother ↦ ?_
    · have hrank : 2 ≤ record.status.rank := by
        rcases hvoice.2 with hstatus | hstatus <;> rw [hstatus] <;> decide
      exact Safe.ite (fun _ ↦ safe_rollBack (hlast hrank) _) fun _ ↦ hactivate
    refine Safe.ite (fun hstatus ↦ ?_) fun _ ↦ safe_finish_failed rfl (by decide)
    have hholds := hlast (by rw [hstatus]; decide)
    refine (safe_update rfl ?_).bind ?_
    · intro middle other hrely _ hotherHas hid
      have hfollows := (hholds.rely hrely).follows other hotherHas hid
      refine ⟨?_, fun hkey ↦ ?_, fun outcome houtcome ↦ ?_⟩
      · rw [hholds.right.identified.wellFormed.outcomes, hfollows.same.targets]
      · exact absurd ⟨hfollows.same.settingKey.trans hkey, .inl hstatus⟩ hother
      · rw [hholds.right.attempted.fresh (by rw [hstatus]; decide)] at houtcome
        obtain ⟨service, -, rfl⟩ := List.mem_map.mp houtcome
        exact ⟨by simp, fun _ ↦ .inl rfl⟩
    rintro begun final - ⟨hupdated, -, -⟩
    rw [(hholds.sameOffer hupdated).id]
    exact safe_finish_failed rfl (by decide)

/-! ### Runs -/

/-- Workers for activations, one at a time under the execution lock, among the calls of the voice assistant. -/
def activations : Machine (Hosted String Request Answer Raised ActivationRecord Journal) (Turn Call String Oracle)
    (Option (String × Except Raised ActivationRecord)) :=
  host journalSetting others executeActivation

/-- No journal and no worker. -/
def idle : Hosted String Request Answer Raised ActivationRecord Journal := ⟨{}, none⟩

omit [JournalLibrary] in
theorem sound_empty : Sound {} where
  lawful := trivial
  readable := .inl rfl
  right record hrecord := by
    cases hrecord.file
  kept id hid := by
    obtain ⟨offer, hoffer, -⟩ := hid
    exact absurd hoffer List.not_mem_nil

theorem safe_run (turns : List (Turn Call String Oracle)) :
    (activations.exec idle turns).Safe journalSetting Ended := by
  have hidle : idle.Safe journalSetting Ended := by
    refine ⟨sound_empty, fun task program hrunning ↦ ?_⟩
    cases hrunning
  exact hidle.exec (fun world call hsound ↦ others_spec hsound call)
    (fun recordId world _ ↦ safe_executeActivation recordId world) turns

/-- Whatever workers and callers do, and wherever workers are stopped: what has happened is lawful. -/
theorem lawful_activations (turns : List (Turn Call String Oracle)) :
    Lawful (activations.exec idle turns).world.log :=
  (safe_run turns).invariant.lawful

omit [JournalLibrary] in
/-- An event was allowed by what was before it. -/
theorem Lawful.allowed {later earlier : List ActivationEvent} {event : ActivationEvent}
    (h : Lawful (later ++ event :: earlier)) : Allowed earlier event := by
  induction later with
  | nil => exact h.1
  | cons first later ih => exact ih h.2

omit [JournalLibrary] in
/-- Events of a kind that are not allowed after one of the kind happen once. -/
theorem Lawful.countP_le_one {log : List ActivationEvent} (h : Lawful log) {kind : ActivationEvent → Bool}
    (honce : ∀ earlier event, Allowed earlier event → kind event = true → ∀ other ∈ earlier, kind other = false) :
    log.countP kind ≤ 1 := by
  induction log with
  | nil => simp
  | cons first earlier ih =>
    by_cases hkind : kind first = true
    · have hnone : earlier.countP kind = 0 := by
        rw [List.countP_eq_zero]
        intro other hother
        rw [honce earlier first h.1 hkind other hother]
        decide
      rw [List.countP_cons_of_pos hkind, hnone]
    · rw [List.countP_cons_of_neg hkind]
      exact ih h.2

omit [JournalLibrary] in
/-- An activation that is declined is not restarted, before and after. -/
theorem Lawful.undeclined {log : List ActivationEvent} (h : Lawful log) {id service : String} {rollback : Bool}
    (hrestarted : .restarted id rollback service ∈ log) : .changed id .decline ∉ log := by
  induction log with
  | nil => exact absurd hrestarted List.not_mem_nil
  | cons first earlier ih =>
    intro hdeclined
    rcases List.mem_cons.mp hrestarted with rfl | hrestarted
    · rcases List.mem_cons.mp hdeclined with heq | hdeclined
      · cases heq
      · exact h.1.2.1 hdeclined
    · rcases List.mem_cons.mp hdeclined with rfl | hdeclined
      · exact h.1.2.1 rfl rollback service ((List.mem_cons.mp hrestarted).resolve_left (by simp))
      · exact ih h.2 hrestarted hdeclined

/-- The event is a validation for this activation. -/
def isValidationOf (id : String) : ActivationEvent → Bool
  | .validated other _ => other = id
  | _ => false

/-- A service is restarted at most once for an activation and once for its rollback, and the provider is asked at most
once, in every run of workers and callers, with workers stopped anywhere. -/
theorem restarted_and_validated_once (turns : List (Turn Call String Oracle)) (id : String) :
    (∀ rollback service, (activations.exec idle turns).world.log.count (.restarted id rollback service) ≤ 1) ∧
      (activations.exec idle turns).world.log.countP (isValidationOf id) ≤ 1 := by
  have hlawful := lawful_activations turns
  constructor
  · intro rollback service
    refine hlawful.countP_le_one ?_
    intro earlier event hallowed hevent other hother
    obtain rfl := beq_iff_eq.mp hevent
    rw [beq_eq_false_iff_ne]
    rintro rfl
    exact hallowed.2.2.1 hother
  · refine hlawful.countP_le_one ?_
    intro earlier event hallowed hevent other hother
    cases event with
    | validated eventId usable =>
      obtain rfl : eventId = id := of_decide_eq_true hevent
      cases other with
      | validated otherId otherUsable =>
        refine decide_eq_false ?_
        rintro rfl
        exact hallowed.2.2 otherUsable hother
      | _ => rfl
    | _ => cases hevent

variable {turns : List (Turn Call String Oracle)}

/-- What a worker returns is its own activation, at its end, and a success that it returns was seen. -/
theorem returned_ended {turn : Turn Call String Oracle} {recordId : String} {record : ActivationRecord}
    (h : (activations.step (activations.exec idle turns) turn).2 = some (recordId, .ok record)) :
    record.id = recordId ∧ record.status.isFinal = true ∧ (record.status = .succeeded →
      ∀ service ∈ record.targets, ∃ outcome ∈ record.outcomes,
        outcome.service = service ∧ Proven (activations.exec idle turns).world.log record outcome) := by
  have hstep := (safe_run turns).step (fun world call hsound ↦ others_spec hsound call)
    (fun recordId world _ ↦ safe_executeActivation recordId world) turn
  obtain ⟨hholds, hid, hfinal⟩ := hstep.2 recordId record h
  refine ⟨hid, hfinal, fun hstatus service hservice ↦ ?_⟩
  have hright := hholds.right
  rw [← hright.identified.wellFormed.outcomes, List.mem_map] at hservice
  obtain ⟨outcome, houtcome, rfl⟩ := hservice
  have hsucceeded := hright.evident.success hstatus outcome houtcome
  exact ⟨outcome, houtcome, rfl, hright.evident.proven outcome houtcome hsucceeded⟩

/-- No activation is lost: until its result is acknowledged, which is not before its end, the journal holds the record
of an offer. -/
theorem acknowledged_of_not_held {offer : ActivationRecord}
    (h : .offered offer ∈ (activations.exec idle turns).world.log)
    (hgone : ∀ record, (activations.exec idle turns).world.Has record → record.id ≠ offer.id) :
    ∃ later earlier, (activations.exec idle turns).world.log = later ++ .changed offer.id .acknowledge :: earlier ∧
      HasEnded earlier offer.id := by
  have hlawful := lawful_activations turns
  rcases (safe_run turns).invariant.kept offer.id ⟨offer, h, rfl⟩ with ⟨record, hrecord, hid⟩ | hacknowledged
  · exact absurd hid (hgone record hrecord)
  · obtain ⟨later, earlier, hlog⟩ := List.append_of_mem hacknowledged
    rw [hlog] at hlawful
    exact ⟨later, earlier, hlog, hlawful.allowed.2.2 rfl⟩

/-- The journal is always read back as the record that was written, whatever was written. -/
theorem journal_readable (turns : List (Turn Call String Oracle)) :
    (activations.exec idle turns).world.file = none ∧ (activations.exec idle turns).world.read = .ok none ∨
      ∃ record, (activations.exec idle turns).world.file = some record.toDict ∧
        (activations.exec idle turns).world.read = .ok (some record) := by
  rcases (safe_run turns).invariant.read_cases with ⟨hread, hfile⟩ | ⟨record, hread, hrecord⟩
  · exact .inl ⟨hfile, hread⟩
  · exact .inr ⟨record, hrecord.file, hread⟩

end Whole

/-! ### A worker that is stopped after its restart -/

section Example

/-- A journal library that reads what the journal writes. -/
@[reducible] def plainJournalLibrary : JournalLibrary where
  str
    | .str text => text
    | _ => ""
  float
    | .float time => some time
    | _ => none
  repr text := "'" ++ text ++ "'"
  str_str _ := rfl
  float_float _ := rfl

attribute [local instance] plainJournalLibrary

def wakeId : String := "0123456789abcdef0123456789abcdef"

/-- A change of the wake phrase, which the wake service has to be restarted for. -/
def wakePhrase : PendingConfigChange where
  settingKey := "wake.phrase"
  oldValue := .text "computer"
  newValue := .text "harness"
  affectedServices := ["voice-harness-wake.service"]
  restartServices := ["voice-harness-wake.service"]
  configDigest := "new"

/-- The wake service runs under this invocation, with the configuration of this fingerprint. -/
def runningWake (invocationId configDigest : String) : Oracle where
  loadConfig := .ok ⟨"", "new"⟩
  snapshot _ := .ok ⟨true, "active", "running", invocationId, "", configDigest, ""⟩

/-- The user accepts the offer. -/
def acceptedTurns : List (Turn Call String Oracle) :=
  [.act (.createOffer wakePhrase wakeId 0), .act (.operate wakeId .markOfferDelivered 1),
    .act (.operate wakeId .accept 2), .act (.operate wakeId .markPreRestartDelivered 3), .start wakeId]

/-- The worker is stopped between the restart and its observation, and another one observes it. -/
def stoppedTurns : List (Turn Call String Oracle) :=
  acceptedTurns ++ List.replicate 6 (.proceed (runningWake "first" "old")) ++ [.stop, .start wakeId] ++
    List.replicate 7 (.proceed (runningWake "second" "new"))

/-- What has happened then, and what happened before the restart. -/
def stoppedLog : List ActivationEvent := (activations.exec idle stoppedTurns).world.log

/-- The record that the second worker leaves. -/
def activatedWake : ActivationRecord where
  id := wakeId
  settingKey := "wake.phrase"
  oldValue := .text "computer"
  newValue := .text "harness"
  expectedConfigDigest := "new"
  targets := ["voice-harness-wake.service"]
  status := .succeeded
  outcomes := [⟨"voice-harness-wake.service", .succeeded, true, some ⟨true, "active", "running", "first", "", "old", ""⟩,
    some ⟨true, "active", "running", "second", "", "new", ""⟩, "active with the expected immutable snapshot"⟩]
  offerDelivered := true
  preRestartDelivered := true
  detail := "All targeted services loaded the expected configuration."

theorem wellFormed_activatedWake : activatedWake.WellFormed :=
  ⟨by decide +kernel, .inl rfl, by decide, by decide +kernel, by decide +kernel, .inl rfl⟩

theorem returned_ended_stopped : activatedWake.id = wakeId ∧ activatedWake.status.isFinal = true := by
  have hreturned : (activations.step (activations.exec idle stoppedTurns) (.proceed {})).2 =
      some (wakeId, .ok activatedWake) := by decide +kernel
  have hended := @returned_ended plainJournalLibrary stoppedTurns _ _ _ hreturned
  exact ⟨hended.1, hended.2.1⟩

/-- The result is acknowledged, and another change is offered. -/
def offeredAgainTurns : List (Turn Call String Oracle) :=
  stoppedTurns ++ [.proceed {}, .act (.operate wakeId .acknowledge 8),
    .act (.createOffer wakePhrase "fedcba9876543210fedcba9876543210" 9)]

theorem acknowledged_of_not_held_offeredAgain :
    ∃ later earlier, (activations.exec idle offeredAgainTurns).world.log =
      later ++ .changed wakeId .acknowledge :: earlier ∧ HasEnded earlier wakeId := by
  have hoffered : .offered (offerRecord wakePhrase wakeId 0) ∈ (activations.exec idle offeredAgainTurns).world.log := by
    decide +kernel
  have hheld : (activations.exec idle offeredAgainTurns).world.Has
      (offerRecord wakePhrase "fedcba9876543210fedcba9876543210" 9) :=
    ⟨by decide +kernel, by decide +kernel, .inl rfl, by decide +kernel, by decide +kernel, by decide +kernel, .inl rfl⟩
  refine @acknowledged_of_not_held plainJournalLibrary offeredAgainTurns _ hoffered ?_
  intro record hrecord
  rw [hrecord.unique hheld]
  decide +kernel

end Example

end VoiceHarness.Activation
