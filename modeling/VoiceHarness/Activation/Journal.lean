import VoiceHarness.Library.Keyed
import VoiceHarness.Activation.Record

/-!
# The activation journal

`ActivationStore` keeps one record in a file. Each of its operations reads the file, checks the record and replaces
the file, under a lock, so an operation is one step. `Journal` is the file together with a log of what has happened,
newest first; the log is not part of the program and no operation reads it.
-/

set_option autoImplicit false
set_option relaxedAutoImplicit false

namespace VoiceHarness.Activation

open Library

/-! ### The operations on a record -/

/-- The operations of `ActivationStore` that change the stored record. -/
inductive Change where
  | markOfferDelivered
  | accept
  | decline
  | markPreRestartDelivered
  | beginVoiceValidation
  | markVoiceValidated
  | updateVoiceActivationDigest (expectedConfigDigest : String)
  | beginRollback (detail : String)
  | markRollbackConfigRestored (rollbackConfigDigest : String)
  | updateRollbackOutcome (outcome : ServiceOutcome)
  | beginRestart (outcomes : List ServiceOutcome)
  | updateOutcome (outcome : ServiceOutcome)
  | finish (status : ActivationStatus) (detail : String)
  | failWorker (detail : String)
  | acknowledge
  deriving DecidableEq

/-- The outcomes with this one in its service's place. -/
def putOutcome (outcome : ServiceOutcome) (outcomes : List ServiceOutcome) : List ServiceOutcome :=
  outcomes.map fun item ↦ if item.service = outcome.service then outcome else item

/-- What an operation checks before it reads the file. -/
def Change.precheck : Change → Checked Unit
  | .finish status _ =>
    if status.isFinal && status ≠ .declined then .ok () else .error (stateError "activation result is not terminal")
  | _ => .ok ()

/-- The `transition` of each operation. -/
def Change.transition (record : ActivationRecord) : Change → Checked ActivationRecord
  | .markOfferDelivered =>
    if record.status ≠ .offered then .error (stateError "activation offer is no longer pending")
    else .ok { record with offerDelivered := true }
  | .accept =>
    if record.status ≠ .offered || !record.offerDelivered then
      .error (stateError "activation offer is not ready to accept")
    else .ok { record with status := .accepted }
  | .decline =>
    if record.status ≠ .offered || !record.offerDelivered then
      .error (stateError "activation offer is not ready to decline")
    else .ok { record with
      status := .declined, detail := "The saved change was not activated; no service was restarted." }
  | .markPreRestartDelivered =>
    if record.status ≠ .accepted then .error (stateError "activation request is not awaiting delivery")
    else .ok { record with status := .ready, preRestartDelivered := true }
  | .beginVoiceValidation =>
    if record.status ≠ .ready || record.settingKey ≠ "audio.voice" || record.voiceValidationAttempted then
      .error (stateError "voice activation is not ready to validate")
    else .ok { record with status := .validating, voiceValidationAttempted := true }
  | .markVoiceValidated =>
    if record.status ≠ .validating then .error (stateError "voice activation is not validating")
    else .ok { record with status := .ready, voiceValidated := true }
  | .updateVoiceActivationDigest expectedConfigDigest =>
    if record.status ≠ .ready || record.settingKey ≠ "audio.voice" || !record.voiceValidated then
      .error (stateError "voice activation snapshot is not ready to update")
    else if expectedConfigDigest.length ≠ 64 || !isLowerHex expectedConfigDigest then
      .error (stateError "voice activation digest is invalid")
    else .ok { record with expectedConfigDigest }
  | .beginRollback detail =>
    if record.settingKey ≠ "audio.voice" || record.status ∉ [.ready, .validating, .restarting] then
      .error (stateError "voice activation cannot be rolled back")
    else .ok { record with
      status := .rollingBack, rollbackOutcomes := record.targets.map fun service ↦ { service }, detail }
  | .markRollbackConfigRestored rollbackConfigDigest =>
    if record.status ≠ .rollingBack then .error (stateError "voice activation is not rolling back")
    else if rollbackConfigDigest.length ≠ 64 || !isLowerHex rollbackConfigDigest then
      .error (stateError "voice rollback digest is invalid")
    else .ok { record with rollbackConfigRestored := true, rollbackConfigDigest }
  | .updateRollbackOutcome outcome =>
    if record.status ≠ .rollingBack then .error (stateError "voice activation is not rolling back")
    else if outcome.service ∉ record.targets then .error (stateError "service is not a rollback target")
    else .ok { record with rollbackOutcomes := putOutcome outcome record.rollbackOutcomes }
  | .beginRestart outcomes =>
    if record.status ≠ .ready then .error (stateError "activation request is not ready")
    else .ok { record with status := .restarting, outcomes }
  | .updateOutcome outcome =>
    if record.status ≠ .restarting then .error (stateError "activation request is not restarting")
    else if outcome.service ∉ record.targets then .error (stateError "service is not an activation target")
    else .ok { record with outcomes := putOutcome outcome record.outcomes }
  | .finish status detail => .ok { record with status, detail }
  | .failWorker detail =>
    if record.status ∉ [.ready, .validating, .restarting, .rollingBack] then
      .error (stateError "activation request is not executable")
    else .ok { record with status := .failed, detail }
  | .acknowledge =>
    if !record.status.isFinal then .error (stateError "activation result is not final")
    else .ok { record with acknowledged := true }

/-! ### The file -/

/-- What has happened. The two first components of a restart say on whose behalf it was asked, and whether for the
rollback. -/
inductive ActivationEvent where
  | offered (record : ActivationRecord)
  | changed (id : String) (change : Change)
  | observed (service : String) (snapshot : ServiceSnapshot)
  | restarted (id : String) (rollback : Bool) (service : String)
  | validated (id : String) (usable : Bool)
  deriving DecidableEq

/-- The file of the journal, and what has happened, newest first. -/
structure Journal where
  file : Option Json := none
  log : List ActivationEvent := []

namespace Journal

section Operations

variable [JournalLibrary]

/-- `_read`. -/
def read (journal : Journal) : Checked (Option ActivationRecord) :=
  match journal.file with
  | none => .ok none
  | some value => (recordFromDict value).map some

/-- `_write`. -/
def write (journal : Journal) (record : ActivationRecord) (event : ActivationEvent) : Journal :=
  { journal with file := some record.toDict, log := event :: journal.log }

/-- `_update`, at this time. -/
def update (journal : Journal) (recordId : String) (change : Change) (now : Time) :
    Checked ActivationRecord × Journal :=
  let updated : Checked ActivationRecord := do
    change.precheck
    match ← journal.read with
    | some current =>
      if current.id = recordId then
        let next ← change.transition current
        return { next with updatedAt := now }
      else .error (stateError "activation request no longer exists")
    | none => .error (stateError "activation request no longer exists")
  match updated with
  | .ok record => (.ok record, journal.write record (.changed recordId change))
  | .error error => (.error error, journal)

end Operations

end Journal

/-- What `create_offer` reads of the pending change and of the committed one. -/
structure PendingConfigChange where
  settingKey : String
  oldValue : SettingValue
  newValue : SettingValue
  affectedServices : List String
  restartServices : List String
  configDigest : String

/-- `tuple(dict.fromkeys(values))`. -/
def distinctValues (values : List String) : List String := storeAll id [] values

/-- The record of an offer. -/
def offerRecord (pending : PendingConfigChange) (recordId : String) (now : Time) : ActivationRecord :=
  let targets := distinctValues pending.restartServices
  { id := recordId, settingKey := pending.settingKey, oldValue := pending.oldValue, newValue := pending.newValue,
    expectedConfigDigest := pending.configDigest, targets, status := .offered,
    outcomes := targets.map fun service ↦ { service }, createdAt := now, updatedAt := now }

/-- `create_offer`, with this id and at this time. -/
def Journal.createOffer [JournalLibrary] (journal : Journal) (pending : PendingConfigChange) (recordId : String)
    (now : Time) : Checked (Option ActivationRecord) × Journal :=
  let record := offerRecord pending recordId now
  if record.targets = [] then (.ok none, journal)
  else if record.targets.any fun service ↦ service ∉ serviceFiles || service ∉ pending.affectedServices then
    (.error (stateError "activation target was not reported by the typed configuration change"), journal)
  else
    match journal.read with
    | .error error => (.error error, journal)
    | .ok (some current) =>
      if current.acknowledged then (.ok (some record), journal.write record (.offered record))
      else (.error (stateError "a previous activation result is still awaiting delivery"), journal)
    | .ok none => (.ok (some record), journal.write record (.offered record))

/-! ### What each operation does -/

/-- An operation that goes through on a record, and what it leaves. -/
inductive Applies (record : ActivationRecord) : Change → ActivationRecord → Prop
  | markOfferDelivered (hstatus : record.status = .offered) :
    Applies record .markOfferDelivered { record with offerDelivered := true }
  | accept (hstatus : record.status = .offered) (hdelivered : record.offerDelivered = true) :
    Applies record .accept { record with status := .accepted }
  | decline (hstatus : record.status = .offered) (hdelivered : record.offerDelivered = true) (detail : String) :
    Applies record .decline { record with status := .declined, detail }
  | markPreRestartDelivered (hstatus : record.status = .accepted) :
    Applies record .markPreRestartDelivered { record with status := .ready, preRestartDelivered := true }
  | beginVoiceValidation (hstatus : record.status = .ready) (hkey : record.settingKey = "audio.voice")
      (hfirst : record.voiceValidationAttempted = false) :
    Applies record .beginVoiceValidation { record with status := .validating, voiceValidationAttempted := true }
  | markVoiceValidated (hstatus : record.status = .validating) :
    Applies record .markVoiceValidated { record with status := .ready, voiceValidated := true }
  | updateVoiceActivationDigest (digest : String) (hstatus : record.status = .ready) :
    Applies record (.updateVoiceActivationDigest digest) { record with expectedConfigDigest := digest }
  | beginRollback (detail : String) (hkey : record.settingKey = "audio.voice")
      (hstatus : record.status = .ready ∨ record.status = .validating ∨ record.status = .restarting) :
    Applies record (.beginRollback detail)
      { record with
        status := .rollingBack, rollbackOutcomes := record.targets.map fun service ↦ { service }, detail }
  | markRollbackConfigRestored (digest : String) (hstatus : record.status = .rollingBack) (hdigest : IsHex 64 digest) :
    Applies record (.markRollbackConfigRestored digest)
      { record with rollbackConfigRestored := true, rollbackConfigDigest := digest }
  | updateRollbackOutcome (outcome : ServiceOutcome) (hstatus : record.status = .rollingBack)
      (hservice : outcome.service ∈ record.targets) :
    Applies record (.updateRollbackOutcome outcome)
      { record with rollbackOutcomes := putOutcome outcome record.rollbackOutcomes }
  | beginRestart (outcomes : List ServiceOutcome) (hstatus : record.status = .ready) :
    Applies record (.beginRestart outcomes) { record with status := .restarting, outcomes }
  | updateOutcome (outcome : ServiceOutcome) (hstatus : record.status = .restarting)
      (hservice : outcome.service ∈ record.targets) :
    Applies record (.updateOutcome outcome) { record with outcomes := putOutcome outcome record.outcomes }
  | finish (status : ActivationStatus) (detail : String) : Applies record (.finish status detail)
      { record with status, detail }
  | failWorker (detail : String)
      (hstatus : record.status = .ready ∨ record.status = .validating ∨ record.status = .restarting ∨
        record.status = .rollingBack) :
    Applies record (.failWorker detail) { record with status := .failed, detail }
  | acknowledge (hstatus : record.status.isFinal = true) :
    Applies record .acknowledge { record with acknowledged := true }

section Lemmas

variable {record next : ActivationRecord} {change : Change}

theorem applies_of_transition (h : change.transition record = .ok next) : Applies record change next := by
  cases change with
  | markOfferDelivered =>
    simp only [Change.transition] at h
    split_ifs at h with hstatus
    cases h
    exact .markOfferDelivered (not_not.mp hstatus)
  | accept =>
    simp only [Change.transition] at h
    split_ifs at h with hready
    cases h
    simp only [Bool.or_eq_true, decide_eq_true_eq, Bool.not_eq_true', not_or, not_not, Bool.not_eq_false] at hready
    exact .accept hready.1 hready.2
  | decline =>
    simp only [Change.transition] at h
    split_ifs at h with hready
    cases h
    simp only [Bool.or_eq_true, decide_eq_true_eq, Bool.not_eq_true', not_or, not_not, Bool.not_eq_false] at hready
    exact .decline hready.1 hready.2 _
  | markPreRestartDelivered =>
    simp only [Change.transition] at h
    split_ifs at h with hstatus
    cases h
    exact .markPreRestartDelivered (not_not.mp hstatus)
  | beginVoiceValidation =>
    simp only [Change.transition] at h
    split_ifs at h with hready
    cases h
    simp only [Bool.or_eq_true, decide_eq_true_eq, not_or, not_not, Bool.not_eq_true] at hready
    exact .beginVoiceValidation hready.1.1 hready.1.2 hready.2
  | markVoiceValidated =>
    simp only [Change.transition] at h
    split_ifs at h with hstatus
    cases h
    exact .markVoiceValidated (not_not.mp hstatus)
  | updateVoiceActivationDigest digest =>
    simp only [Change.transition] at h
    split_ifs at h with hready hdigest
    cases h
    simp only [Bool.or_eq_true, decide_eq_true_eq, not_or, not_not] at hready
    exact .updateVoiceActivationDigest digest hready.1.1
  | beginRollback detail =>
    simp only [Change.transition] at h
    split_ifs at h with hready
    cases h
    simp only [Bool.or_eq_true, decide_eq_true_eq, not_or, not_and_or, not_not, List.mem_cons, List.not_mem_nil,
      or_false] at hready
    exact .beginRollback detail hready.1 hready.2
  | markRollbackConfigRestored digest =>
    simp only [Change.transition] at h
    split_ifs at h with hstatus hdigest
    cases h
    simp only [Bool.or_eq_true, decide_eq_true_eq, Bool.not_eq_true', not_or, not_not, Bool.not_eq_false] at hdigest
    exact .markRollbackConfigRestored digest (not_not.mp hstatus) hdigest
  | updateRollbackOutcome outcome =>
    simp only [Change.transition] at h
    split_ifs at h with hstatus hservice
    cases h
    exact .updateRollbackOutcome outcome (not_not.mp hstatus) hservice
  | beginRestart outcomes =>
    simp only [Change.transition] at h
    split_ifs at h with hstatus
    cases h
    exact .beginRestart outcomes (not_not.mp hstatus)
  | updateOutcome outcome =>
    simp only [Change.transition] at h
    split_ifs at h with hstatus hservice
    cases h
    exact .updateOutcome outcome (not_not.mp hstatus) hservice
  | finish status detail =>
    cases h
    exact .finish status detail
  | failWorker detail =>
    simp only [Change.transition] at h
    split_ifs at h with hstatus
    cases h
    simp only [List.mem_cons, List.not_mem_nil, or_false] at hstatus
    exact .failWorker detail hstatus
  | acknowledge =>
    simp only [Change.transition] at h
    split_ifs at h with hstatus
    cases h
    exact .acknowledge (by simpa using hstatus)

theorem map_service_putOutcome (outcome : ServiceOutcome) (outcomes : List ServiceOutcome) :
    (putOutcome outcome outcomes).map ServiceOutcome.service = outcomes.map ServiceOutcome.service := by
  rw [putOutcome, List.map_map]
  refine List.map_congr_left ?_
  intro item _
  by_cases hsame : item.service = outcome.service
  · simp [hsame]
  · simp [hsame]

/-- Where the outcomes have the outcome's service, it is among the new ones. -/
theorem mem_putOutcome {outcome : ServiceOutcome} {outcomes : List ServiceOutcome}
    (h : outcome.service ∈ outcomes.map ServiceOutcome.service) : outcome ∈ putOutcome outcome outcomes := by
  obtain ⟨item, hitem, hservice⟩ := List.mem_map.mp h
  exact List.mem_map.mpr ⟨item, hitem, if_pos hservice⟩

/-- What is among the new outcomes is the outcome, or was among the old ones for another service. -/
theorem mem_putOutcome_cases {outcome item : ServiceOutcome} {outcomes : List ServiceOutcome}
    (h : item ∈ putOutcome outcome outcomes) :
    item = outcome ∨ item ∈ outcomes ∧ item.service ≠ outcome.service := by
  obtain ⟨old, hold, hitem⟩ := List.mem_map.mp h
  by_cases hservice : old.service = outcome.service
  · rw [if_pos hservice] at hitem
    exact .inl hitem.symm
  · rw [if_neg hservice] at hitem
    exact .inr ⟨hitem ▸ hold, hitem ▸ hservice⟩

theorem mem_putOutcome_of_ne {outcome item : ServiceOutcome} {outcomes : List ServiceOutcome} (h : item ∈ outcomes)
    (hservice : item.service ≠ outcome.service) : item ∈ putOutcome outcome outcomes :=
  List.mem_map.mpr ⟨item, h, if_neg hservice⟩

end Lemmas

end VoiceHarness.Activation
