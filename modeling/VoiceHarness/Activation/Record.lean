import VoiceHarness.Json
import Mathlib.Data.List.Forall2
import Mathlib.Tactic.SplitIfs

/-!
# The activation journal's record

What the journal of a configuration activation holds, as it is written and as it is read. The file is the value that
`json` reads from its text, with the keys of each object in their order. `record_toDict` reads back what is written of
a record that `WellFormed` describes.
-/

set_option autoImplicit false
set_option relaxedAutoImplicit false

namespace VoiceHarness.Activation

/-- `SERVICE_FILES`. -/
def serviceFiles : List String :=
  ["dictation.service", "voice-harness-llm.service", "voice-harness-tts.service", "voice-harness-wake.service"]

/-- An exception: the name of its type and its text. -/
structure Raised where
  type : String
  text : String
  deriving DecidableEq

/-- `ActivationStateError(message)`. -/
def stateError (message : String) : Raised := ⟨"ActivationStateError", message⟩

abbrev Checked (α : Type) := Except Raised α

/-! ### The data -/

inductive ActivationStatus where
  | offered
  | accepted
  | ready
  | validating
  | restarting
  | rollingBack
  | succeeded
  | partly
  | failed
  | declined
  deriving DecidableEq

/-- The value of the status in the journal. -/
def ActivationStatus.value : ActivationStatus → String
  | .offered => "offered"
  | .accepted => "accepted"
  | .ready => "ready"
  | .validating => "validating"
  | .restarting => "restarting"
  | .rollingBack => "rolling_back"
  | .succeeded => "succeeded"
  | .partly => "partial"
  | .failed => "failed"
  | .declined => "declined"

def ActivationStatus.all : List ActivationStatus :=
  [.offered, .accepted, .ready, .validating, .restarting, .rollingBack, .succeeded, .partly, .failed, .declined]

/-- `ActivationStatus(value)`. -/
def ActivationStatus.ofValue? (value : String) : Option ActivationStatus :=
  ActivationStatus.all.find? fun status ↦ status.value = value

theorem ActivationStatus.ofValue?_value (status : ActivationStatus) : ofValue? status.value = some status := by
  cases status <;> decide

/-- `status.value in _FINAL_STATES`. -/
def ActivationStatus.isFinal : ActivationStatus → Bool
  | .succeeded | .partly | .failed | .declined => true
  | _ => false

inductive ServiceOutcomeStatus where
  | pending
  | succeeded
  | failed
  deriving DecidableEq

def ServiceOutcomeStatus.value : ServiceOutcomeStatus → String
  | .pending => "pending"
  | .succeeded => "succeeded"
  | .failed => "failed"

/-- `ServiceOutcomeStatus(value)`. -/
def ServiceOutcomeStatus.ofValue? (value : String) : Option ServiceOutcomeStatus :=
  [.pending, .succeeded, .failed].find? fun status : ServiceOutcomeStatus ↦ status.value = value

theorem ServiceOutcomeStatus.ofValue?_value (status : ServiceOutcomeStatus) :
    ofValue? status.value = some status := by
  cases status <;> decide

structure ServiceSnapshot where
  installed : Bool
  activeState : String
  subState : String
  invocationId : String
  processStart : String
  configDigest : String
  voice : String := ""
  deriving DecidableEq

/-- `identity`. -/
def ServiceSnapshot.identity (snapshot : ServiceSnapshot) : String × String :=
  (snapshot.invocationId, snapshot.processStart)

structure ServiceOutcome where
  service : String
  status : ServiceOutcomeStatus := .pending
  attempted : Bool := false
  before : Option ServiceSnapshot := none
  after : Option ServiceSnapshot := none
  detail : String := ""
  deriving DecidableEq

/-- A setting's value: `str | bool`. -/
inductive SettingValue where
  | text (value : String)
  | flag (value : Bool)
  deriving DecidableEq

structure ActivationRecord where
  id : String
  settingKey : String
  oldValue : SettingValue
  newValue : SettingValue
  expectedConfigDigest : String
  targets : List String
  status : ActivationStatus
  outcomes : List ServiceOutcome
  offerDelivered : Bool := false
  preRestartDelivered : Bool := false
  acknowledged : Bool := false
  voiceValidationAttempted : Bool := false
  voiceValidated : Bool := false
  rollbackConfigRestored : Bool := false
  rollbackConfigDigest : String := ""
  rollbackOutcomes : List ServiceOutcome := []
  detail : String := ""
  createdAt : Time := 0
  updatedAt : Time := 0
  deriving DecidableEq

/-! ### Writing -/

def SettingValue.toJson : SettingValue → Json
  | .text value => .str value
  | .flag value => .bool value

def ServiceSnapshot.toDict (snapshot : ServiceSnapshot) : Json :=
  .obj [("active_state", .str snapshot.activeState), ("config_digest", .str snapshot.configDigest),
    ("installed", .bool snapshot.installed), ("invocation_id", .str snapshot.invocationId),
    ("process_start", .str snapshot.processStart), ("sub_state", .str snapshot.subState),
    ("voice", .str snapshot.voice)]

/-- A snapshot, or `None`. -/
def snapshotToDict : Option ServiceSnapshot → Json
  | none => .null
  | some snapshot => snapshot.toDict

def ServiceOutcome.toDict (outcome : ServiceOutcome) : Json :=
  .obj [("after", snapshotToDict outcome.after), ("attempted", .bool outcome.attempted),
    ("before", snapshotToDict outcome.before), ("detail", .str outcome.detail), ("service", .str outcome.service),
    ("status", .str outcome.status.value)]

/-- `asdict(record)`, with its keys sorted. -/
def ActivationRecord.toDict (record : ActivationRecord) : Json :=
  .obj [("acknowledged", .bool record.acknowledged), ("created_at", .float record.createdAt),
    ("detail", .str record.detail), ("expected_config_digest", .str record.expectedConfigDigest),
    ("id", .str record.id), ("new_value", record.newValue.toJson), ("offer_delivered", .bool record.offerDelivered),
    ("old_value", record.oldValue.toJson), ("outcomes", .arr (record.outcomes.map ServiceOutcome.toDict)),
    ("pre_restart_delivered", .bool record.preRestartDelivered),
    ("rollback_config_digest", .str record.rollbackConfigDigest),
    ("rollback_config_restored", .bool record.rollbackConfigRestored),
    ("rollback_outcomes", .arr (record.rollbackOutcomes.map ServiceOutcome.toDict)),
    ("setting_key", .str record.settingKey), ("status", .str record.status.value),
    ("targets", .arr (record.targets.map .str)), ("updated_at", .float record.updatedAt),
    ("voice_validated", .bool record.voiceValidated),
    ("voice_validation_attempted", .bool record.voiceValidationAttempted)]

/-! ### Reading -/

/-- What `str` and `float` make of a value that is no text and no float is a parameter, and so is `repr`. -/
class JournalLibrary where
  str : Json → String
  float : Json → Option Time
  repr : String → String
  str_str : ∀ text, str (.str text) = text
  float_float : ∀ value, float (.float value) = some value

/-- `bool(value)`. -/
def isTruthy : Json → Bool
  | .null => false
  | .bool value => value
  | .int value => value ≠ 0
  | .float value => value ≠ 0
  | .str value => value ≠ ""
  | .arr items => items ≠ []
  | .obj fields => fields ≠ []

/-- `bool(value.get(key))`. -/
def flagOf (value : Dict) (key : String) : Bool := isTruthy ((value.get? key).getD .null)

/-- `value[key]`, where a missing key raises this error. -/
def itemOf (value : Dict) (key : String) (message : String) : Checked Json :=
  match value.get? key with
  | some item => .ok item
  | none => .error (stateError message)

/-- An array, or the error of a value that is none. -/
def arrayOf (value : Json) (message : String) : Checked (List Json) :=
  match value with
  | .arr items => .ok items
  | _ => .error (stateError message)

/-- `character in "0123456789abcdef"` for each character. -/
def isLowerHex (text : String) : Bool := text.toList.all fun c ↦ ('0' ≤ c && c ≤ '9') || ('a' ≤ c && c ≤ 'f')

def SettingValue.ofJson? : Json → Option SettingValue
  | .str value => some (.text value)
  | .bool value => some (.flag value)
  | _ => none

section Reading

variable [JournalLibrary]

/-- `str(value.get(key) or "")`. -/
def textOf (value : Dict) (key : String) : String :=
  let item := (value.get? key).getD .null
  if isTruthy item then JournalLibrary.str item else ""

/-- `_snapshot_from_dict`. -/
def snapshotFromDict : Json → Checked (Option ServiceSnapshot)
  | .null => .ok none
  | .obj value => do
    let incomplete := "activation snapshot is incomplete"
    let installed ← itemOf value "installed" incomplete
    let activeState ← itemOf value "active_state" incomplete
    let subState ← itemOf value "sub_state" incomplete
    let invocationId ← itemOf value "invocation_id" incomplete
    let processStart ← itemOf value "process_start" incomplete
    let configDigest ← itemOf value "config_digest" incomplete
    return some
      { installed := isTruthy installed
        activeState := JournalLibrary.str activeState
        subState := JournalLibrary.str subState
        invocationId := JournalLibrary.str invocationId
        processStart := JournalLibrary.str processStart
        configDigest := JournalLibrary.str configDigest
        voice := textOf value "voice" }
  | _ => .error (stateError "activation snapshot must be an object")

/-- `_outcome_from_dict`. -/
def outcomeFromDict : Json → Checked ServiceOutcome
  | .obj value => do
    let invalid := "activation outcome is invalid"
    let service ← itemOf value "service" invalid
    let statusRaw ← itemOf value "status" invalid
    match ServiceOutcomeStatus.ofValue? (JournalLibrary.str statusRaw) with
    | none => .error (stateError invalid)
    | some status =>
      let attempted ← itemOf value "attempted" invalid
      let before ← snapshotFromDict ((Dict.get? value "before").getD .null)
      let after ← snapshotFromDict ((Dict.get? value "after").getD .null)
      return { service := JournalLibrary.str service, status, attempted := isTruthy attempted, before, after,
               detail := textOf value "detail" }
  | _ => .error (stateError "activation outcome must be an object")

/-- `str(item.get("service", ""))`. -/
def serviceOf : Json → Option String
  | .obj item => some (JournalLibrary.str ((Dict.get? item "service").getD (.str "")))
  | _ => none

/-- The condition under which `_record_from_dict` refuses the identity or the targets. -/
def badIdentity (recordId rollbackConfigDigest : String) (targets : List String) (outcomes : List ServiceOutcome)
    (rollbackOutcomes : List Json) : Bool :=
  recordId.length ≠ 32 || !isLowerHex recordId ||
    (rollbackConfigDigest ≠ "" && (rollbackConfigDigest.length ≠ 64 || !isLowerHex rollbackConfigDigest)) ||
    targets = [] || targets.any (· ∉ serviceFiles) || outcomes.map ServiceOutcome.service ≠ targets ||
    (rollbackOutcomes ≠ [] && rollbackOutcomes.filterMap serviceOf ≠ targets)

/-- `float(value[key])`. -/
def floatOf (value : Dict) (key : String) (message : String) : Checked Time := do
  match JournalLibrary.float (← itemOf value key message) with
  | some time => return time
  | none => .error (stateError message)

/-- `_record_from_dict`. -/
def recordFromDict : Json → Checked ActivationRecord
  | .obj value => do
    let invalid := "activation journal is invalid"
    let oldRaw ← itemOf value "old_value" invalid
    let newRaw ← itemOf value "new_value" invalid
    match SettingValue.ofJson? oldRaw, SettingValue.ofJson? newRaw with
    | some oldValue, some newValue =>
      let targetsRaw ← itemOf value "targets" invalid
      let outcomesRaw ← itemOf value "outcomes" invalid
      let notArrays := "activation targets and outcomes must be arrays"
      let targetItems ← arrayOf targetsRaw notArrays
      let outcomeItems ← arrayOf outcomesRaw notArrays
      let rollbackItems ← arrayOf ((Dict.get? value "rollback_outcomes").getD (.arr [])) notArrays
      let recordId ← itemOf value "id" invalid
      let targets := targetItems.map JournalLibrary.str
      let outcomes ← outcomeItems.mapM outcomeFromDict
      let rollbackConfigDigest := textOf value "rollback_config_digest"
      if badIdentity (JournalLibrary.str recordId) rollbackConfigDigest targets outcomes rollbackItems then
        .error (stateError "activation identity or targets are invalid")
      else
        let settingKey ← itemOf value "setting_key" invalid
        let expected ← itemOf value "expected_config_digest" invalid
        let statusRaw ← itemOf value "status" invalid
        match ActivationStatus.ofValue? (JournalLibrary.str statusRaw) with
        | none => .error (stateError invalid)
        | some status =>
          let rollbackOutcomes ← rollbackItems.mapM outcomeFromDict
          let createdAt ← floatOf value "created_at" invalid
          let updatedAt ← floatOf value "updated_at" invalid
          return { id := JournalLibrary.str recordId, settingKey := JournalLibrary.str settingKey, oldValue, newValue,
                   expectedConfigDigest := JournalLibrary.str expected, targets, status, outcomes,
                   offerDelivered := flagOf value "offer_delivered"
                   preRestartDelivered := flagOf value "pre_restart_delivered"
                   acknowledged := flagOf value "acknowledged"
                   voiceValidationAttempted := flagOf value "voice_validation_attempted"
                   voiceValidated := flagOf value "voice_validated"
                   rollbackConfigRestored := flagOf value "rollback_config_restored"
                   rollbackConfigDigest, rollbackOutcomes, detail := textOf value "detail", createdAt, updatedAt }
    | _, _ => .error (stateError "activation values must be strings or booleans")
  | _ => .error (stateError "activation journal must contain an object")

end Reading

/-! ### What is written is read back -/

/-- A fingerprint in lower-case hexadecimal digits. -/
def IsHex (length : ℕ) (text : String) : Prop := text.length = length ∧ isLowerHex text = true

instance (length : ℕ) (text : String) : Decidable (IsHex length text) := inferInstanceAs (Decidable (_ ∧ _))

/-- What the reader asks of the identity, the targets and the outcomes. -/
structure ActivationRecord.WellFormed (record : ActivationRecord) : Prop where
  id : IsHex 32 record.id
  digest : record.rollbackConfigDigest = "" ∨ IsHex 64 record.rollbackConfigDigest
  some : record.targets ≠ []
  services : ∀ service ∈ record.targets, service ∈ serviceFiles
  outcomes : record.outcomes.map ServiceOutcome.service = record.targets
  rollback : record.rollbackOutcomes = [] ∨ record.rollbackOutcomes.map ServiceOutcome.service = record.targets

section RoundTrip

variable [JournalLibrary]

omit [JournalLibrary] in
theorem ofJson?_toJson (value : SettingValue) : SettingValue.ofJson? value.toJson = some value := by
  cases value <;> rfl

theorem textOf_of_get? {value : Dict} {key text : String} (h : value.get? key = some (.str text)) :
    textOf value key = text := by
  rw [textOf, h, Option.getD_some, JournalLibrary.str_str]
  by_cases hempty : text = ""
  · subst hempty
    rfl
  · exact if_pos (decide_eq_true hempty)

theorem snapshotFromDict_toDict (snapshot : Option ServiceSnapshot) :
    snapshotFromDict (snapshotToDict snapshot) = .ok snapshot := by
  cases snapshot with
  | none => rfl
  | some snapshot =>
    have hvoice : ∀ value : Dict, value.get? "voice" = some (.str snapshot.voice) →
        textOf value "voice" = snapshot.voice := fun value h ↦ textOf_of_get? h
    change Except.ok (some _) = _
    congr 2
    simp only [JournalLibrary.str_str, isTruthy]
    rw [hvoice _ rfl]

omit [JournalLibrary] in
theorem itemOf_of_get? {value : Dict} {key message : String} {item : Json} (h : value.get? key = some item) :
    itemOf value key message = .ok item := by
  rw [itemOf, h]

omit [JournalLibrary] in
theorem flagOf_of_get? {value : Dict} {key : String} {flag : Bool} (h : value.get? key = some (.bool flag)) :
    flagOf value key = flag := by
  rw [flagOf, h]
  rfl

theorem floatOf_of_get? {value : Dict} {key message : String} {time : Time}
    (h : value.get? key = some (.float time)) : floatOf value key message = .ok time := by
  rw [floatOf, itemOf_of_get? h]
  change (match JournalLibrary.float (.float time) with
    | some time => Except.ok time
    | none => Except.error (stateError message)) = _
  rw [JournalLibrary.float_float]

/-- An object with the fields of an outcome is read as the outcome. -/
theorem outcomeFromDict_obj {value : Dict} {outcome : ServiceOutcome}
    (hservice : value.get? "service" = some (.str outcome.service))
    (hstatus : value.get? "status" = some (.str outcome.status.value))
    (hattempted : value.get? "attempted" = some (.bool outcome.attempted))
    (hbefore : value.get? "before" = some (snapshotToDict outcome.before))
    (hafter : value.get? "after" = some (snapshotToDict outcome.after))
    (hdetail : value.get? "detail" = some (.str outcome.detail)) :
    outcomeFromDict (.obj value) = .ok outcome := by
  simp only [outcomeFromDict, itemOf_of_get? hservice, itemOf_of_get? hstatus, itemOf_of_get? hattempted, hbefore,
    hafter, textOf_of_get? hdetail, JournalLibrary.str_str, ServiceOutcomeStatus.ofValue?_value, Option.getD_some,
    snapshotFromDict_toDict, bind, Except.bind]
  rfl

theorem outcomeFromDict_toDict (outcome : ServiceOutcome) : outcomeFromDict outcome.toDict = .ok outcome :=
  outcomeFromDict_obj rfl rfl rfl rfl rfl rfl

theorem mapM_outcomeFromDict (outcomes : List ServiceOutcome) :
    (outcomes.map ServiceOutcome.toDict).mapM outcomeFromDict = .ok outcomes := by
  induction outcomes with
  | nil => rfl
  | cons outcome outcomes ih =>
    rw [List.map_cons, List.mapM_cons, outcomeFromDict_toDict, ih]
    rfl

theorem filterMap_serviceOf (outcomes : List ServiceOutcome) :
    (outcomes.map ServiceOutcome.toDict).filterMap serviceOf = outcomes.map ServiceOutcome.service := by
  induction outcomes with
  | nil => rfl
  | cons outcome outcomes ih =>
    have hservice : serviceOf outcome.toDict = some outcome.service := congrArg some (JournalLibrary.str_str _)
    rw [List.map_cons, List.filterMap_cons_some hservice, ih, List.map_cons]

theorem map_str (texts : List String) : (texts.map Json.str).map JournalLibrary.str = texts := by
  induction texts with
  | nil => rfl
  | cons text texts ih => rw [List.map_cons, List.map_cons, JournalLibrary.str_str, ih]

variable {record : ActivationRecord}

/-- A well-formed record is not refused. -/
theorem badIdentity_toDict (h : record.WellFormed) :
    badIdentity record.id record.rollbackConfigDigest record.targets record.outcomes
      (record.rollbackOutcomes.map ServiceOutcome.toDict) = false := by
  have hdigest : (decide (record.rollbackConfigDigest ≠ "") && (decide (record.rollbackConfigDigest.length ≠ 64) ||
      !isLowerHex record.rollbackConfigDigest)) = false := by
    rcases h.digest with hempty | ⟨hlength, hhex⟩
    · simp [hempty]
    · simp [hlength, hhex]
  have hservices : record.targets.any (· ∉ serviceFiles) = false := by
    rw [List.any_eq_false]
    intro service hservice
    simpa using h.services service hservice
  have hrollback : (decide (record.rollbackOutcomes.map ServiceOutcome.toDict ≠ []) &&
      decide ((record.rollbackOutcomes.map ServiceOutcome.toDict).filterMap serviceOf ≠ record.targets)) = false := by
    rw [filterMap_serviceOf]
    rcases h.rollback with hempty | hsame
    · simp [hempty]
    · simp [hsame]
  rw [badIdentity, hdigest, hservices, hrollback]
  simp [h.id.1, h.id.2, h.some, h.outcomes]

/-- A well-formed record is read back as it was written. -/
theorem recordFromDict_toDict (h : record.WellFormed) : recordFromDict record.toDict = .ok record := by
  obtain ⟨value, hvalue⟩ : ∃ value, Json.obj value = record.toDict := ⟨_, rfl⟩
  have hget : ∀ {key : String} {item : Json}, record.toDict.asDict.get? key = some item →
      Dict.get? value key = some item := by
    intro key item hitem
    rwa [← hvalue] at hitem
  have hold : Dict.get? value "old_value" = some (record.oldValue.toJson) := hget rfl
  have hnew : Dict.get? value "new_value" = some (record.newValue.toJson) := hget rfl
  have htargets : Dict.get? value "targets" = some (.arr (record.targets.map .str)) := hget rfl
  have houtcomes : Dict.get? value "outcomes" = some (.arr (record.outcomes.map ServiceOutcome.toDict)) := hget rfl
  have hrollback : Dict.get? value "rollback_outcomes" = some (.arr (record.rollbackOutcomes.map ServiceOutcome.toDict)) := hget rfl
  have hid : Dict.get? value "id" = some (.str record.id) := hget rfl
  have hdigest : Dict.get? value "rollback_config_digest" = some (.str record.rollbackConfigDigest) := hget rfl
  have hkey : Dict.get? value "setting_key" = some (.str record.settingKey) := hget rfl
  have hexpected : Dict.get? value "expected_config_digest" = some (.str record.expectedConfigDigest) := hget rfl
  have hstatus : Dict.get? value "status" = some (.str record.status.value) := hget rfl
  have hoffer : Dict.get? value "offer_delivered" = some (.bool record.offerDelivered) := hget rfl
  have hpre : Dict.get? value "pre_restart_delivered" = some (.bool record.preRestartDelivered) := hget rfl
  have hacknowledged : Dict.get? value "acknowledged" = some (.bool record.acknowledged) := hget rfl
  have hattempted : Dict.get? value "voice_validation_attempted" = some (.bool record.voiceValidationAttempted) := hget rfl
  have hvalidated : Dict.get? value "voice_validated" = some (.bool record.voiceValidated) := hget rfl
  have hrestored : Dict.get? value "rollback_config_restored" = some (.bool record.rollbackConfigRestored) := hget rfl
  have hdetail : Dict.get? value "detail" = some (.str record.detail) := hget rfl
  have hcreated : Dict.get? value "created_at" = some (.float record.createdAt) := hget rfl
  have hupdated : Dict.get? value "updated_at" = some (.float record.updatedAt) := hget rfl
  have hidentity := badIdentity_toDict h
  rw [← hvalue]
  simp only [recordFromDict, itemOf_of_get? hold, itemOf_of_get? hnew, itemOf_of_get? htargets,
    itemOf_of_get? houtcomes, itemOf_of_get? hid, itemOf_of_get? hkey, itemOf_of_get? hexpected,
    itemOf_of_get? hstatus, hrollback, textOf_of_get? hdigest, textOf_of_get? hdetail, flagOf_of_get? hoffer,
    flagOf_of_get? hpre, flagOf_of_get? hacknowledged, flagOf_of_get? hattempted, flagOf_of_get? hvalidated,
    flagOf_of_get? hrestored, floatOf_of_get? hcreated, floatOf_of_get? hupdated, ofJson?_toJson, arrayOf,
    Option.getD_some, mapM_outcomeFromDict, map_str, JournalLibrary.str_str, hidentity,
    ActivationStatus.ofValue?_value, bind, Except.bind]
  rfl

end RoundTrip

end VoiceHarness.Activation
