import VoiceHarness.Library.Process
import VoiceHarness.Activation.Journal

/-!
# The activation worker

`execute_activation` as a process. It asks for the journal, the stored configuration, the services and the provider,
and every write of the journal is a request of its own, so the process may be stopped between any two of them. How
often the loop of `_observe_restart` finds the clock before its deadline is an answer of the world too.
-/

set_option autoImplicit false
set_option relaxedAutoImplicit false

namespace VoiceHarness.Activation

open Library

/-! ### What the worker asks -/

/-- A configuration: its voice, and the fingerprint of what is rendered of it. -/
structure StoredConfig where
  voice : String
  digest : String
  deriving DecidableEq

structure VoiceValidationResult where
  usable : Bool
  detail : String

/-- The requests of the worker. A restart and a validation carry the activation they are asked for. -/
inductive Request where
  | current
  | update (recordId : String) (change : Change)
  | loadConfig
  | snapshot (service : String)
  | restart (recordId : String) (rollback : Bool) (service : String)
  | validate (recordId voice : String)
  | restoreVoice (record : ActivationRecord)
  | polls

@[reducible] def Answer : Request → Type
  | .current => Checked (Option ActivationRecord)
  | .update _ _ => Checked ActivationRecord
  | .loadConfig => Checked StoredConfig
  | .snapshot _ => Checked ServiceSnapshot
  | .restart _ _ _ => Except String Unit
  | .validate _ _ => Checked VoiceValidationResult
  | .restoreVoice _ => Checked StoredConfig
  | .polls => ℕ

abbrev Worker (α : Type) := Process Request Answer Raised α

/-- What the world outside the journal answers to the next request. -/
structure Oracle where
  now : Time := 0
  loadConfig : Checked StoredConfig := .ok ⟨"", ""⟩
  snapshot : String → Checked ServiceSnapshot := fun _ ↦ .error ⟨"", ""⟩
  restart : Except String Unit := .ok ()
  validate : Checked VoiceValidationResult := .ok ⟨false, ""⟩
  restoreVoice : Checked StoredConfig := .ok ⟨"", ""⟩
  polls : ℕ := 0

/-- The provider accepts the voice. -/
def Oracle.isUsable (oracle : Oracle) : Bool :=
  match oracle.validate with
  | .ok validation => validation.usable
  | .error _ => false

section Perform

variable [JournalLibrary]

/-- What a request answers, and what it leaves. -/
def perform (oracle : Oracle) : (request : Request) → Journal → Answer request × Journal
  | .current, journal => (journal.read, journal)
  | .update recordId change, journal => journal.update recordId change oracle.now
  | .loadConfig, journal => (oracle.loadConfig, journal)
  | .snapshot service, journal =>
    match oracle.snapshot service with
    | .ok snapshot => (.ok snapshot, { journal with log := .observed service snapshot :: journal.log })
    | .error error => (.error error, journal)
  | .restart recordId rollback service, journal =>
    (oracle.restart, { journal with log := .restarted recordId rollback service :: journal.log })
  | .validate recordId _, journal =>
    (oracle.validate, { journal with log := .validated recordId oracle.isUsable :: journal.log })
  | .restoreVoice _, journal => (oracle.restoreVoice, journal)
  | .polls, journal => (oracle.polls, journal)

end Perform

def current : Worker (Option ActivationRecord) := do
  Process.ofExcept (← Process.request .current)

def update (recordId : String) (change : Change) : Worker ActivationRecord := do
  Process.ofExcept (← Process.request (.update recordId change))

def loadConfig : Worker StoredConfig := do
  Process.ofExcept (← Process.request .loadConfig)

def snapshot (service : String) : Worker ServiceSnapshot := do
  Process.ofExcept (← Process.request (.snapshot service))

def restart (recordId : String) (rollback : Bool) (service : String) : Worker (Except String Unit) :=
  Process.request (Request.restart recordId rollback service)

def validate (recordId voice : String) : Worker (Checked VoiceValidationResult) :=
  Process.request (Request.validate recordId voice)

def restoreVoice (record : ActivationRecord) : Worker (Checked StoredConfig) := Process.request (Request.restoreVoice record)

/-- How often the clock is found before the deadline. -/
def polls : Worker ℕ := Process.request Request.polls

def finish (record : ActivationRecord) (status : ActivationStatus) (detail : String) : Worker ActivationRecord :=
  update record.id (.finish status detail)

/-! ### Observing a restart -/

/-- `_matches_expected_snapshot`. -/
def matchesExpectedSnapshot (snapshot : ServiceSnapshot) (expectedDigest : String)
    (expectedVoice : Option String) : Bool :=
  snapshot.configDigest = expectedDigest ||
    (expectedVoice.any (snapshot.voice = ·) && snapshot.configDigest.length = 64 && isLowerHex snapshot.configDigest)

/-- `identity_changed`. -/
def identityChanged (before : Option ServiceSnapshot) (after : ServiceSnapshot) : Bool :=
  before.any fun before ↦
    after.identity ≠ before.identity && (after.invocationId ≠ "" || after.processStart ≠ "")

/-- The loop of `_observe_restart`, which the clock lets poll this often. -/
def pollRestart (outcome : ServiceOutcome) (expectedDigest : String) (expectedVoice : Option String) :
    ℕ → ServiceSnapshot → Worker ServiceSnapshot
  | 0, after => .pure after
  | polls + 1, after =>
    if after.activeState = "active" && identityChanged outcome.before after &&
        matchesExpectedSnapshot after expectedDigest expectedVoice then
      .pure after
    else do
      let after ← snapshot outcome.service
      pollRestart outcome expectedDigest expectedVoice polls after

/-- What `_observe_restart` concludes from its last snapshot. -/
def concludeRestart (outcome : ServiceOutcome) (expectedDigest : String) (expectedVoice : Option String)
    (after : ServiceSnapshot) : ServiceOutcome :=
  if after.installed && after.activeState = "active" && identityChanged outcome.before after &&
      matchesExpectedSnapshot after expectedDigest expectedVoice then
    { outcome with
      status := .succeeded, after := some after
      detail := if after.configDigest = expectedDigest then "active with the expected immutable snapshot"
        else "active with the expected voice snapshot" }
  else
    let reasons :=
      (if !after.installed then ["service is no longer installed"] else []) ++
      (if after.activeState ≠ "active" then ["service state is " ++ after.activeState] else []) ++
      (if !identityChanged outcome.before after then ["restart invocation was not observed"] else []) ++
      (if !matchesExpectedSnapshot after expectedDigest expectedVoice then
        ["expected configuration or voice snapshot was not observed"] else [])
    { outcome with
      status := .failed, after := some after
      detail := if reasons = [] then "restart outcome is ambiguous" else ", ".intercalate reasons }

/-- `_observe_restart`. -/
def observeRestart (outcome : ServiceOutcome) (expectedDigest : String) (expectedVoice : Option String) :
    Worker ServiceOutcome := do
  let remaining ← polls
  let first ← snapshot outcome.service
  let after ← pollRestart outcome expectedDigest expectedVoice remaining first
  .pure (concludeRestart outcome expectedDigest expectedVoice after)

/-- The restart command of an attempted outcome, and what is observed after it. -/
def restartAndObserve (recordId : String) (rollback : Bool) (attempted : ServiceOutcome) (expectedDigest : String)
    (expectedVoice : Option String) (failure : String) : Worker ServiceOutcome := do
  let commanded ← restart recordId rollback attempted.service
  let observed ← observeRestart attempted expectedDigest expectedVoice
  match commanded with
  | .ok _ => .pure observed
  | .error raised =>
    if observed.status = .failed then
      .pure { observed with detail := failure ++ ": " ++ raised ++ "; " ++ observed.detail }
    else .pure observed

/-! ### Rolling a voice back -/

/-- `f"{type(exc).__name__}: {exc}"`. -/
def Raised.describe (raised : Raised) : String := raised.type ++ ": " ++ raised.text

/-- The detail of an outcome whose service cannot be restarted. -/
def unavailableDetail (before : ServiceSnapshot) : String :=
  if !before.installed then "service is not installed"
  else "service is " ++ before.activeState ++ "; it was not started"

/-- `"; ".join(f"{outcome.service}: {outcome.detail}" ...)`. -/
def describeOutcomes (outcomes : List ServiceOutcome) : String :=
  "; ".intercalate (outcomes.map fun outcome ↦ outcome.service ++ ": " ++ outcome.detail)

/-- `outcome.before or controller.snapshot(outcome.service)`. -/
def snapshotBefore (outcome : ServiceOutcome) : Worker ServiceSnapshot :=
  match outcome.before with
  | some before => .pure before
  | none => snapshot outcome.service

/-- One pass of the loop of `_execute_voice_rollback`. -/
def rollBackTarget (rollbackDigest : String) (record : ActivationRecord) (outcome : ServiceOutcome) :
    Worker ActivationRecord :=
  if outcome.status ≠ .pending then .pure record
  else do
    let before ← snapshotBefore outcome
    if before.installed && before.activeState = "active" && before.configDigest = rollbackDigest then
      update record.id (.updateRollbackOutcome
        { outcome with
          status := .succeeded, before := some before, after := some before
          detail := "already active with the previous immutable snapshot" })
    else if !before.installed || before.activeState ≠ "active" then
      update record.id (.updateRollbackOutcome
        { outcome with status := .failed, before := some before, detail := unavailableDetail before })
    else
      let pending := { outcome with before := some before }
      if pending.attempted then
        let observed ← observeRestart pending rollbackDigest none
        update record.id (.updateRollbackOutcome observed)
      else
        let attempted := { pending with attempted := true }
        let record ← update record.id (.updateRollbackOutcome attempted)
        let observed ← restartAndObserve record.id true attempted rollbackDigest none
          "rollback restart command failed"
        update record.id (.updateRollbackOutcome observed)

/-- The loop of `_execute_voice_rollback`. -/
def rollBackTargets (rollbackDigest : String) : List ServiceOutcome → ActivationRecord → Worker ActivationRecord
  | [], record => .pure record
  | outcome :: outcomes, record => do
    let record ← rollBackTarget rollbackDigest record outcome
    rollBackTargets rollbackDigest outcomes record

/-- `_execute_voice_rollback`, from where the previous voice is proven. -/
def rollBackServices (record : ActivationRecord) : Worker ActivationRecord := do
  let rollbackDigest := record.rollbackConfigDigest
  let record ← rollBackTargets rollbackDigest record.rollbackOutcomes record
  let failed := record.rollbackOutcomes.filter (·.status ≠ .succeeded)
  let finalConfig ← loadConfig
  if finalConfig.digest ≠ rollbackDigest then
    finish record .failed (record.detail ++ " The previous voice could not be proven after restoration.")
  else if failed ≠ [] then
    finish record .failed (record.detail ++ " The previous voice was restored, but its service " ++
      "snapshot could not be fully restored: " ++ describeOutcomes failed)
  else
    finish record .failed (record.detail ++ " The previous voice and service snapshot were restored.")

/-- The rollback goes on with the configuration that is proven to hold the previous voice. -/
def rollBackFrom (record : ActivationRecord) (restored : StoredConfig) : Worker ActivationRecord := do
  let record ← update record.id (.markRollbackConfigRestored restored.digest)
  rollBackServices record

/-- `_execute_voice_rollback`. -/
def executeVoiceRollback (record : ActivationRecord) : Worker ActivationRecord :=
  match record.oldValue, record.newValue with
  | .text oldVoice, .text newVoice => do
    let currentConfig ← loadConfig
    if !record.rollbackConfigRestored then
      if currentConfig.voice = oldVoice then rollBackFrom record currentConfig
      else if currentConfig.voice = newVoice then
        match ← restoreVoice record with
        | .error raised =>
          finish record .failed (record.detail ++ " Restoring the previous voice failed: " ++ raised.describe)
        | .ok restored =>
          if restored.voice ≠ oldVoice then
            finish record .failed (record.detail ++ " Restoring the previous voice did not " ++
              "restore the expected voice value.")
          else rollBackFrom record restored
      else
        finish record .failed (record.detail ++ " The stored voice changed during recovery, " ++
          "so the replacement voice was not overwritten.")
    else if record.rollbackConfigDigest = "" then
      if currentConfig.voice ≠ oldVoice then
        finish record .failed (record.detail ++ " The restored voice could not be proven after journal recovery.")
      else rollBackFrom record currentConfig
    else rollBackServices record
  | _, _ => finish record .failed (record.detail ++ " The voice rollback values were invalid.")

/-- The rollback that begins with this detail. -/
def rollBack (record : ActivationRecord) (detail : String) : Worker ActivationRecord := do
  let record ← update record.id (.beginRollback detail)
  executeVoiceRollback record

/-! ### Activating -/

/-- One pass of the loop over the outcomes. -/
def restartTarget (expectedVoice : Option String) (record : ActivationRecord) (outcome : ServiceOutcome) :
    Worker ActivationRecord :=
  if outcome.status ≠ .pending then .pure record
  else if outcome.attempted then do
    let reconciled ← observeRestart outcome record.expectedConfigDigest expectedVoice
    update record.id (.updateOutcome reconciled)
  else do
    let attempted := { outcome with attempted := true }
    let record ← update record.id (.updateOutcome attempted)
    let observed ← restartAndObserve record.id false attempted record.expectedConfigDigest expectedVoice
      "restart command failed"
    update record.id (.updateOutcome observed)

/-- The loop over the outcomes. -/
def restartTargets (expectedVoice : Option String) :
    List ServiceOutcome → ActivationRecord → Worker ActivationRecord
  | [], record => .pure record
  | outcome :: outcomes, record => do
    let record ← restartTarget expectedVoice record outcome
    restartTargets expectedVoice outcomes record

/-- The outcomes with which the restarts begin: only a service that is installed and active stays pending. -/
def initialOutcomes : List ServiceOutcome → Worker (List ServiceOutcome)
  | [] => .pure []
  | outcome :: outcomes => do
    let before ← snapshot outcome.service
    let first :=
      if !before.installed || before.activeState ≠ "active" then
        { outcome with status := .failed, before := some before, detail := unavailableDetail before }
      else { outcome with before := some before }
    let rest ← initialOutcomes outcomes
    .pure (first :: rest)

/-- `record.new_value if record.setting_key == "audio.voice" and isinstance(record.new_value, str) else None`. -/
def expectedVoiceOf (record : ActivationRecord) : Option String :=
  match record.newValue with
  | .text voice => if record.settingKey = "audio.voice" then some voice else none
  | .flag _ => none

/-- The end of `_execute_activation`, with the stored configuration that it finds there. -/
def concludeActivation (record : ActivationRecord) (finalConfig : StoredConfig) : Worker ActivationRecord :=
  let succeeded := (record.outcomes.filter (·.status = .succeeded)).length
  let complete := succeeded = record.outcomes.length
  let failures := describeOutcomes (record.outcomes.filter (·.status = .failed))
  let storedMatches := finalConfig.digest = record.expectedConfigDigest
  let voiceOwned := expectedVoiceOf record = some finalConfig.voice
  if record.settingKey = "audio.voice" ∧ (¬ voiceOwned ∨ ¬ complete) then
    rollBack record
      (if ¬ voiceOwned then "Voice usability was proven, but stored voice ownership was lost."
       else "Voice usability was proven, but the candidate service snapshot was not fully activated" ++
        if failures ≠ "" then ": " ++ failures else ".")
  else if record.settingKey = "audio.voice" ∧ complete then
    finish record .succeeded ("The selected TTS provider accepted the voice and all targeted services " ++
      "loaded the expected voice snapshot.")
  else if ¬ storedMatches then
    finish record (if succeeded ≠ 0 then .partly else .failed)
      "Service actions completed, but the expected config is no longer stored."
  else if complete then finish record .succeeded "All targeted services loaded the expected configuration."
  else if succeeded ≠ 0 then finish record .partly failures
  else finish record .failed (describeOutcomes record.outcomes)

/-- `_execute_activation`, from where the restarts have begun. -/
def activateServices (record : ActivationRecord) : Worker ActivationRecord :=
  if record.status ≠ .restarting then .throw (stateError "activation request is not executable")
  else do
    let record ← restartTargets (expectedVoiceOf record) record.outcomes record
    let finalConfig ← loadConfig
    concludeActivation record finalConfig

/-- `_execute_activation`, from where the restarts begin. -/
def beginActivation (record : ActivationRecord) : Worker ActivationRecord :=
  if record.status = .ready then do
    let initial ← initialOutcomes record.outcomes
    let record ← update record.id (.beginRestart initial)
    activateServices record
  else activateServices record

/-- `_execute_activation`, from where the voice is validated. -/
def confirmVoice (record : ActivationRecord) : Worker ActivationRecord :=
  if record.settingKey = "audio.voice" ∧ record.status = .ready then do
    let effectiveConfig ← loadConfig
    if expectedVoiceOf record ≠ some effectiveConfig.voice then
      rollBack record "The stored voice changed before the service restart."
    else if effectiveConfig.digest ≠ record.expectedConfigDigest then
      let record ← update record.id (.updateVoiceActivationDigest effectiveConfig.digest)
      beginActivation record
    else beginActivation record
  else beginActivation record

/-- A validation that raises has proven nothing. -/
def provenValidation : Checked VoiceValidationResult → VoiceValidationResult
  | .ok validation => validation
  | .error raised => ⟨false, "TTS validation failed: " ++ raised.describe⟩

section Validation

variable [JournalLibrary]

/-- `_execute_activation`, from where the stored configuration is accepted. -/
def validateAndActivate (record : ActivationRecord) : Worker ActivationRecord :=
  if record.settingKey = "audio.voice" ∧ record.status = .ready ∧ !record.voiceValidated then
    match record.newValue with
    | .flag _ => rollBack record "Voice activation carried an invalid candidate value."
    | .text candidateVoice => do
      let record ← update record.id .beginVoiceValidation
      let validation := provenValidation (← validate record.id candidateVoice)
      if validation.usable then
        let record ← update record.id .markVoiceValidated
        confirmVoice record
      else
        rollBack record ("Voice " ++ JournalLibrary.repr candidateVoice ++ " was not usable: " ++
          validation.detail)
  else confirmVoice record

/-- `_execute_activation`. -/
def executeActivation (recordId : String) : Worker ActivationRecord := do
  match ← current with
  | none => .throw (stateError "activation request no longer exists")
  | some record =>
    if record.id ≠ recordId then .throw (stateError "activation request no longer exists")
    else if record.status.isFinal then .pure record
    else if record.status = .rollingBack then executeVoiceRollback record
    else if record.status = .validating then
      -- the attempt is durable, but its result is not: it is neither repeated nor trusted
      rollBack record ("Voice usability validation was attempted, but its result was not " ++
        "durably recorded. Validation was not repeated.")
    else
      let storedConfig ← loadConfig
      if storedConfig.digest ≠ record.expectedConfigDigest then
        if record.settingKey = "audio.voice" ∧ (record.status = .ready ∨ record.status = .restarting) then
          if record.newValue ≠ .text storedConfig.voice then
            rollBack record "The stored voice changed before voice activation completed."
          else validateAndActivate record
        else if record.status = .ready then
          let record ← update record.id (.beginRestart record.outcomes)
          finish record .failed "The stored configuration changed before activation."
        else finish record .failed "The stored configuration changed before activation."
      else validateAndActivate record

end Validation

end VoiceHarness.Activation
