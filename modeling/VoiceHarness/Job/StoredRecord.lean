import VoiceHarness.Job.Nested

/-!
# The durable record of a job

`AgentJob.from_dict` on every layout of a record of the current schema, and `AgentJob.to_record`. A
stored record is a flat record beside the nested states it may hold. `_flatten_structured_state`
brings the nested fields back among the flat ones, and `_structured_record` moves them out again. A
record that names no harness and holds no nested state keeps the compatibility layout, which is
stored flat.
-/

set_option autoImplicit false
set_option relaxedAutoImplicit false

namespace VoiceHarness

/-! ### The provider state -/

structure GithubSection where
  name : String
  content : Part (NestedState (githubSectionField name))

/-- The GitHub state: a legacy flat mapping has no version. -/
inductive GithubState
  | flat (entries : NestedState githubFlatField)
  | nested (version : Json) (sections : List GithubSection)

structure ProviderState where
  github : Part GithubState
  linear : Part (NestedState linearStateFields.named)
  others : List String

/-- `sorted(unsupported)[0]`. -/
def firstUnsupported : List String → Option String
  | [] => none
  | name :: names => some (names.foldl (fun first other ↦ if other < first then other else first) name)

/-- `version == _GITHUB_STATE_VERSION`. -/
def isGithubStateVersion : Json → Bool
  | .int version => version = 1
  | .float version => version = 1
  | .bool version => version
  | _ => false

/-- The settings of one section of a nested GitHub state. -/
def loadGithubSection (sections : List GithubSection) (name : String) : Checked (List Setting) :=
  match sections.find? fun part ↦ part.name = name with
  | none => .ok []
  | some part => do
    let entries ← part.content.mapping [] ("GitHub provider state " ++ name ++ " section")
    match firstUnsupported entries.unsupported with
    | some field =>
      .error ("GitHub provider state " ++ name ++ " contains unsupported field " ++ field)
    | none => .ok (entries.map NestedEntry.setting)

/-- `load_github_provider_state`. -/
def loadGithubProviderState : GithubState → Checked (List Setting)
  | .flat entries =>
    match firstUnsupported entries.unsupported with
    | some field => .error ("GitHub provider state contains unsupported field " ++ field)
    | none => .ok (entries.map NestedEntry.setting)
  | .nested version sections => do
    let names := githubStateSections.map Prod.fst
    if !isGithubStateVersion version then .error "unsupported GitHub provider state version"
    else match firstUnsupported ((sections.map GithubSection.name).filter (· ∉ names)) with
    | some name => .error ("GitHub provider state contains unsupported section " ++ name)
    | none => do
      let loaded ← names.mapM (loadGithubSection sections)
      .ok loaded.flatten

/-- The keys of a section that are stored. -/
def githubSectionKeys (fields : List (String × String × Field)) : List String :=
  (fields.filter fun field ↦ field.2.2 ∉ githubStateDerivedFields).map Prod.fst

/-- The stored form of a section, which is left out when it is empty. -/
def dumpGithubSection (values : Values) (entry : String × List (String × String × Field)) :
    Option GithubSection :=
  match NestedState.dump (githubSectionField entry.1) values (githubSectionKeys entry.2) with
  | [] => none
  | content => some ⟨entry.1, .object content⟩

/-- `dump_github_provider_state`. -/
def dumpGithubProviderState (values : Values) : GithubState :=
  .nested (.int 1) (githubStateSections.filterMap (dumpGithubSection values))

/-! ### Stored records -/

structure StoredRecord where
  values : Values
  harnessState : Part (NestedState harnessStateFields.named)
  checkoutState : Part (NestedState checkoutStateFields.named)
  providerState : Part ProviderState

/-- The key is in the mapping. -/
def Part.isPresent {α : Type} : Part α → Bool
  | .absent => false
  | .malformed | .object _ => true

namespace Values

/-- The session target under both names. -/
def targetDefault (values : Values) : Values :=
  if (values.text .sessionId).isSome then
    values.setDefault (.text .herdrTarget) (values.text .sessionId) else values

/-- The defaults of a record without nested states. -/
def compatibilityDefaults (values : Values) : Values :=
  let kind := values.setDefault .harnessKind (some .cursor)
  if (kind.text .herdrTarget).isSome then
    kind.setDefault (.text .sessionId) (kind.text .herdrTarget) else kind

theorem sessionDefaults_eq_compatibilityDefaults (values : Values) :
    values.sessionDefaults = values.targetDefault.compatibilityDefaults := rfl

end Values

/-- `GITHUB_PROVIDER_STATE_FIELDS`. -/
def githubStateFields : List Field :=
  githubStateSections.flatMap fun entry ↦ entry.2.map fun field ↦ field.2.2

/-- The fields that `_structured_record` moves into nested states. -/
def nestedFields : List Field :=
  harnessStateFields.fields.map Prod.snd ++ githubStateFields ++
    checkoutStateFields.fields.map Prod.snd ++ linearStateFields.fields.map Prod.snd

namespace StoredRecord

/-- A record without nested states. -/
def flat (values : Values) : StoredRecord :=
  { values, harnessState := .absent, checkoutState := .absent, providerState := .absent }

variable (raw : StoredRecord)

/-- A record of the current schema that was not migrated from an older one. -/
def IsCurrent : Prop :=
  raw.values (.int .schemaVersion) = .val currentSchemaVersion ∧
    raw.values.int .migrationSourceSchemaVersion = none

/-- `compatibility_input`. -/
def isCompatibilityInput : Bool :=
  !(raw.harnessState.isPresent || raw.checkoutState.isPresent || raw.providerState.isPresent)

/-- `compatibility_layout`. -/
def isCompatibilityLayout : Bool :=
  !(raw.values .harnessKind).isPresent && !raw.harnessState.isPresent &&
    !raw.providerState.isPresent

/-- The settings that the nested states hold. -/
def nestedSettings : Checked (List Setting) := do
  let harnessState ← raw.harnessState.mapping [] "harness_state"
  let checkoutState ← raw.checkoutState.mapping [] "checkout_state"
  let providerState ← raw.providerState.mapping ⟨.absent, .absent, []⟩ "provider_state"
  let rawGithubState ← providerState.github.mapping (.flat []) "provider_state.github"
  let githubSettings ← loadGithubProviderState rawGithubState
  let linearState ← providerState.linear.mapping [] "provider_state.linear"
  if !providerState.others.isEmpty then
    .error "provider_state contains an unsupported provider"
  else do
    let harnessSettings ← harnessState.load "harness_state"
    let checkoutSettings ← checkoutState.load "checkout_state"
    let linearSettings ← linearState.load "provider_state.linear"
    .ok (harnessSettings ++ githubSettings ++ checkoutSettings ++ linearSettings)

/-- `_flatten_structured_state`. -/
def flattenStructuredState : Checked Values := do
  let settings ← raw.nestedSettings
  .ok (raw.values.defaults settings).targetDefault

/-- The record that `from_dict` keeps: `migrate_job_record` and the defaults after it. -/
def canonicalise [TextLibrary] : Checked Values := do
  let values ← raw.flattenStructuredState
  (if raw.isCompatibilityInput then values.compatibilityDefaults else values).settle

end StoredRecord

/-! ### The stored form of a job -/

/-- A job with the layout of the record it was read from. -/
structure LoadedJob where
  job : AgentJob
  compatibilityLayout : Bool

namespace LoadedJob

/-- `AgentJob.from_dict`. -/
def fromRecord [TextLibrary] (raw : StoredRecord) : Checked LoadedJob := do
  let values ← raw.canonicalise
  match valid : values.validate with
  | .ok () =>
    .ok { job := { values, lifecycleEvent := none, valid }
          compatibilityLayout := raw.isCompatibilityLayout }
  | .error message => .error message

/-- `AgentJob.to_dict`. -/
def toDict (loaded : LoadedJob) : Values := loaded.job.toDict

/-- The session identity that a structured record stores. -/
def durableSession (values : Values) : Option String :=
  if values.hasText .sessionId then values.text .sessionId else values.text .herdrTarget

/-- `_structured_record`. -/
def structuredRecord (values : Values) : StoredRecord :=
  let named := (((values.set (.int .schemaVersion) (.val currentSchemaVersion)).set .harnessKind
    (.val values.harnessKind)).set (.text .sessionId) (.ofOption (durableSession values))).set
      (.text .herdrTarget) .absent
  let linearState := NestedState.dump linearStateFields.named values linearStateFields.keys
  { values := named.popAll nestedFields
    harnessState := .object (.dump harnessStateFields.named values harnessStateFields.keys)
    checkoutState := .object (.dump checkoutStateFields.named values checkoutStateFields.keys)
    providerState := .object
      { github := if githubStateFields.any fun field ↦ (values field).isPresent then
          .object (dumpGithubProviderState values) else .absent
        linear := if linearState.isEmpty then .absent else .object linearState
        others := [] } }

/-- `AgentJob.to_record`. -/
def toRecord (loaded : LoadedJob) : StoredRecord :=
  if loaded.compatibilityLayout then
    .flat (loaded.job.values.popAll [.harnessKind, .text .sessionId])
  else structuredRecord loaded.job.values

end LoadedJob

end VoiceHarness
