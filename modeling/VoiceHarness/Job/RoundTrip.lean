import VoiceHarness.Job.StoredRecord

/-!
# Reading back what a job stores

The nested states of a stored record give back the fields that were moved into them
(`flattenStructuredState_structuredRecord`), and the stages after them leave those fields as they
are. The two names of the session are the exception: a record stores one session identity, and
reading it gives both names that identity (`LoadedJob.reread`).
-/

set_option autoImplicit false
set_option relaxedAutoImplicit false

namespace VoiceHarness

/-! ### Defaults -/

/-- The cell of a key that is only written for a value. -/
def Cell.held {α : Type} : Option α → Cell α
  | none => .absent
  | some value => .val value

namespace Values

theorem others_setDefault {values : Values} {field : Field} (hfield : field.isOther = false)
    (value : Option field.type) : (values.setDefault field value).others = values.others := by
  unfold setDefault
  split_ifs
  · rfl
  · exact others_set hfield _

theorem others_popAll {values : Values} {fields : List Field}
    (hfields : ∀ field ∈ fields, field.isOther = false) :
    (values.popAll fields).others = values.others := by
  induction fields generalizing values with
  | nil => rfl
  | cons field fields ih =>
    change ((values.set field .absent).popAll fields).others = values.others
    rw [ih fun other hother ↦ hfields other (List.mem_cons_of_mem _ hother),
      others_set (hfields field List.mem_cons_self)]

theorem others_defaults {values : Values} {settings : List Setting}
    (hsettings : ∀ setting ∈ settings, setting.1.isOther = false) :
    (values.defaults settings).others = values.others := by
  induction settings generalizing values with
  | nil => rfl
  | cons setting settings ih =>
    change ((values.setDefault setting.1 setting.2).defaults settings).others = values.others
    rw [ih fun other hother ↦ hsettings other (List.mem_cons_of_mem _ hother),
      others_setDefault (hsettings setting List.mem_cons_self)]

theorem defaults_of_notMem {values : Values} {settings : List Setting} {field : Field}
    (h : field ∉ settings.map Sigma.fst) : values.defaults settings field = values field := by
  induction settings generalizing values with
  | nil => rfl
  | cons setting settings ih =>
    rw [List.map_cons, List.mem_cons, not_or] at h
    change (values.setDefault setting.1 setting.2).defaults settings field = values field
    rw [ih h.2, setDefault_of_ne _ _ h.1]

theorem mem_settings {values : Values} {fields : List Field} {setting : Setting} :
    setting ∈ values.settings fields →
      setting.1 ∈ fields ∧ values setting.1 = .ofOption setting.2 := by
  intro h
  obtain ⟨field, hfield, hsetting⟩ := List.mem_filterMap.mp h
  rcases hcell : values field with _ | _ | value <;> rw [hcell] at hsetting
  · exact absurd hsetting (by simp [Cell.content?])
  · obtain rfl := Option.some.inj hsetting
    exact ⟨hfield, hcell⟩
  · obtain rfl := Option.some.inj hsetting
    exact ⟨hfield, hcell⟩

/-- The default for a field is its own cell. -/
theorem defaults_settings_singleton {base values : Values} {field : Field}
    (hbase : base field = .absent ∨ base field = values field) :
    base.defaults (values.settings [field]) field = values field := by
  unfold settings defaults
  rcases hcell : values field with _ | _ | value <;> simp only [List.filterMap_cons, hcell,
    Cell.content?, Option.map_none, Option.map_some, List.filterMap_nil, List.foldl_cons,
    List.foldl_nil]
  · rcases hbase with h | h
    · exact h
    · rw [h, hcell]
  all_goals
    unfold setDefault
    rcases hbase with h | h
    · simp [h, Cell.isPresent, Cell.ofOption]
    · simp [h, hcell, Cell.isPresent]

/-- The settings of another record as defaults, where the record holds nothing else. -/
theorem defaults_settings {base values : Values} {fields : List Field}
    (hbase : ∀ field ∈ fields, base field = .absent ∨ base field = values field) (field : Field) :
    base.defaults (values.settings fields) field =
      if field ∈ fields then values field else base field := by
  by_cases hfield : field ∈ fields
  · rw [if_pos hfield]
    induction fields generalizing base with
    | nil => exact absurd hfield List.not_mem_nil
    | cons first rest ih =>
      rw [← List.singleton_append, settings_append, defaults_append]
      have hsingle := defaults_settings_singleton (hbase first List.mem_cons_self)
      have hkept : ∀ other, other ≠ first →
          base.defaults (values.settings [first]) other = base other := by
        intro other hother
        refine defaults_of_notMem fun hmem ↦ hother ?_
        obtain ⟨setting, hsetting, rfl⟩ := List.mem_map.mp hmem
        exact List.mem_singleton.mp (mem_settings hsetting).1
      have hnext : ∀ other ∈ first :: rest,
          base.defaults (values.settings [first]) other = .absent ∨
            base.defaults (values.settings [first]) other = values other := by
        intro other hother
        by_cases heq : other = first
        · subst heq
          exact .inr hsingle
        · rw [hkept other heq]
          exact hbase other hother
      by_cases hrest : field ∈ rest
      · exact ih (fun other hother ↦ hnext other (List.mem_cons_of_mem _ hother)) hrest
      · obtain rfl := (List.mem_cons.mp hfield).resolve_right hrest
        rw [defaults_of_notMem, hsingle]
        intro hmem
        obtain ⟨setting, hsetting, rfl⟩ := List.mem_map.mp hmem
        exact hrest (mem_settings hsetting).1
  · rw [if_neg hfield]
    refine defaults_of_notMem fun hmem ↦ hfield ?_
    obtain ⟨setting, hsetting, rfl⟩ := List.mem_map.mp hmem
    exact (mem_settings hsetting).1

end Values

namespace Values

/-- Writing a cell changes nothing exactly when the field holds it. -/
theorem set_eq_iff {values : Values} {field : Field} (hfield : field.isOther = false)
    {cell : Cell field.type} : values.set field cell = values ↔ values field = cell := by
  constructor
  · intro h
    rw [← h, set_self]
  · rintro rfl
    exact set_eq_self hfield

end Values

/-! ### The provider state -/

/-- A search by name among the images of items finds the image of the item of that name. -/
theorem find?_filterMap_of_mem {α β : Type} {make : α → Option β} {key : α → String}
    {name : β → String} (hname : ∀ item image, make item = some image → name image = key item)
    {items : List α} (hkeys : (items.map key).Nodup) {item : α} (hitem : item ∈ items) :
    ((items.filterMap make).find? fun image ↦ name image = key item) = make item := by
  induction items with
  | nil => exact absurd hitem List.not_mem_nil
  | cons first rest ih =>
    rw [List.map_cons, List.nodup_cons] at hkeys
    have hother : ∀ image ∈ rest.filterMap make, name image ≠ key first := by
      intro image himage heq
      obtain ⟨source, hsource, hmake⟩ := List.mem_filterMap.mp himage
      rw [hname source image hmake] at heq
      exact hkeys.1 (heq ▸ List.mem_map_of_mem hsource)
    rcases hmake : make first with _ | image
    · rw [List.filterMap_cons_none hmake]
      rcases List.mem_cons.mp hitem with rfl | hrest
      · rw [hmake, List.find?_eq_none]
        simpa using hother
      · exact ih hkeys.2 hrest
    · rw [List.filterMap_cons_some hmake]
      rcases List.mem_cons.mp hitem with rfl | hrest
      · rw [List.find?_cons_of_pos (by simpa using hname item image hmake), hmake]
      · rw [List.find?_cons_of_neg, ih hkeys.2 hrest]
        rw [hname first image hmake, decide_eq_true_eq]
        exact fun heq ↦ hkeys.1 (heq ▸ List.mem_map_of_mem hrest)

/-- The fields of a section that are stored. -/
def githubStoredFields (fields : List (String × String × Field)) : List Field :=
  (fields.filter fun field ↦ field.2.2 ∉ githubStateDerivedFields).map fun field ↦ field.2.2

/-- The fields that a structured record stores in its nested states. -/
def storedFields : List Field :=
  harnessStateFields.fields.map Prod.snd ++
    githubStateSections.flatMap (fun entry ↦ githubStoredFields entry.2) ++
      checkoutStateFields.fields.map Prod.snd ++ linearStateFields.fields.map Prod.snd

theorem filterMap_githubSectionKeys {entry : String × List (String × String × Field)}
    (hentry : entry ∈ githubStateSections) :
    (githubSectionKeys entry.2).filterMap (githubSectionField entry.1) =
      githubStoredFields entry.2 := by
  unfold githubSectionKeys githubStoredFields
  rw [List.filterMap_map, ← List.filterMap_eq_map]
  refine List.filterMap_congr fun field hfield ↦ ?_
  exact githubSectionField_of_mem entry hentry field (List.mem_of_mem_filter hfield)

theorem firstUnsupported_nil : firstUnsupported [] = none := rfl

theorem loadGithubProviderState_nil : loadGithubProviderState (.flat []) = .ok [] := by
  have hkeys : NestedState.unsupported ([] : NestedState githubFlatField) = [] := rfl
  simp only [loadGithubProviderState, hkeys, firstUnsupported_nil, List.map_nil]

theorem nodup_githubStateSections : (githubStateSections.map Prod.fst).Nodup := by decide +kernel

theorem name_dumpGithubSection {values : Values}
    {entry : String × List (String × String × Field)} {part : GithubSection}
    (h : dumpGithubSection values entry = some part) : part.name = entry.1 := by
  unfold dumpGithubSection at h
  split at h
  · exact absurd h (by simp)
  · obtain rfl := Option.some.inj h
    rfl

/-- A stored section is loaded. -/
theorem loadGithubSection_dump (values : Values) {entry : String × List (String × String × Field)}
    (hentry : entry ∈ githubStateSections) :
    loadGithubSection (githubStateSections.filterMap (dumpGithubSection values)) entry.1 =
      .ok (values.settings (githubStoredFields entry.2)) := by
  have hsettings := @NestedState.setting_dump (githubSectionField entry.1) values
    (githubSectionKeys entry.2)
  rw [filterMap_githubSectionKeys hentry] at hsettings
  have hkeys := @NestedState.unsupported_dump (githubSectionField entry.1) values
    (githubSectionKeys entry.2)
  unfold loadGithubSection
  rw [find?_filterMap_of_mem (fun _ _ ↦ name_dumpGithubSection) nodup_githubStateSections hentry]
  unfold dumpGithubSection
  split
  · rename_i hdump
    split at hdump
    · rename_i hempty
      rw [hempty] at hsettings
      rw [← hsettings]
      rfl
    · exact absurd hdump (by simp)
  · rename_i part hdump
    split at hdump
    · exact absurd hdump (by simp)
    · obtain rfl := Option.some.inj hdump
      simp only [Part.mapping, bind, Except.bind, hkeys, firstUnsupported_nil, hsettings]

/-- A list of computations that all succeed. -/
theorem mapM_eq_ok_of_forall {α β : Type} {read : α → Checked β} {result : α → β} {items : List α}
    (h : ∀ item ∈ items, read item = .ok (result item)) :
    items.mapM read = .ok (items.map result) := by
  induction items with
  | nil => rfl
  | cons item items ih =>
    rw [List.mapM_cons, h item List.mem_cons_self,
      ih fun other hother ↦ h other (List.mem_cons_of_mem _ hother)]
    rfl

theorem settings_flatMap (values : Values) {α : Type} (fields : α → List Field) (items : List α) :
    values.settings (items.flatMap fields) =
      (items.map fun item ↦ values.settings (fields item)).flatten := by
  induction items with
  | nil => rfl
  | cons item items ih =>
    rw [List.flatMap_cons, Values.settings_append, ih, List.map_cons, List.flatten_cons]

/-- A stored GitHub state is loaded. -/
theorem loadGithubProviderState_dump (values : Values) :
    loadGithubProviderState (dumpGithubProviderState values) =
      .ok (values.settings
        (githubStateSections.flatMap fun entry ↦ githubStoredFields entry.2)) := by
  have hnames : ((githubStateSections.filterMap (dumpGithubSection values)).map
      GithubSection.name).filter (· ∉ githubStateSections.map Prod.fst) = [] := by
    rw [List.filter_eq_nil_iff]
    intro name hname
    obtain ⟨part, hpart, rfl⟩ := List.mem_map.mp hname
    obtain ⟨entry, hentry, hdump⟩ := List.mem_filterMap.mp hpart
    rw [name_dumpGithubSection hdump]
    simpa using ⟨entry.2, hentry⟩
  have hload : (githubStateSections.map Prod.fst).mapM
      (loadGithubSection (githubStateSections.filterMap (dumpGithubSection values))) =
        .ok (githubStateSections.map fun entry ↦
          values.settings (githubStoredFields entry.2)) := by
    rw [List.mapM_map]
    exact mapM_eq_ok_of_forall fun entry hentry ↦ loadGithubSection_dump values hentry
  have hversion : isGithubStateVersion (.int 1) = true := by decide
  unfold dumpGithubProviderState loadGithubProviderState
  simp only [hversion, Bool.not_true, Bool.false_eq_true, if_false, hnames, firstUnsupported_nil,
    hload, bind, Except.bind]
  rw [settings_flatMap]

/-! ### The nested states -/

/-- Fields that a record does not hold give no settings. -/
theorem settings_eq_nil {values : Values} {fields : List Field}
    (h : ∀ field ∈ fields, (values field).isPresent = false) : values.settings fields = [] := by
  unfold Values.settings
  rw [List.filterMap_eq_nil_iff]
  intro field hfield
  rcases hcell : values field with _ | _ | value
  · rfl
  all_goals exact absurd (h field hfield) (by rw [hcell]; exact Bool.noConfusion)

theorem githubStoredFields_subset :
    githubStateSections.flatMap (fun entry ↦ githubStoredFields entry.2) ⊆ githubStateFields := by
  intro field hfield
  obtain ⟨entry, hentry, hstored⟩ := List.mem_flatMap.mp hfield
  obtain ⟨source, hsource, rfl⟩ := List.mem_map.mp hstored
  exact List.mem_flatMap.mpr ⟨entry, hentry,
    List.mem_map.mpr ⟨source, List.mem_of_mem_filter hsource, rfl⟩⟩

theorem load_dump_keys (state : StateFields) (values : Values) (name : String) :
    (NestedState.dump state.named values state.keys).load name =
      .ok (values.settings (state.fields.map Prod.snd)) := by
  rw [NestedState.load_dump, state.filterMap_keys]

namespace LoadedJob

/-- The nested states of a structured record hold the stored fields of the job. -/
theorem nestedSettings_structuredRecord (values : Values) :
    (structuredRecord values).nestedSettings = .ok (values.settings storedFields) := by
  have hlinear : ∀ state : NestedState linearStateFields.named,
      (if state.isEmpty then Part.absent else Part.object state).mapping []
        "provider_state.linear" = .ok state := by
    intro state
    rcases state with _ | ⟨entry, rest⟩
    · rfl
    · rfl
  have hgithub : ∃ state, (if githubStateFields.any fun field ↦ (values field).isPresent then
      Part.object (dumpGithubProviderState values) else Part.absent).mapping (.flat [])
        "provider_state.github" = .ok state ∧ loadGithubProviderState state =
          .ok (values.settings
            (githubStateSections.flatMap fun entry ↦ githubStoredFields entry.2)) := by
    split_ifs with hany
    · exact ⟨_, rfl, loadGithubProviderState_dump values⟩
    · refine ⟨_, rfl, ?_⟩
      rw [settings_eq_nil]
      · exact loadGithubProviderState_nil
      · intro field hfield
        rw [List.any_eq_true] at hany
        rw [← Bool.not_eq_true]
        exact fun hpresent ↦ hany ⟨field, githubStoredFields_subset hfield, hpresent⟩
  obtain ⟨github, hmapping, hload⟩ := hgithub
  have hharness := load_dump_keys harnessStateFields values "harness_state"
  have hcheckout := load_dump_keys checkoutStateFields values "checkout_state"
  have hlinearLoad := load_dump_keys linearStateFields values "provider_state.linear"
  unfold storedFields
  rw [Values.settings_append, Values.settings_append, Values.settings_append]
  unfold StoredRecord.nestedSettings
  simp only [checked_bind_eq_ok_iff]
  refine ⟨_, rfl, _, rfl, _, rfl, github, hmapping, _, hload, _, hlinear _, ?_⟩
  rw [List.isEmpty_nil, Bool.not_true, if_neg Bool.false_ne_true]
  simp only [checked_bind_eq_ok_iff]
  exact ⟨_, hharness, _, hcheckout, _, hlinearLoad, rfl⟩

/-! ### The two names of the session -/

variable (loaded : LoadedJob)

/-- The record that reading the stored form gives back: the session identity under both names. -/
def reread : Values :=
  if loaded.compatibilityLayout then
    loaded.toDict.set (.text .sessionId) (.held (loaded.toDict.text .herdrTarget))
  else
    (loaded.toDict.set (.text .sessionId) (.ofOption (durableSession loaded.toDict))).set
      (.text .herdrTarget) (.held (durableSession loaded.toDict))

/-- The two names hold one session identity in the way the stored form gives it back. -/
def SessionPaired : Prop :=
  let session := loaded.toDict (.text .sessionId)
  let target := loaded.toDict (.text .herdrTarget)
  (∃ name, session = .val name ∧ target = .val name) ∨
    if loaded.compatibilityLayout then session = .absent ∧ target.get? = none
    else session = .null ∧ target = .absent

/-- In the structured layout, both names give the stored identity back exactly when it is under
both, or under neither with only the session named. -/
theorem paired_structured_iff {session target : Cell String} :
    (session = .ofOption (if truthy session.get? then session.get? else target.get?) ∧
      target = .held (if truthy session.get? then session.get? else target.get?)) ↔
        (∃ name, session = .val name ∧ target = .val name) ∨
          session = .null ∧ target = .absent := by
  rcases session with _ | _ | name
  · cases target <;> simp [truthy, Cell.ofOption]
  · cases target <;> simp [truthy, Cell.ofOption, Cell.held]
  · by_cases hname : name = ""
    · cases target <;> simp [truthy, hname, Cell.ofOption, Cell.held]
    · cases target <;> simp [truthy, hname, Cell.ofOption, Cell.held, eq_comm]

/-- The stored form gives the record back exactly when its two names are paired. -/
theorem reread_eq_iff : loaded.reread = loaded.toDict ↔ loaded.SessionPaired := by
  unfold reread SessionPaired
  extract_lets session target
  split_ifs with hlayout
  · rw [Values.set_eq_iff rfl]
    change session = .held target.get? ↔ _
    rcases target with _ | _ | name <;> cases session <;> simp [Cell.held, eq_comm]
  · have hsplit : ∀ identity : Option String,
        (loaded.toDict.set (.text .sessionId) (.ofOption identity)).set (.text .herdrTarget)
          (.held identity) = loaded.toDict ↔
            session = .ofOption identity ∧ target = .held identity := by
      intro identity
      have hne : Field.text .sessionId ≠ .text .herdrTarget := by decide
      constructor
      · intro h
        constructor
        · calc session = loaded.toDict (.text .sessionId) := rfl
            _ = _ := by rw [← h, Values.set_of_ne _ _ hne, Values.set_self]
        · calc target = loaded.toDict (.text .herdrTarget) := rfl
            _ = _ := by rw [← h, Values.set_self]
      · rintro ⟨hsession, htarget⟩
        rw [(Values.set_eq_iff rfl).mpr hsession, (Values.set_eq_iff rfl).mpr htarget]
    rw [hsplit]
    exact paired_structured_iff

/-! ### Reading the stored form -/

section Reading

variable {values : Values}

theorem stored_or_derived {field : Field} (h : field ∈ nestedFields) :
    field ∈ storedFields ∨ field ∈ githubStateDerivedFields := by
  by_cases hderived : field ∈ githubStateDerivedFields
  · exact .inr hderived
  · refine .inl ?_
    simp only [nestedFields, List.mem_append] at h
    simp only [storedFields, List.mem_append]
    refine h.imp_left (Or.imp_left (Or.imp_right fun hgithub ↦ ?_))
    obtain ⟨entry, hentry, hfield⟩ := List.mem_flatMap.mp hgithub
    obtain ⟨source, hsource, rfl⟩ := List.mem_map.mp hfield
    exact List.mem_flatMap.mpr ⟨entry, hentry, List.mem_map.mpr
      ⟨source, List.mem_filter.mpr ⟨hsource, by simpa using hderived⟩, rfl⟩⟩

theorem stored_subset_nested : storedFields ⊆ nestedFields := by
  intro field hfield
  simp only [storedFields, List.mem_append] at hfield
  simp only [nestedFields, List.mem_append]
  exact hfield.imp_left (Or.imp_left (Or.imp_right fun h ↦ githubStoredFields_subset h))

theorem nestedFields_isOther : ∀ field ∈ nestedFields, field.isOther = false := by
  decide +kernel

theorem nestedFields_session : ∀ field ∈ nestedFields,
    field ≠ .text .sessionId ∧ field ≠ .text .herdrTarget := by
  decide +kernel

/-- Popping the nested fields and defaulting the stored ones gives the record back, but for the
fields it does not hold. -/
theorem restored_eq {named : Values} (hkept : ∀ field ∈ nestedFields, named field = values field)
    (hderived : ∀ field ∈ githubStateDerivedFields, values field = .absent) :
    (named.popAll nestedFields).defaults (values.settings storedFields) = named := by
  have hbase : ∀ field ∈ nestedFields, named.popAll nestedFields field = .absent :=
    fun field hfield ↦ Values.popAll_of_mem _ hfield
  refine Values.ext_cells (funext fun field ↦ ?_) ?_
  · rw [Values.defaults_settings fun other hother ↦ .inl (hbase other (stored_subset_nested hother))]
    split_ifs with hstored
    · exact (hkept field (stored_subset_nested hstored)).symm
    · by_cases hnested : field ∈ nestedFields
      · have habsent := hderived field ((stored_or_derived hnested).resolve_left hstored)
        rw [hbase field hnested, hkept field hnested, habsent]
      · exact Values.popAll_of_notMem _ hnested
  · rw [Values.others_defaults, Values.others_popAll nestedFields_isOther]
    exact fun setting hsetting ↦
      nestedFields_isOther _ (stored_subset_nested (Values.mem_settings hsetting).1)

theorem set_set (first second : Cell String) (field : TextField) :
    (values.set (.text field) first).set (.text field) second = values.set (.text field) second :=
  Values.ext_cells (Function.update_idem ..) rfl

variable [TextLibrary]

/-- The nested states of a structured record give its fields back. -/
theorem flattenStructuredState_structuredRecord (hsettled : values.IsSettled)
    (hkind : values .harnessKind = .val values.harnessKind) :
    (structuredRecord values).flattenStructuredState =
      .ok ((values.set (.text .sessionId) (.ofOption (durableSession values))).set
        (.text .herdrTarget) (.held (durableSession values))) := by
  have hversion : values.set (.int .schemaVersion) (.val currentSchemaVersion) = values :=
    (Values.set_eq_iff rfl).mpr hsettled.schemaVersion
  have hharness : values.set .harnessKind (.val values.harnessKind) = values :=
    (Values.set_eq_iff rfl).mpr hkind
  set session := values.set (.text .sessionId) (.ofOption (durableSession values)) with hsession
  have hnamed : (structuredRecord values).values =
      (session.set (.text .herdrTarget) .absent).popAll nestedFields := by
    unfold structuredRecord
    simp only [hversion, hharness, hsession]
  have hkept : ∀ field ∈ nestedFields,
      session.set (.text .herdrTarget) .absent field = values field := by
    intro field hfield
    obtain ⟨hsessionId, htarget⟩ := nestedFields_session field hfield
    rw [Values.set_of_ne _ _ htarget, hsession, Values.set_of_ne _ _ hsessionId]
  have hderived : ∀ field ∈ githubStateDerivedFields, values field = .absent := by
    have hdropped : githubStateDerivedFields ⊆ Values.droppedFields := by decide
    exact fun field hfield ↦ hsettled.absent field (hdropped hfield)
  have hne : Field.text .sessionId ≠ .text .herdrTarget := by decide
  have htext : (session.set (.text .herdrTarget) .absent).text .sessionId =
      durableSession values := by
    unfold Values.text Values.get
    rw [Values.set_of_ne _ _ hne, hsession, Values.set_self, Cell.get?_ofOption]
  unfold StoredRecord.flattenStructuredState
  rw [nestedSettings_structuredRecord, hnamed]
  simp only [bind, Except.bind, restored_eq hkept hderived]
  unfold Values.targetDefault
  rw [htext]
  rcases durableSession values with _ | name
  · rw [Option.isSome_none, if_neg Bool.false_ne_true]
    rfl
  · rw [Option.isSome_some, if_pos rfl]
    unfold Values.setDefault
    rw [Values.set_self, Cell.isPresent, if_neg Bool.false_ne_true, set_set]
    rfl

/-- A settled record stays settled when only the names of its session change. -/
theorem isSettled_of_agreeOff {next : Values} (hsettled : values.IsSettled)
    (hagree : Values.AgreeOff Values.sessionFields values next) : next.IsSettled := by
  have hget : ∀ field ∉ Values.sessionFields, next.get field = values.get field := fun field hfield ↦
    Values.get_of_agreeOff hagree hfield
  constructor
  · have hfields : ∀ field ∈ Values.settledFields, field ∉ Values.sessionFields := by decide
    intro field hfield
    rw [hagree field (hfields field hfield)]
    exact hsettled.present field hfield
  · have hfields : ∀ field ∈ Values.droppedFields, field ∉ Values.sessionFields := by decide
    intro field hfield
    rw [hagree field (hfields field hfield)]
    exact hsettled.absent field hfield
  · rw [hagree _ (by decide), Values.bool, hget _ (by decide)]
    exact hsettled.acknowledged
  · constructor
    · rw [Values.text, hget _ (by decide)]
      exact hsettled.issue.url
    · rw [Values.text, Values.text, hget _ (by decide), hget _ (by decide)]
      exact hsettled.issue.repositories
    · rw [Values.int, Values.text, hget _ (by decide), hget _ (by decide)]
      exact hsettled.issue.numbers
  · rw [hagree _ (by decide)]
    exact hsettled.schemaVersion

end Reading

/-! ### The fields of nested states -/

theorem mem_of_lookup {fields : List (String × Field)} {key : String} {field : Field}
    (h : fields.lookup key = some field) : field ∈ fields.map Prod.snd := by
  obtain ⟨before, after, rfl, -⟩ := List.lookup_eq_some_iff.mp h
  simp

/-- A supported nested state holds settings of its fields. -/
theorem mem_settings_of_load {field? : String → Option Field} {state : NestedState field?}
    {fields : List Field} (hfields : ∀ key field, field? key = some field → field ∈ fields)
    (hsupported : state.unsupported = []) :
    ∀ setting ∈ state.map NestedEntry.setting, setting.1 ∈ fields := by
  intro setting hsetting
  obtain ⟨entry, hentry, rfl⟩ := List.mem_map.mp hsetting
  rcases hkey : field? entry.key with _ | field
  · refine absurd (hsupported ▸ List.mem_filter.mpr ⟨List.mem_map_of_mem hentry, ?_⟩ :
      entry.key ∈ ([] : List String)) List.not_mem_nil
    rw [hkey]
    rfl
  · rw [entry.typed field hkey]
    exact hfields _ _ hkey

theorem unsupported_of_load {field? : String → Option Field} {state : NestedState field?}
    {name : String} {settings : List Setting} (h : state.load name = .ok settings) :
    state.unsupported = [] ∧ settings = state.map NestedEntry.setting := by
  unfold NestedState.load at h
  split at h
  · exact absurd h (by simp)
  · rename_i hsupported
    exact ⟨hsupported, (Except.ok.inj h).symm⟩

theorem eq_nil_of_firstUnsupported {names : List String} (h : firstUnsupported names = none) :
    names = [] := by
  cases names with
  | nil => rfl
  | cons name names => exact absurd h (Option.some_ne_none _)

theorem exists_of_mem_mapM {α β : Type} {read : α → Checked β} {items : List α} {results : List β}
    (h : items.mapM read = .ok results) {result : β} (hresult : result ∈ results) :
    ∃ item ∈ items, read item = .ok result := by
  induction items generalizing results with
  | nil =>
    obtain rfl := Except.ok.inj h
    exact absurd hresult List.not_mem_nil
  | cons item items ih =>
    rw [List.mapM_cons] at h
    obtain ⟨first, hfirst, h⟩ := checked_bind_eq_ok_iff.mp h
    obtain ⟨rest, hrest, h⟩ := checked_bind_eq_ok_iff.mp h
    obtain rfl := Except.ok.inj h
    rcases List.mem_cons.mp hresult with rfl | hmem
    · exact ⟨item, List.mem_cons_self, hfirst⟩
    · obtain ⟨source, hsource, hread⟩ := ih hrest hmem
      exact ⟨source, List.mem_cons_of_mem _ hsource, hread⟩

/-- A section of a GitHub state holds settings of its fields. -/
theorem mem_settings_of_githubSection {sections : List GithubSection} {name : String}
    {settings : List Setting} (h : loadGithubSection sections name = .ok settings) :
    ∀ setting ∈ settings, setting.1 ∈ githubStateFields := by
  have hnames : ∀ part key field, githubSectionField part key = some field →
      field ∈ githubStateFields := by
    intro part key field hkey
    obtain ⟨pair, hpair, rfl⟩ := Option.map_eq_some_iff.mp hkey
    obtain ⟨fields, hfields, hlookup⟩ := Option.bind_eq_some_iff.mp hpair
    obtain ⟨before, after, hsections, -⟩ := List.lookup_eq_some_iff.mp hfields
    obtain ⟨first, last, rfl, -⟩ := List.lookup_eq_some_iff.mp hlookup
    refine List.mem_flatMap.mpr ⟨(part, first ++ (key, pair) :: last), ?_, ?_⟩
    · rw [hsections]
      simp
    · simp
  unfold loadGithubSection at h
  split at h
  · obtain rfl := Except.ok.inj h
    exact fun setting hsetting ↦ absurd hsetting List.not_mem_nil
  · rename_i part hpart
    obtain ⟨entries, -, h⟩ := checked_bind_eq_ok_iff.mp h
    split at h
    · exact absurd h (by simp)
    · rename_i hfirst
      obtain rfl := Except.ok.inj h
      exact mem_settings_of_load (hnames part.name) (eq_nil_of_firstUnsupported hfirst)

/-- A GitHub state holds settings of its fields. -/
theorem mem_settings_of_github {state : GithubState} {settings : List Setting}
    (h : loadGithubProviderState state = .ok settings) :
    ∀ setting ∈ settings, setting.1 ∈ githubStateFields := by
  cases state with
  | flat entries =>
    have hnames : ∀ key field, githubFlatField key = some field → field ∈ githubStateFields := by
      intro key field hkey
      obtain ⟨source, hsource, hfield⟩ := List.mem_map.mp (mem_of_lookup hkey)
      obtain ⟨entry, hentry, hmem⟩ := List.mem_flatMap.mp hsource
      obtain ⟨triple, htriple, rfl⟩ := List.mem_map.mp hmem
      exact List.mem_flatMap.mpr ⟨entry, hentry, List.mem_map.mpr ⟨triple, htriple, hfield⟩⟩
    simp only [loadGithubProviderState] at h
    split at h
    · exact absurd h (by simp)
    · rename_i hfirst
      obtain rfl := Except.ok.inj h
      exact mem_settings_of_load hnames (eq_nil_of_firstUnsupported hfirst)
  | nested version sections =>
    simp only [loadGithubProviderState] at h
    split_ifs at h
    split at h
    · exact absurd h (by simp)
    · obtain ⟨loaded, hloaded, hflatten⟩ := checked_bind_eq_ok_iff.mp h
      obtain rfl := Except.ok.inj hflatten
      intro setting hsetting
      obtain ⟨content, hcontent, hmem⟩ := List.mem_flatten.mp hsetting
      obtain ⟨name, -, hsection⟩ := exists_of_mem_mapM hloaded hcontent
      exact mem_settings_of_githubSection hsection setting hmem

/-- The fields that the nested states of a record hold are nested fields. -/
theorem settings_nested {raw : StoredRecord} {settings : List Setting}
    (h : raw.nestedSettings = .ok settings) : ∀ setting ∈ settings, setting.1 ∈ nestedFields := by
  have hnamed : ∀ (state : StateFields) (key : String) (field : Field),
      state.named key = some field → field ∈ state.fields.map Prod.snd :=
    fun state key field hkey ↦ mem_of_lookup hkey
  unfold StoredRecord.nestedSettings at h
  simp only [checked_bind_eq_ok_iff] at h
  obtain ⟨harness, -, checkout, -, provider, -, rawGithub, -, github, hgithub, linear, -, h⟩ := h
  split_ifs at h
  simp only [checked_bind_eq_ok_iff] at h
  obtain ⟨harnessSettings, hharness, checkoutSettings, hcheckout, linearSettings, hlinear, h⟩ := h
  obtain rfl := Except.ok.inj h
  obtain ⟨hharnessKeys, rfl⟩ := unsupported_of_load hharness
  obtain ⟨hcheckoutKeys, rfl⟩ := unsupported_of_load hcheckout
  obtain ⟨hlinearKeys, rfl⟩ := unsupported_of_load hlinear
  intro setting hsetting
  simp only [List.mem_append] at hsetting
  simp only [nestedFields, List.mem_append]
  exact hsetting.imp
    (Or.imp (Or.imp (mem_settings_of_load (hnamed _) hharnessKeys setting)
      (mem_settings_of_github hgithub setting))
      (mem_settings_of_load (hnamed _) hcheckoutKeys setting))
    (mem_settings_of_load (hnamed _) hlinearKeys setting)

/-! ### Jobs that were read -/

section Loaded

variable [TextLibrary] {raw : StoredRecord} {loaded : LoadedJob}

/-- A record is read when its canonical form is valid. -/
theorem fromRecord_eq_ok_iff :
    fromRecord raw = .ok loaded ↔
      raw.canonicalise = .ok loaded.job.values ∧ loaded.job.lifecycleEvent = none ∧
        loaded.compatibilityLayout = raw.isCompatibilityLayout := by
  unfold fromRecord
  constructor
  · intro h
    obtain ⟨values, hcanonical, hloaded⟩ := checked_bind_eq_ok_iff.mp h
    split at hloaded
    · obtain rfl := Except.ok.inj hloaded
      exact ⟨hcanonical, rfl, rfl⟩
    · exact absurd hloaded (by simp)
  · rintro ⟨hcanonical, hevent, hlayout⟩
    obtain ⟨⟨values, event, valid⟩, layout⟩ := loaded
    obtain rfl : event = none := hevent
    obtain rfl : layout = raw.isCompatibilityLayout := hlayout
    rw [hcanonical]
    simp only [bind, Except.bind]
    split
    · rfl
    · rename_i message hinvalid
      rw [valid] at hinvalid
      exact absurd hinvalid (by simp)

/-- A flat record is read as `from_dict` reads it. -/
theorem canonicalise_flat (values : Values) :
    (StoredRecord.flat values).canonicalise = values.canonicalise := by
  have hsettings : (StoredRecord.flat values).nestedSettings = .ok [] := by
    unfold StoredRecord.nestedSettings
    simp only [checked_bind_eq_ok_iff]
    refine ⟨_, rfl, _, rfl, _, rfl, _, rfl, _, loadGithubProviderState_nil, _, rfl, ?_⟩
    rfl
  unfold StoredRecord.canonicalise StoredRecord.flattenStructuredState
  rw [hsettings]
  rfl

/-- A job that was read is settled, and its harness kind is known. -/
theorem settled_of_fromRecord (h : fromRecord raw = .ok loaded) :
    loaded.job.values.IsSettled ∧
      loaded.job.values .harnessKind = .val loaded.job.values.harnessKind := by
  obtain ⟨hcanonical, -, -⟩ := fromRecord_eq_ok_iff.mp h
  obtain ⟨flat, -, hsettle⟩ := checked_bind_eq_ok_iff.mp hcanonical
  refine ⟨(Values.settle_ok hsettle).1, ?_⟩
  have hguard := loaded.job.presence
    ((loaded.job.values.get .harnessKind).isNone, "harness_kind has invalid value")
    (by simp [Values.presenceGuards])
  unfold Values.harnessKind Values.get at *
  rcases hcell : loaded.job.values .harnessKind with _ | _ | kind
  · exact absurd hguard (by simp [hcell])
  · exact absurd hguard (by simp [hcell])
  · rfl

omit [TextLibrary] in
/-- A field outside the nested states keeps its cell when they are flattened, unless it is the
target of the session. -/
theorem flattenStructuredState_of_notMem {values : Values}
    (h : raw.flattenStructuredState = .ok values) {field : Field} (hnested : field ∉ nestedFields)
    (htarget : field ≠ .text .herdrTarget) : values field = raw.values field := by
  obtain ⟨settings, hsettings, hvalues⟩ := checked_bind_eq_ok_iff.mp h
  obtain rfl := Except.ok.inj hvalues
  have hkept : raw.values.defaults settings field = raw.values field := by
    refine Values.defaults_of_notMem fun hmem ↦ hnested ?_
    obtain ⟨setting, hsetting, rfl⟩ := List.mem_map.mp hmem
    exact settings_nested hsettings setting hsetting
  unfold Values.targetDefault
  split_ifs
  · rw [Values.setDefault_of_ne _ _ htarget, hkept]
  · exact hkept

/-- A job of the compatibility layout was given the default harness. -/
theorem harnessKind_of_compatibilityLayout (h : fromRecord raw = .ok loaded)
    (hlayout : loaded.compatibilityLayout = true) :
    loaded.job.values .harnessKind = .val .cursor := by
  obtain ⟨hcanonical, -, hraw⟩ := fromRecord_eq_ok_iff.mp h
  obtain ⟨flat, hflat, hsettle⟩ := checked_bind_eq_ok_iff.mp hcanonical
  rw [hraw] at hlayout
  simp only [StoredRecord.isCompatibilityLayout, Bool.and_eq_true, Bool.not_eq_true'] at hlayout
  have habsent : flat .harnessKind = .absent := by
    rw [flattenStructuredState_of_notMem hflat (by decide +kernel) (by decide)]
    rcases hcell : raw.values .harnessKind with _ | _ | kind
    · rfl
    all_goals exact absurd hlayout.1.1 (by rw [hcell]; exact Bool.noConfusion)
  have hkept := (Values.settle_ok hsettle).2 .harnessKind (by decide)
  split_ifs at hkept with hinput
  · rw [hkept]
    unfold Values.compatibilityDefaults
    have hne : Field.harnessKind ≠ .text .sessionId := by decide
    have hkind : flat.setDefault .harnessKind (some .cursor) .harnessKind = .val .cursor := by
      unfold Values.setDefault
      rw [habsent, Cell.isPresent, if_neg Bool.false_ne_true, Values.set_self]
      rfl
    dsimp only
    split_ifs
    · rw [Values.setDefault_of_ne _ _ hne, hkind]
    · exact hkind
  · rw [habsent] at hkept
    rw [(settled_of_fromRecord h).2] at hkept
    exact absurd hkept (by simp)

omit [TextLibrary] in
/-- The session defaults give a record without its harness and session back. -/
theorem sessionDefaults_popAll {values : Values} (hkind : values .harnessKind = .val .cursor) :
    (values.popAll [.harnessKind, .text .sessionId]).sessionDefaults =
      values.set (.text .sessionId) (.held (values.text .herdrTarget)) := by
  have hne : Field.harnessKind ≠ .text .sessionId := by decide
  set popped := values.popAll [.harnessKind, .text .sessionId] with hpopped
  have hsession : popped (.text .sessionId) = .absent :=
    Values.popAll_of_mem _ (by decide)
  have hharness : popped .harnessKind = .absent := Values.popAll_of_mem _ (by decide)
  have hkinded : popped.set .harnessKind (.val .cursor) = values.set (.text .sessionId) .absent := by
    refine Values.ext_cells (funext fun field ↦ ?_) ?_
    · by_cases hfield : field = .harnessKind
      · subst hfield
        rw [Values.set_self, Values.set_of_ne _ _ hne, hkind]
      · rw [Values.set_of_ne _ _ hfield]
        by_cases hname : field = .text .sessionId
        · subst hname
          rw [hsession, Values.set_self]
        · rw [Values.set_of_ne _ _ hname]
          exact Values.popAll_of_notMem _ (by simp [hfield, hname])
    · rfl
  have htarget : (values.set (.text .sessionId) .absent).text .herdrTarget =
      values.text .herdrTarget := by
    have hother : Field.text .herdrTarget ≠ .text .sessionId := by decide
    unfold Values.text Values.get
    rw [Values.set_of_ne _ _ hother]
  have htext : popped.text .sessionId = none := by
    unfold Values.text Values.get
    rw [hsession, Cell.get?_absent]
  have hdefault : popped.setDefault .harnessKind (some .cursor) =
      values.set (.text .sessionId) .absent := by
    unfold Values.setDefault
    rw [hharness, Cell.isPresent, if_neg Bool.false_ne_true]
    exact hkinded
  unfold Values.sessionDefaults
  simp only [htext, Option.isSome_none, Bool.false_eq_true, if_false, hdefault, htarget]
  rcases values.text .herdrTarget with _ | name
  · rw [Option.isSome_none, if_neg Bool.false_ne_true]
    rfl
  · rw [Option.isSome_some, if_pos rfl]
    unfold Values.setDefault
    rw [Values.set_self, Cell.isPresent, if_neg Bool.false_ne_true, set_set]
    rfl

/-- What the stored form of a job that was read gives back. -/
theorem canonicalise_toRecord (h : fromRecord raw = .ok loaded) :
    loaded.toRecord.canonicalise = .ok loaded.reread := by
  obtain ⟨hsettled, hkind⟩ := settled_of_fromRecord h
  have hagree : Values.AgreeOff Values.sessionFields loaded.job.values loaded.reread := by
    unfold reread
    have hself := Values.AgreeOff.refl Values.sessionFields loaded.job.values
    split_ifs
    · exact hself.set (by decide) _
    · exact (hself.set (by decide) _).set (by decide) _
  have hreread := (isSettled_of_agreeOff hsettled hagree).settle_eq
  unfold toRecord reread at *
  split_ifs at hreread ⊢ with hlayout
  · rw [canonicalise_flat, Values.canonicalise_eq_settle,
      sessionDefaults_popAll (harnessKind_of_compatibilityLayout h hlayout)]
    exact hreread
  · have hinput : (structuredRecord loaded.job.values).isCompatibilityInput = false := rfl
    unfold StoredRecord.canonicalise
    rw [flattenStructuredState_structuredRecord hsettled hkind, hinput]
    exact hreread

/-- The stored form of a current record is current. -/
theorem isCurrent_toRecord (hcurrent : raw.IsCurrent) (h : fromRecord raw = .ok loaded) :
    loaded.toRecord.IsCurrent := by
  obtain ⟨hsettled, -⟩ := settled_of_fromRecord h
  obtain ⟨hcanonical, -, -⟩ := fromRecord_eq_ok_iff.mp h
  obtain ⟨flat, hflat, hsettle⟩ := checked_bind_eq_ok_iff.mp hcanonical
  have hsource : loaded.job.values (.int .migrationSourceSchemaVersion) =
      raw.values (.int .migrationSourceSchemaVersion) := by
    rw [(Values.settle_ok hsettle).2 _ (by decide),
      ← flattenStructuredState_of_notMem hflat (by decide +kernel) (by decide)]
    split_ifs
    · unfold Values.compatibilityDefaults
      dsimp only
      split_ifs
      · rw [Values.setDefault_of_ne _ _ (by decide), Values.setDefault_of_ne _ _ (by decide)]
      · rw [Values.setDefault_of_ne _ _ (by decide)]
    · rfl
  have hkept : ∀ field, field ∉ nestedFields → field ∉ Values.sessionFields →
      loaded.toRecord.values field = loaded.job.values field := by
    intro field hnested hsession
    simp only [Values.sessionFields, List.mem_cons, List.not_mem_nil, or_false, not_or] at hsession
    obtain ⟨htarget, hname, hharness⟩ := hsession
    unfold toRecord
    split_ifs
    · exact Values.popAll_of_notMem _ (by simp [hharness, hname])
    · unfold structuredRecord
      rw [(Values.set_eq_iff rfl).mpr hsettled.schemaVersion, Values.popAll_of_notMem _ hnested,
        Values.set_of_ne _ _ htarget, Values.set_of_ne _ _ hname, Values.set_of_ne _ _ hharness]
  constructor
  · rw [hkept _ (by decide +kernel) (by decide)]
    exact hsettled.schemaVersion
  · unfold Values.int Values.get
    rw [hkept _ (by decide +kernel) (by decide), hsource]
    exact hcurrent.2

/-- The stored form of a current job is a current record, and reading it gives every field of the job
back, but for the two names of its session, which get the one identity that is stored. So it is read
as the same record exactly when those names are paired. -/
theorem fromRecord_toRecord (hcurrent : raw.IsCurrent) (h : fromRecord raw = .ok loaded) :
    loaded.toRecord.IsCurrent ∧ loaded.toRecord.canonicalise = .ok loaded.reread ∧
      (∀ field, field ≠ .text .sessionId → field ≠ .text .herdrTarget →
        loaded.reread field = loaded.toDict field) ∧
      ((∃ again, fromRecord loaded.toRecord = .ok again ∧ again.toDict = loaded.toDict) ↔
        loaded.SessionPaired) := by
  have hread := canonicalise_toRecord h
  refine ⟨isCurrent_toRecord hcurrent h, hread, fun field hsession htarget ↦ ?_, ?_⟩
  · unfold reread
    split_ifs
    · exact Values.set_of_ne _ _ hsession
    · rw [Values.set_of_ne _ _ htarget, Values.set_of_ne _ _ hsession]
  · rw [← reread_eq_iff]
    constructor
    · rintro ⟨again, hagain, hsame⟩
      obtain ⟨hcanonical, -, -⟩ := fromRecord_eq_ok_iff.mp hagain
      rw [hread] at hcanonical
      exact (Except.ok.inj hcanonical).trans hsame
    · intro hsame
      rw [hsame] at hread
      exact ⟨⟨⟨loaded.job.values, none, loaded.job.valid⟩, loaded.toRecord.isCompatibilityLayout⟩,
        fromRecord_eq_ok_iff.mpr ⟨hread, rfl, rfl⟩, rfl⟩

end Loaded

/-! ### A target without a session -/

section

attribute [local instance] asciiTextLibrary

/-- The record of a new job about an issue, with the given names of its session. -/
def issueRecord (session target : Option String) : StoredRecord :=
  let spec : NewAgentJob :=
    { id := "0123456789ab", request := "Fix the parser", createdAt := 0, foregroundUntil := 0
      harnessKind := .cursor, details := .empty }
  .flat (spec.record.update
    [.put (.text .githubRepository) (some "owner/parser"), .put (.int .githubIssue) (some 7),
      .put (.text .issueProvider) (some "github"), .put (.text .sessionId) session,
      .put (.text .herdrTarget) target, .put .participantAdmissionState (some .held)])

theorem fromRecord_toRecord_paired :
    ∃ loaded, fromRecord (issueRecord (some "agent-1") (some "agent-1")) = .ok loaded ∧
      ∃ again, fromRecord loaded.toRecord = .ok again ∧ again.toDict = loaded.toDict := by
  have hcurrent : (issueRecord (some "agent-1") (some "agent-1")).IsCurrent := ⟨rfl, rfl⟩
  have hread : (fromRecord (issueRecord (some "agent-1") (some "agent-1"))).toOption.any (fun loaded ↦
      decide (loaded.toDict (.text .sessionId) = .val "agent-1") &&
        decide (loaded.toDict (.text .herdrTarget) = .val "agent-1")) = true := by
    decide +kernel
  simp only [Option.any_eq_true, Bool.and_eq_true, decide_eq_true_eq] at hread
  obtain ⟨loaded, hloaded, hsession, htarget⟩ := hread
  rw [checked_toOption_eq_some_iff] at hloaded
  exact ⟨loaded, hloaded,
    (fromRecord_toRecord hcurrent hloaded).2.2.2.mpr (.inl ⟨_, hsession, htarget⟩)⟩

/-- A target stands without a session, and the stored form gives it back as the session too. -/
theorem unpaired_not_reread :
    ∃ loaded, (issueRecord none (some "agent-1")).IsCurrent ∧
      fromRecord (issueRecord none (some "agent-1")) = .ok loaded ∧
      ¬ ∃ again, fromRecord loaded.toRecord = .ok again ∧ again.toDict = loaded.toDict := by
  have hread : (fromRecord (issueRecord none (some "agent-1"))).toOption.any (fun loaded ↦
      decide (loaded.toDict (.text .sessionId) = .null) &&
        decide (loaded.toDict (.text .herdrTarget) = .val "agent-1")) = true := by
    decide +kernel
  simp only [Option.any_eq_true, Bool.and_eq_true, decide_eq_true_eq] at hread
  obtain ⟨loaded, hloaded, hsession, htarget⟩ := hread
  rw [checked_toOption_eq_some_iff] at hloaded
  refine ⟨loaded, ⟨rfl, rfl⟩, hloaded, ?_⟩
  rintro ⟨again, hagain, hsame⟩
  obtain ⟨hcanonical, -, -⟩ := fromRecord_eq_ok_iff.mp hagain
  rw [canonicalise_toRecord hloaded] at hcanonical
  have hpaired := loaded.reread_eq_iff.mp ((Except.ok.inj hcanonical).trans hsame)
  unfold SessionPaired at hpaired
  simp [hsession, htarget] at hpaired

end

end LoadedJob

end VoiceHarness
