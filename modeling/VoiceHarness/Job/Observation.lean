import VoiceHarness.Job.Recovered
import VoiceHarness.Job.Departure

/-!
# The records of an observation

The changes of `record_operation_observation` on an uncertain operation: a departure, which moves the
operation by a legal transition, and a retry, which counts the observation and schedules the next one.
The record of either is a legal next record of a sound job (`observed_departing`,
`observed_retrying`).
-/

set_option autoImplicit false
set_option relaxedAutoImplicit false

namespace VoiceHarness

/-- An observation of an external operation, with the token a hand-over would store. -/
structure Observation where
  now : Time
  absent : Bool
  token : String
  fresh : token ≠ ""

/-- The conclusion of a departure. -/
def Departure.conclusion : Departure → AgentJob.Conclusion
  | .absent => .confirmAbsent
  | .manual => .requireManual

namespace AgentJob

variable {job : AgentJob} {operation : ObservedOperation} {state : OperationLabel}
  {departure : Departure}

/-! ### The changes of a call -/

/-- The counters of a call. -/
def counters (operation : ObservedOperation) (observation : Observation) (attempts absent : ℤ) :
    List Change :=
  [.put (.int operation.attemptsField) (some attempts),
    .put (.float operation.lastReconciledField) (some observation.now)] ++
  if observation.absent then [.put (.int operation.absentField) (some absent)] else []

/-- What a departure writes besides the operation and the cleanup. -/
def departureChanges (job : AgentJob) (operation : ObservedOperation) (observation : Observation) :
    Departure → List Change × List Change
  | .absent =>
    ([.put (.float operation.confirmedAbsentField) (some observation.now),
        ⟨.float operation.nextReconcileField, .null⟩, ⟨.text .workerOperation, .null⟩],
      if operation = .agent then droppedAgent ++ job.droppedParticipant else [])
  | .manual =>
    ([⟨.float operation.nextReconcileField, .null⟩,
        .put (.float operation.stoppedField) (some observation.now)] ++
      manualSlot operation.manual observation.token observation.now ++ [⟨.text .workerOperation, .null⟩],
      [])

theorem conclusionChanges_departure {observation : Observation} {limits : ReconcileLimits} {attempts : ℤ}
    {changes : List Change} {cleanup : CleanupState}
    (hstate : job.observedState operation departure.checkout departure.session departure.label =
      .ok changes)
    (hcleanup : job.values.cleanupState = .ok cleanup) :
    job.conclusionChanges operation observation.now observation.token attempts limits
        departure.conclusion =
      .ok (changes ++ (job.departureChanges operation observation departure).1 ++
        (finishCleanupReconciliation cleanup).fields ++
        (job.departureChanges operation observation departure).2) := by
  cases departure with
  | absent =>
    unfold Departure.conclusion conclusionChanges
    simp only [Departure.checkout, Departure.session, Departure.label] at hstate
    rw [hstate, hcleanup]
    rfl
  | manual =>
    unfold Departure.conclusion conclusionChanges
    simp only [Departure.checkout, Departure.session, Departure.label] at hstate
    rw [hstate, hcleanup]
    simp only [departureChanges, List.append_nil, bind, Except.bind, List.append_assoc]

/-- The names of the fields a departing operation writes. -/
theorem observedState_names {changes : List Change}
    (hstate : job.values.operation operation.manual.field = some state)
    (huncertain : state ∈ operation.uncertainStates)
    (hchanges : job.observedState operation departure.checkout departure.session departure.label =
      .ok changes) :
    changes.map Sigma.fst ∈
      match operation with
      | .worktree => [checkoutNames]
      | .agent => [sessionNames.take 5, sessionNames]
      | .fork => [[.operation .forkOperationState]] := by
  have hobserved := observedState_eq departure hstate huncertain
  cases operation with
  | worktree =>
    obtain ⟨checkout, -, -, heq⟩ := hobserved
    obtain rfl : changes = _ := Except.ok.inj (hchanges.symm.trans heq)
    exact List.mem_singleton_self _
  | agent =>
    obtain ⟨session, -, -, heq⟩ := hobserved
    obtain rfl : changes = _ := Except.ok.inj (hchanges.symm.trans heq)
    rcases AgentSessionOperation.names_fields (session.movedTo departure.session
      departure.session_isSettled) with hnames | hnames
    · rw [hnames]
      exact List.mem_cons_self
    · rw [hnames]
      exact List.mem_cons_of_mem _ List.mem_cons_self
  | fork =>
    obtain rfl : changes = _ := Except.ok.inj (hchanges.symm.trans hobserved)
    exact List.mem_singleton_self _

/-- The names of the fields a departure writes before and after the cleanup. -/
def departureNames (operation : ObservedOperation) (dropped : List Field) :
    Departure → List Field × List Field
  | .absent =>
    ([.float operation.confirmedAbsentField, .float operation.nextReconcileField, .text .workerOperation],
      match operation with
      | .agent => [.text .herdrTarget, .participant .activeParticipant, .text .herdrPaneId,
          .text .herdrWorkspaceId, .text .agentName, .bool .agentDispatchExited] ++ dropped
      | .fork | .worktree => [])
  | .manual =>
    ([.float operation.nextReconcileField, .float operation.stoppedField,
      .text .manualReconcileOperation, .text .manualReconcileToken, .float .manualReconcileRequiredAt,
      .text .workerOperation], [])

/-- The names of the counters of a call. -/
def counterNames (operation : ObservedOperation) (flag : Bool) : List Field :=
  [.int operation.attemptsField, .float operation.lastReconciledField] ++
    if flag then [.int operation.absentField] else []

/-- The names of the fields of a cleanup. -/
def cleanupNames : List Field :=
  [.bool .targetReleasePending, .text .targetReleaseToken, .bool .cancellationReconciliationPending,
    .int .targetReleaseOwnerPid, .text .targetReleaseOwnerBootId, .text .targetReleaseOwnerStart]

theorem counters_names (operation : ObservedOperation) (observation : Observation) (attempts absent : ℤ) :
    (counters operation observation attempts absent).map Sigma.fst =
      counterNames operation observation.absent := by
  unfold counters counterNames
  cases observation.absent <;> rfl

theorem cleanup_names (cleanup : CleanupState) : cleanup.fields.map Sigma.fst = cleanupNames := rfl

theorem departureChanges_names (job : AgentJob) (operation : ObservedOperation)
    (observation : Observation) (departure : Departure) :
    ∃ dropped ∈ [[], [Field.text .plannerTarget], [.text .reviewerTarget], [.text .implementerTarget]],
      (job.departureChanges operation observation departure).1.map Sigma.fst =
          (departureNames operation dropped departure).1 ∧
        (job.departureChanges operation observation departure).2.map Sigma.fst =
          (departureNames operation dropped departure).2 := by
  refine ⟨job.droppedParticipant.map Sigma.fst, ?_, ?_⟩
  · unfold droppedParticipant
    cases job.values.activeParticipant with
    | none => exact List.mem_cons_self
    | some participant => cases participant <;> simp [Values.participantTargetField]
  · cases departure <;> cases operation <;> exact ⟨rfl, rfl⟩

section

variable {observation : Observation} {attempts absent : ℤ} {changes : List Change}

/-- The changes of a call that ends with a departure. -/
def departing (job : AgentJob) (operation : ObservedOperation) (departure : Departure)
    (observation : Observation) (attempts absent : ℤ) (changes : List Change) (cleanup : CleanupState) :
    List Change :=
  counters operation observation attempts absent ++
    (changes ++ (job.departureChanges operation observation departure).1 ++
      (finishCleanupReconciliation cleanup).fields ++
      (job.departureChanges operation observation departure).2)

variable {cleanup : CleanupState}

/-- A call writes distinct fields of an observation. -/
theorem names_departing (observation : Observation) (attempts absent : ℤ) (cleanup : CleanupState)
    (hstate : job.values.operation operation.manual.field = some state)
    (huncertain : state ∈ operation.uncertainStates)
    (hchanges : job.observedState operation departure.checkout departure.session departure.label =
      .ok changes) :
    ((job.departing operation departure observation attempts absent changes cleanup).map
        Sigma.fst).Nodup ∧
      ∀ field ∈ (job.departing operation departure observation attempts absent changes cleanup).map
        Sigma.fst, field ∈ Values.observationFields := by
  have hnames := observedState_names hstate huncertain hchanges
  obtain ⟨dropped, hdropped, hfirst, hsecond⟩ :=
    departureChanges_names job operation observation departure
  unfold departing
  simp only [List.map_append, counters_names, cleanup_names, hfirst, hsecond]
  generalize changes.map Sigma.fst = names at hnames
  generalize observation.absent = flag
  clear hfirst hsecond hchanges hstate huncertain
  cases operation with
  | worktree =>
    obtain rfl := List.mem_singleton.mp hnames
    cases departure <;> simp only [departureNames] <;> cases flag <;> decide
  | fork =>
    obtain rfl := List.mem_singleton.mp hnames
    cases departure <;> simp only [departureNames] <;> cases flag <;> decide
  | agent =>
    simp only [List.mem_cons, List.not_mem_nil, or_false] at hnames hdropped
    cases departure with
    | manual =>
      simp only [departureNames]
      rcases hnames with rfl | rfl <;> cases flag <;> decide
    | absent =>
      rcases hnames with rfl | rfl <;> rcases hdropped with rfl | rfl | rfl | rfl <;>
        cases flag <;> decide

/-- Only the operation itself writes a field that is not an observed one. -/
theorem mem_changes_of_unobserved {change : Change}
    (hchange : change ∈ job.departing operation departure observation attempts absent changes cleanup)
    (hunobserved : Values.isObserved change.1 = false) : change ∈ changes := by
  obtain ⟨dropped, hdropped, hfirst, hsecond⟩ :=
    departureChanges_names job operation observation departure
  have hothers : ∀ field ∈ counterNames operation observation.absent ++
      (departureNames operation dropped departure).1 ++ cleanupNames ++
        (departureNames operation dropped departure).2, Values.isObserved field = true := by
    generalize observation.absent = flag
    clear hfirst hsecond hchange
    simp only [List.mem_cons, List.not_mem_nil, or_false] at hdropped
    rcases hdropped with rfl | rfl | rfl | rfl <;> cases operation <;> cases departure <;>
      cases flag <;> decide
  have hnot : ∀ other : List Change, other.map Sigma.fst ⊆ counterNames operation observation.absent ++
      (departureNames operation dropped departure).1 ++ cleanupNames ++
        (departureNames operation dropped departure).2 → change ∉ other := by
    intro other hsubset hmem
    rw [hothers _ (hsubset (List.mem_map_of_mem hmem))] at hunobserved
    cases hunobserved
  unfold departing at hchange
  simp only [List.mem_append] at hchange
  rcases hchange with hmem | (((hmem | hmem) | hmem) | hmem)
  · refine absurd hmem (hnot _ ?_)
    rw [counters_names]
    simp
  · exact hmem
  · refine absurd hmem (hnot _ ?_)
    rw [hfirst]
    intro field hfield
    simp [hfield]
  · refine absurd hmem (hnot _ ?_)
    rw [cleanup_names]
    intro field hfield
    simp [hfield]
  · refine absurd hmem (hnot _ ?_)
    rw [hsecond]
    intro field hfield
    simp [hfield]

end

/-- What a checkout was read from. -/
theorem checkout_stored {checkout : CheckoutOperation}
    (h : job.values.checkoutOperation = .ok (some checkout)) :
    job.values (.text .repository) = .val checkout.spec.repository ∧
      job.values (.text .worktreeBranch) = .val checkout.spec.branch ∧
      job.values (.text .worktreePath) = .val checkout.spec.path ∧
      job.values.text .worktreeWorkspaceId = checkout.workspaceId ∧
      job.values.text .worktreeRootPaneId = checkout.rootPaneId := by
  have hcell : ∀ {field : TextField} {text : String}, job.values.textOrEmpty field = text → text ≠ "" →
      job.values (.text field) = .val text := by
    intro field text hread hset
    unfold Values.textOrEmpty Values.text Values.get at hread
    rcases hstored : job.values (.text field) with _ | _ | stored
    · rw [hstored] at hread
      exact absurd hread.symm hset
    · rw [hstored] at hread
      exact absurd hread.symm hset
    · rw [hstored] at hread
      exact congrArg Cell.val hread
  unfold Values.checkoutOperation at h
  split at h
  · cases h
  · split at h
    · cases h
    · obtain ⟨spec, hspec, h⟩ := checked_bind_eq_ok_iff.mp h
      obtain ⟨made, hmade, hsame⟩ := checked_map_eq_ok_iff.mp h
      obtain rfl := Option.some.inj hsame
      unfold CheckoutSpec.make at hspec
      split_ifs at hspec with hcomplete
      unfold CheckoutOperation.make at hmade
      split_ifs at hmade
      cases hspec
      cases hmade
      exact ⟨hcell rfl hcomplete.1, hcell rfl hcomplete.2.1, hcell rfl hcomplete.2.2, rfl, rfl⟩

/-- A call writes distinct fields of an observation, and of the others what they hold. -/
theorem observes_departing (observation : Observation) (attempts absent : ℤ) (cleanup : CleanupState)
    {changes : List Change} (hstate : job.values.operation operation.manual.field = some state)
    (huncertain : state ∈ operation.uncertainStates)
    (hchanges : job.observedState operation departure.checkout departure.session departure.label =
      .ok changes) :
    job.Observes (job.departing operation departure observation attempts absent changes cleanup) := by
  obtain ⟨hnodup, hfields⟩ := names_departing observation attempts absent cleanup hstate huncertain
    hchanges
  refine ⟨hfields, hnodup, ?_⟩
  intro change hchange hunobserved
  have hmem := mem_changes_of_unobserved hchange hunobserved
  have hobserved := observedState_eq departure hstate huncertain
  cases operation with
  | worktree =>
    obtain ⟨checkout, hread, -, heq⟩ := hobserved
    obtain rfl : changes = _ := Except.ok.inj (hchanges.symm.trans heq)
    obtain ⟨hrepository, hbranch, hpath, -⟩ := checkout_stored hread
    simp only [CheckoutOperation.fields, List.mem_cons, List.not_mem_nil, or_false] at hmem
    rcases hmem with rfl | rfl | rfl | rfl | rfl | rfl
    · cases hunobserved
    · exact hrepository
    · exact hbranch
    · exact hpath
    · cases hunobserved
    · cases hunobserved
  | agent =>
    have hnames := observedState_names hstate huncertain hchanges
    have hsession : ∀ field ∈ sessionNames, Values.isObserved field = true := by decide
    have hsubset : changes.map Sigma.fst ⊆ sessionNames := by
      simp only [List.mem_cons, List.not_mem_nil, or_false] at hnames
      rcases hnames with hnames | hnames
      · rw [hnames]
        exact List.take_subset _ _
      · rw [hnames]
        exact List.Subset.refl _
    rw [hsession _ (hsubset (List.mem_map_of_mem hmem))] at hunobserved
    cases hunobserved
  | fork =>
    obtain rfl : changes = _ := Except.ok.inj (hchanges.symm.trans hobserved)
    obtain rfl := List.mem_singleton.mp hmem
    cases hunobserved

/-! ### A departure is accepted -/

/-- The active participant of a job is the one its target names. -/
theorem activeParticipant_target (job : AgentJob) :
    ∀ participant ∈ job.values.activeParticipant,
      truthy (job.values.participantTarget participant) = true ∧
        job.values.participantTarget participant = job.values.text .herdrTarget := by
  have hmem : ((job.values.activeParticipant.any fun participant ↦
      !truthy (job.values.participantTarget participant) ||
        job.values.participantTarget participant ≠ job.values.text .herdrTarget,
      "active participant target must match herdr_target") : Guard) ∈ job.values.promptAndPaneGuards :=
    List.mem_cons_self
  have hguard := job.invariant_guard (show _ ∈ job.values.invariantGuards by
    unfold Values.invariantGuards
    exact List.mem_append_left _ (List.mem_append_left _ (List.mem_append_right _ hmem)))
  rw [Option.any_eq_false] at hguard
  intro participant hmem
  simpa using hguard participant hmem

/-- The observed fields a departure leaves alone, the other operations among them. -/
def untouched (operation : ObservedOperation) (departure : Departure) : List Field :=
  (match operation with
  | .worktree => .operation .forkOperationState :: Values.agentNames.filter Values.isObserved
  | .agent => .operation .forkOperationState :: checkoutNames
  | .fork => checkoutNames ++ Values.agentNames) ++
  (match departure with
  | .absent => [.text .manualReconcileOperation, .text .manualReconcileToken]
  | .manual => []) ++
  match operation, departure with
  | .agent, .absent => []
  | _, _ => [.text .herdrTarget, .participant .activeParticipant, .text .plannerTarget,
      .text .reviewerTarget, .text .implementerTarget]

section

variable {observation : Observation} {attempts absent : ℤ} {changes : List Change} {cleanup : CleanupState}
  {prepareDelivery : Bool}

theorem untouched_notMem (hnames : changes.map Sigma.fst ∈
      match operation with
      | .worktree => [checkoutNames]
      | .agent => [sessionNames.take 5, sessionNames]
      | .fork => [[.operation .forkOperationState]]) :
    ∀ field ∈ untouched operation departure,
      field ∉ (job.departing operation departure observation attempts absent changes cleanup).map
        Sigma.fst := by
  obtain ⟨dropped, hdropped, hfirst, hsecond⟩ :=
    departureChanges_names job operation observation departure
  unfold departing
  simp only [List.map_append, counters_names, cleanup_names, hfirst, hsecond]
  generalize changes.map Sigma.fst = names at hnames
  generalize observation.absent = flag
  clear hfirst hsecond
  cases operation with
  | worktree =>
    obtain rfl := List.mem_singleton.mp hnames
    cases departure <;> simp only [departureNames] <;> cases flag <;> decide
  | fork =>
    obtain rfl := List.mem_singleton.mp hnames
    cases departure <;> simp only [departureNames] <;> cases flag <;> decide
  | agent =>
    simp only [List.mem_cons, List.not_mem_nil, or_false] at hnames hdropped
    cases departure with
    | manual =>
      simp only [departureNames]
      rcases hnames with rfl | rfl <;> cases flag <;> decide
    | absent =>
      rcases hnames with rfl | rfl <;> rcases hdropped with rfl | rfl | rfl | rfl <;>
        cases flag <;> decide

/-- The record of a departure holds the changes, and what it leaves alone. -/
theorem recoveredRecord_departing (hpaired : job.values.IsPaired)
    (hstate : job.values.operation operation.manual.field = some state)
    (huncertain : state ∈ operation.uncertainStates)
    (hchanges : job.observedState operation departure.checkout departure.session departure.label =
      .ok changes) {next : Values}
    (hnext : next = job.recoveredRecord
      (job.departing operation departure observation attempts absent changes cleanup) observation.now none
      [] prepareDelivery) :
    job.values.KeepsUnobserved next ∧
      (∀ change ∈ job.departing operation departure observation attempts absent changes cleanup,
        next change.1 = change.2) ∧
      (∀ field ∈ untouched operation departure, next field = job.values field) ∧
      ∀ field ∈ sessionNames, operation = .agent → field ∉ changes.map Sigma.fst →
        next field = job.values field := by
  have hobserves := observes_departing observation attempts absent cleanup hstate huncertain hchanges
  have hnames := observedState_names hstate huncertain hchanges
  subst hnext
  refine ⟨keepsUnobserved_recoveredRecord hpaired hobserves,
    fun change hchange ↦ recoveredRecord_change hpaired hobserves hchange, ?_, ?_⟩
  · intro field hfield
    have hown : ∀ field ∈ untouched operation departure, field ∉ Values.recoveredFields ∧
        field ∉ .float .updatedAt :: Values.deliveryFields := by
      cases operation <;> cases departure <;> decide
    exact recoveredRecord_other hpaired hobserves (untouched_notMem hnames field hfield)
      (hown field hfield).1 (hown field hfield).2
  · rintro field hfield rfl hnot
    have hown : ∀ field ∈ sessionNames, field ∉ Values.recoveredFields ∧
        field ∉ .float .updatedAt :: Values.deliveryFields := by decide
    refine recoveredRecord_other hpaired hobserves ?_ (hown field hfield).1 (hown field hfield).2
    obtain ⟨dropped, hdropped, hfirst, hsecond⟩ :=
      departureChanges_names job .agent observation departure
    have hothers : ∀ field ∈ sessionNames, field ∉ counterNames .agent observation.absent ∧
        field ∉ (departureNames .agent dropped departure).1 ∧ field ∉ cleanupNames ∧
          field ∉ (departureNames .agent dropped departure).2 := by
      generalize observation.absent = flag
      clear hfirst hsecond hfield
      simp only [List.mem_cons, List.not_mem_nil, or_false] at hdropped
      rcases hdropped with rfl | rfl | rfl | rfl <;> cases departure <;> cases flag <;> decide
    obtain ⟨hcounters, hbefore, hcleanup, hafter⟩ := hothers field hfield
    unfold departing
    simp only [List.map_append, counters_names, cleanup_names, hfirst, hsecond, List.mem_append, not_or]
    exact ⟨hcounters, ⟨⟨hnot, hbefore⟩, hcleanup⟩, hafter⟩

/-- The record of a departure is a legal next record. -/
theorem observed_departing [TextLibrary] (hsound : job.Sound)
    (hstate : job.values.operation operation.manual.field = some state)
    (huncertain : state ∈ operation.uncertainStates)
    (hchanges : job.observedState operation departure.checkout departure.session departure.label =
      .ok changes)
    (hcleanup : job.values.cleanupState = .ok cleanup) {next : Values}
    (hnext : next = job.recoveredRecord
      (job.departing operation departure observation attempts absent changes cleanup) observation.now none
      [] prepareDelivery) :
    job.values.Observed next ∧ next.operation operation.manual.field = some departure.label := by
  obtain ⟨hkept, hcells, huntouched, hsessionKept⟩ :=
    recoveredRecord_departing hsound.paired hstate huncertain hchanges hnext
  have hobserves := observes_departing observation attempts absent cleanup hstate huncertain hchanges
  have hmem : ∀ change ∈ changes,
      change ∈ job.departing operation departure observation attempts absent changes cleanup := by
    intro change hchange
    unfold departing
    simp [hchange]
  have hget : ∀ field ∈ untouched operation departure, next.get field = job.values.get field := by
    intro field hfield
    unfold Values.get
    rw [huntouched field hfield]
  have hagentNames : operation ≠ .agent → ∀ field ∈ Values.agentNames, next field = job.values field := by
    intro hother field hfield
    cases hobserved : Values.isObserved field with
    | false => exact hkept field hobserved
    | true =>
      refine huntouched field ?_
      cases operation with
      | agent => exact absurd rfl hother
      | fork => simp [untouched, hfield]
      | worktree => simp [untouched, hfield, hobserved]
  have hcheckoutNames : operation ≠ .worktree → ∀ field ∈ checkoutNames, next field = job.values field := by
    intro hother field hfield
    refine huntouched field ?_
    cases operation with
    | worktree => exact absurd rfl hother
    | agent => simp [untouched, hfield]
    | fork => simp [untouched, hfield]
  have hforkLabel : operation ≠ .fork →
      next (.operation .forkOperationState) = job.values (.operation .forkOperationState) := by
    intro hother
    refine huntouched _ ?_
    cases operation with
    | fork => exact absurd rfl hother
    | agent => simp [untouched]
    | worktree => simp [untouched]
  obtain ⟨hoperations, hlabel⟩ := operations_departed hkept hstate huncertain hchanges
    (fun change hchange ↦ hcells change (hmem change hchange)) hcheckoutNames hagentNames (by
      intro field hfield hnot
      by_cases hagent : operation = .agent
      · exact hsessionKept field hfield hagent hnot
      · exact hagentNames hagent field (List.mem_append_left _ hfield)) hforkLabel
  have hothers : job.KeepsOthers operation next := by
    intro other hne
    unfold Values.operation Values.get
    cases other with
    | agent => exact congrArg Cell.get? (hagentNames (by rintro rfl; exact hne rfl) _ (by decide))
    | fork => exact congrArg Cell.get? (hforkLabel (by rintro rfl; exact hne rfl))
    | worktree => exact congrArg Cell.get? (hcheckoutNames (by rintro rfl; exact hne rfl) _ (by decide))
    | prompt => exact congrArg Cell.get? (hkept (.operation .promptOperationState) rfl)
    | pane => exact congrArg Cell.get? (hkept (.operation .participantCreationState) rfl)
  have htarget : operation ≠ .agent → next.text .herdrTarget = job.values.text .herdrTarget := by
    intro hother
    unfold Values.text Values.get
    rw [hagentNames hother _ (by decide)]
  have hput : ∀ {field : Field} {value : Option field.type},
      Change.put field value ∈
        job.departing operation departure observation attempts absent changes cleanup →
          next.get field = value := Values.get_of_put hcells
  have hslot : ∀ guard ∈ next.manualGuards, guard.1 = false := by
    cases departure with
    | manual =>
      refine slot_manual observation.fresh hlabel (hput ?_) (hput ?_) <;>
        simp [departing, departureChanges, manualSlot]
    | absent =>
      refine slot_kept hstate huncertain ?_ hothers (hget _ ?_) (hget _ ?_)
      · rw [hlabel]
        decide
      · cases operation <;> decide
      · cases operation <;> decide
  have hfinished : ∀ change ∈ (finishCleanupReconciliation cleanup).fields, next change.1 = change.2 := by
    intro change hchange
    refine hcells change ?_
    unfold departing
    simp [hchange]
  obtain ⟨hpending, hrelease⟩ := released_of_cleanup hkept hcleanup
    (fun guard hguard ↦ job.release_guard hguard) hfinished
  have hactive : (∀ participant ∈ next.activeParticipant,
        truthy (next.participantTarget participant) = true ∧
          next.participantTarget participant = next.text .herdrTarget) ∧
      (next.activeParticipant.isSome = true → job.values.activeParticipant.isSome = true) := by
    by_cases hdropped : operation = .agent ∧ departure = .absent
    · obtain ⟨rfl, rfl⟩ := hdropped
      have hnone : next.activeParticipant = none := by
        unfold Values.activeParticipant
        have hdroppedChange : Change.put (.participant .activeParticipant) none ∈
            job.departing .agent .absent observation attempts absent changes cleanup := by
          simp [departing, departureChanges, droppedAgent, Change.put, Cell.ofOption]
        exact hput hdroppedChange
      rw [hnone]
      simp
    · have hsame : ∀ field ∈ [Field.text .herdrTarget, .participant .activeParticipant,
          .text .plannerTarget, .text .reviewerTarget, .text .implementerTarget],
          next.get field = job.values.get field := by
        intro field hfield
        refine hget field ?_
        cases operation <;> cases departure <;>
          first
          | exact absurd ⟨rfl, rfl⟩ hdropped
          | exact List.mem_append_right _ hfield
      have hparticipant : next.activeParticipant = job.values.activeParticipant :=
        hsame (.participant .activeParticipant) (by decide)
      have hnames : ∀ participant, next.participantTarget participant =
          job.values.participantTarget participant := by
        intro participant
        cases participant
        · exact hsame (.text .plannerTarget) (by decide)
        · exact hsame (.text .reviewerTarget) (by decide)
        · exact hsame (.text .implementerTarget) (by decide)
      have hherdr : next.text .herdrTarget = job.values.text .herdrTarget :=
        hsame (.text .herdrTarget) (by decide)
      rw [hparticipant, hherdr]
      simp only [hnames]
      exact ⟨job.activeParticipant_target, id⟩
  have hidentity : next.text .worktreeWorkspaceId = job.values.text .worktreeWorkspaceId ∧
      next.text .worktreeRootPaneId = job.values.text .worktreeRootPaneId := by
    by_cases hworktree : operation = .worktree
    · subst hworktree
      obtain ⟨checkout, hread, -, heq⟩ := observedState_eq departure hstate huncertain
      obtain rfl : changes = _ := Except.ok.inj (hchanges.symm.trans heq)
      obtain ⟨-, -, -, hworkspace, hroot⟩ := checkout_stored hread
      rw [hworkspace, hroot]
      exact ⟨hput (hmem _ (by simp [CheckoutOperation.fields, CheckoutOperation.movedTo])),
        hput (hmem _ (by simp [CheckoutOperation.fields, CheckoutOperation.movedTo]))⟩
    · unfold Values.text Values.get
      rw [hcheckoutNames hworktree _ (by decide), hcheckoutNames hworktree _ (by decide)]
      exact ⟨rfl, rfl⟩
  refine ⟨?_, hlabel⟩
  have hstamp := recoveredRecord_stamp job
    (job.departing operation departure observation attempts absent changes cleanup) observation.now
    prepareDelivery
  have hdelivery := recoveredRecord_delivery observation.now prepareDelivery hsound.canonical hsound.paired hobserves
  have hsession := recoveredRecord_session observation.now prepareDelivery hsound.canonical hsound.paired hobserves
  rw [← hnext] at hstamp hdelivery hsession
  obtain ⟨hdeliveryState, hdelivered, hacknowledged, hanswered⟩ := hdelivery
  exact {
    kept := hkept
    schemaVersion := hstamp.1
    revision := hstamp.2
    operations := hoperations
    fences := fences_departed hkept hstate huncertain hlabel hothers htarget
    slot := hslot
    release := hrelease
    cleanup := ⟨_, cleanupState_eq hfinished⟩
    pending := hpending
    delivery := hdeliveryState
    delivered := hdelivered
    participant := hactive.1
    active := hactive.2
    workspace := hidentity.1
    rootPane := hidentity.2
    target := hsession.1
    session := hsession.2
    acknowledged := hacknowledged
    answered := hanswered }

end

/-! ### A retry is accepted -/

/-- The changes of a call that only schedules the next observation. -/
def retrying (operation : ObservedOperation) (observation : Observation) (attempts absent : ℤ)
    (nextAt : Time) : List Change :=
  counters operation observation attempts absent ++
    [.put (.float operation.nextReconcileField) (some nextAt)]

/-- The names of the fields of a retry. -/
theorem retrying_names (operation : ObservedOperation) (observation : Observation) (attempts absent : ℤ)
    (nextAt : Time) :
    (retrying operation observation attempts absent nextAt).map Sigma.fst =
      counterNames operation observation.absent ++ [Field.float operation.nextReconcileField] := by
  unfold retrying
  rw [List.map_append, counters_names]
  rfl

section

variable {observation : Observation} {attempts absent : ℤ} {nextAt : Time}

/-- The fields a retry may write: its counters, and what a recovery stamps. -/
def isCounted : Field → Bool
  | .int .agentReconcileAttempts | .int .forkReconcileAttempts | .int .worktreeReconcileAttempts
  | .int .agentAbsentObservations | .int .forkAbsentObservations
  | .int .worktreeAbsentObservations => true
  | .float .agentLastReconciledAt | .float .forkLastReconciledAt
  | .float .worktreeLastReconciledAt | .float .agentNextReconcileAt | .float .forkNextReconcileAt
  | .float .worktreeNextReconcileAt => true
  | .text .sessionId | .text .reconciliationBaseError | .bool .phasePromptActive
  | .int .schemaVersion | .int .revision | .float .updatedAt => true
  | field => field ∈ Values.deliveryFields

/-- The counted fields of the second record over the first one. -/
def countedOver (values next : Values)
    (h : ∀ field, isCounted field = false → next field = values field) : Values where
  cells field := if isCounted field = true then next field else values field
  others := next.others
  absent_of_notMem := by
    intro name hname
    have hkept := h (.other name) rfl
    exact hkept.symm.trans (next.absent_of_notMem name hname)

theorem eq_countedOver {values next : Values}
    (h : ∀ field, isCounted field = false → next field = values field) :
    next = countedOver values next h := by
  refine Values.ext_cells (funext fun field ↦ ?_) rfl
  change next field = if isCounted field = true then next field else values field
  cases hfield : isCounted field with
  | true => rw [if_pos rfl]
  | false => rw [if_neg Bool.false_ne_true, h field hfield]

/-- The cleanup of a job can be read. -/
theorem exists_cleanup (job : AgentJob) : ∃ cleanup, job.values.cleanupState = .ok cleanup := by
  have hcheck := job.adapter_check
    (show parses job.values.cleanupState ∈ job.values.adapterChecks by simp [Values.adapterChecks])
  exact parses_eq_ok_iff.mp hcheck

theorem observes_retrying (job : AgentJob) (operation : ObservedOperation) (observation : Observation)
    (attempts absent : ℤ) (nextAt : Time) :
    job.Observes (retrying operation observation attempts absent nextAt) := by
  have hfields : ∀ flag,
      (counterNames operation flag ++ [Field.float operation.nextReconcileField]).Nodup ∧
      (∀ field ∈ counterNames operation flag ++ [Field.float operation.nextReconcileField],
        field ∈ Values.observationFields) ∧
      ∀ field ∈ counterNames operation flag ++ [Field.float operation.nextReconcileField],
        Values.isObserved field = true := by
    intro flag
    cases operation <;> cases flag <;> decide
  obtain ⟨hnodup, hsubset, hobserved⟩ := hfields observation.absent
  rw [← retrying_names operation observation attempts absent nextAt] at hnodup hsubset hobserved
  refine ⟨hsubset, hnodup, fun change hchange hunobserved ↦ ?_⟩
  rw [hobserved _ (List.mem_map_of_mem hchange)] at hunobserved
  cases hunobserved

/-- The record of a retry is a legal next record in which the operation stays where it is. -/
theorem observed_retrying [TextLibrary] (hsound : job.Sound) {next : Values}
    (hnext : next = job.recoveredRecord (retrying operation observation attempts absent nextAt)
      observation.now none [] false) :
    job.values.Observed next ∧
      next.operation operation.manual.field = job.values.operation operation.manual.field := by
  have hobserves := observes_retrying job operation observation attempts absent nextAt
  have hkept := @keepsUnobserved_recoveredRecord job _ observation.now false hsound.paired hobserves
  have hstamp := recoveredRecord_stamp job (retrying operation observation attempts absent nextAt)
    observation.now false
  have hdelivery := recoveredRecord_delivery observation.now false hsound.canonical hsound.paired hobserves
  have hsession := recoveredRecord_session observation.now false hsound.canonical hsound.paired hobserves
  have hcounted : ∀ field, isCounted field = false → next field = job.values field := by
    intro field hfield
    have hnames : ∀ flag, ∀ field ∈ counterNames operation flag ++
        [Field.float operation.nextReconcileField], isCounted field = true := by
      intro flag
      cases operation <;> cases flag <;> decide
    have hrecovered : ∀ field ∈ Values.recoveredFields, isCounted field = true := by decide
    have hprepared : ∀ field ∈ Field.float .updatedAt :: Values.deliveryFields,
        isCounted field = true := by decide
    have hnot : ∀ {fields : List Field}, (∀ field ∈ fields, isCounted field = true) →
        field ∉ fields := by
      intro fields hfields hmem
      rw [hfields field hmem] at hfield
      cases hfield
    rw [hnext]
    refine recoveredRecord_other hsound.paired hobserves ?_ (hnot hrecovered) (hnot hprepared)
    rw [retrying_names]
    exact hnot (hnames _)
  rw [← hnext] at hkept hstamp hdelivery hsession
  obtain ⟨hdeliveryState, hdelivered, hacknowledged, hanswered⟩ := hdelivery
  have hnames : ∀ field ∈ checkoutNames ++ Values.agentNames, isCounted field = false := by decide
  have hoperations := operations_kept hkept
    (fun field hfield ↦ hcounted field (hnames field (List.mem_append_left _ hfield)))
    (fun field hfield ↦ hcounted field (hnames field (List.mem_append_right _ hfield)))
    (hcounted (.operation .forkOperationState) rfl)
  have hguards : ∀ guards : Values → List Guard, (∀ guard ∈ guards job.values, guard.1 = false) →
      guards (countedOver job.values next hcounted) = guards job.values →
        ∀ guard ∈ guards next, guard.1 = false := by
    intro guards hstored hsame
    rw [eq_countedOver hcounted, hsame]
    exact hstored
  have hinvariant : ∀ guard ∈ job.values.operationFenceGuards ++ job.values.manualGuards,
      guard.1 = false := by
    intro guard hguard
    rcases List.mem_append.mp hguard with hfence | hmanual
    · exact job.invariant_guard (by simp [Values.invariantGuards, hfence])
    · exact job.invariant_guard (by simp [Values.invariantGuards, hmanual])
  obtain ⟨cleanup, hcleanup⟩ := exists_cleanup job
  have hsame : next.cleanupState = job.values.cleanupState ∧
      next.bool .targetReleasePending = job.values.bool .targetReleasePending ∧
      next.activeParticipant = job.values.activeParticipant ∧
      (∀ participant, next.participantTarget participant = job.values.participantTarget participant) ∧
      next.text .herdrTarget = job.values.text .herdrTarget ∧
      next.text .worktreeWorkspaceId = job.values.text .worktreeWorkspaceId ∧
      next.text .worktreeRootPaneId = job.values.text .worktreeRootPaneId := by
    rw [eq_countedOver hcounted]
    exact ⟨rfl, rfl, rfl, fun participant ↦ by cases participant <;> rfl, rfl, rfl, rfl⟩
  obtain ⟨hsameCleanup, hpending, hactive, htargets, htarget, hworkspace, hroot⟩ := hsame
  refine ⟨?_, ?_⟩
  · exact {
      kept := hkept
      schemaVersion := hstamp.1
      revision := hstamp.2
      operations := hoperations
      fences := hguards Values.operationFenceGuards
        (fun guard hguard ↦ hinvariant guard (List.mem_append_left _ hguard)) rfl
      slot := hguards Values.manualGuards
        (fun guard hguard ↦ hinvariant guard (List.mem_append_right _ hguard)) rfl
      release := hguards Values.releaseGuards (fun _ hguard ↦ job.release_guard hguard) rfl
      cleanup := ⟨cleanup, hsameCleanup.trans hcleanup⟩
      pending := hpending
      delivery := hdeliveryState
      delivered := hdelivered
      participant := by
        simp only [hactive, htargets, htarget]
        exact job.activeParticipant_target
      active := by
        rw [hactive]
        exact fun h ↦ h
      workspace := hworkspace
      rootPane := hroot
      target := hsession.1
      session := hsession.2
      acknowledged := hacknowledged
      answered := hanswered }
  · unfold Values.operation Values.get
    rw [hcounted]
    cases operation <;> rfl

end

end AgentJob

end VoiceHarness
