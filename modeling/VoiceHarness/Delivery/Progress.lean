import VoiceHarness.Delivery.Commands

/-!
# An announcement can be claimed

A client that moves a delivery changes nothing but its fields, so the next record passes every check
the record of the job passed, and the transition is one in which every operation and every other
state machine stays where it is.
-/

set_option autoImplicit false
set_option relaxedAutoImplicit false

namespace VoiceHarness

/-! ### A transition in which nothing moves -/

@[simp] theorem checkoutChange_self (operation : CheckoutOperation) :
    checkoutChange operation operation = .ok () := by simp [checkoutChange]

@[simp] theorem forkChange_self (operation : ForkOperation) :
    forkChange operation operation = .ok () := by simp [forkChange]

@[simp] theorem participantPaneChange_self (operation : ParticipantPaneOperation) :
    participantPaneChange operation operation = .ok () := by simp [participantPaneChange]

@[simp] theorem agentSessionChange_self (owners : List SessionOwner)
    (operation : AgentSessionOperation) :
    agentSessionChange owners operation operation = .ok () := by
  unfold agentSessionChange
  rcases hsession : operation.session with _ | session
  · simp
  · simp [hsession, AgentSessionOperation.acceptsObservation, SessionIdentity.accepts]

theorem validateOperation_self {α : Type} {name : String} {discardable : Bool}
    {change : α → α → Checked Unit} (h : ∀ operation, change operation operation = .ok ())
    (operation : Option α) : validateOperation name discardable change operation operation = .ok () := by
  cases operation with
  | none => rfl
  | some operation => exact h operation

theorem PlanApproval.validateTransition_self (approval : PlanApproval) :
    approval.validateTransition approval = .ok () := by
  rw [validateTransition, runGuards_eq_ok_iff]
  have hlegal : approval.state ∈ legal approval.state := by cases approval.state <;> decide
  simp [hlegal]

theorem ParticipantCreation.validateTransition_self (creation : ParticipantCreation) :
    creation.validateTransition creation = .ok () := by
  rw [validateTransition, runGuards_eq_ok_iff]
  have hlegal : creation.state ∈ creation.state.legal := by cases creation.state <;> decide
  simp [hlegal]

theorem validateWorkflow_self (workflow : WorkflowState) :
    validateWorkflow workflow workflow = .ok () := by
  obtain ⟨phase, classification, hclassified, hsimple⟩ := workflow
  cases classification with
  | none => simp [validateWorkflow]
  | some classification =>
    have hmake : WorkflowState.make phase (some classification) =
        .ok ⟨phase, some classification, hclassified, hsimple⟩ := by
      unfold WorkflowState.make
      rw [dif_pos hclassified, dif_pos hsimple]
    simp [validateWorkflow, hmake, bind, Except.bind, WorkflowState.transition, parses, Except.map]

/-- The variant at the next revision. -/
def JobLifecycle.nextRevision : JobLifecycle → JobLifecycle
  | queued identity queuedAt execution worker =>
    queued identity.nextRevision queuedAt execution worker
  | routing identity worker execution => routing identity.nextRevision worker execution
  | running identity worker execution => running identity.nextRevision worker execution
  | awaitingUser identity question result execution =>
    awaitingUser identity.nextRevision question result execution
  | blocked identity result blockedAt execution =>
    blocked identity.nextRevision result blockedAt execution
  | reconciling identity execution cleanup intent worker =>
    reconciling identity.nextRevision execution cleanup intent worker
  | terminal identity execution outcome => terminal identity.nextRevision execution outcome

theorem applyEvent_nextRevision (lifecycle : JobLifecycle) :
    applyEvent lifecycle
      { kind := .lifecycle
        expectedRevision := lifecycle.identity.revision
        nextState := lifecycle.nextRevision } = .ok lifecycle.nextRevision := by
  cases lifecycle <;>
    simp [applyEvent, applyEvent.staleWorker, JobLifecycle.identity, JobLifecycle.nextRevision,
      JobLifecycle.state]

/-! ### The record of an announced state -/

namespace DeliveryState

/-- The acknowledgement of a state is final exactly when its delivery is over, and its token is one
a client draws. -/
structure Fits (state : DeliveryState) : Prop where
  final : state.isDelivered =
    decide (state.announcement.acknowledgement ∈ [AnnouncementAck.spoken, .dismissed])
  token : ∀ token ∈ state.token?, token ≠ ""

/-- What is stored of the time of the delivery: only a delivery that is over writes it. -/
def deliveredCell (values : Values) : DeliveryState → Cell (Field.float .deliveredAt).type
  | delivered _ deliveredAt .. => .ofOption deliveredAt
  | pending .. | claimed .. => values (.float .deliveredAt)

/-- The fields of a state, one by one. -/
def cells (values : Values) (state : DeliveryState) : List Change :=
  [.put (.int .deliveryGeneration) (some state.generation),
    .put (.int .deliveryAttempts) (some state.attempts),
    .put .announcementAck (some state.announcement.acknowledgement),
    .put (.bool .announcementRepeated) (some state.announcement.repeated),
    .put (.text .deliveryClaimToken) state.token?,
    .put (.float .deliveryClaimedAt) state.claimedAt?,
    .put (.float .deliveryRetryAt) (some state.retryAt),
    .put (.bool .delivered) (some state.isDelivered),
    ⟨.float .deliveredAt, state.deliveredCell values⟩]

theorem update_fields (values : Values) (state : DeliveryState) :
    values.update state.fields = values.update (state.cells values) := by
  have hkept : ∀ changes : List Change, Field.float .deliveredAt ∉ changes.map Sigma.fst →
      values.update (changes ++ [⟨.float .deliveredAt, values (.float .deliveredAt)⟩]) =
        values.update changes := by
    intro changes hother
    rw [Values.update_append, Values.update_cons, Values.update_nil,
      ← Values.update_of_notMem _ hother]
    exact Values.set_eq_self rfl
  have hother : Field.float .deliveredAt ∉ ((state.cells values).dropLast).map Sigma.fst := by
    simp [cells]
  cases state with
  | pending generation retryAt attempts announcement => exact (hkept _ hother).symm
  | claimed generation token claimedAt retryAt attempts announcement =>
    exact (hkept _ hother).symm
  | delivered generation deliveredAt attempts announcement => rfl

end DeliveryState

section

variable (values : Values) (state : DeliveryState)

/-- The record of a job whose delivery is in this state. -/
def announcedRecord : Values :=
  (values.update (state.cells values)).update
    [.put (.int .schemaVersion) (some currentSchemaVersion),
      .put (.int .revision) (some (values.revision + 1))]

variable {values state}

theorem invariantGuards_announcedRecord (h : ∀ guard ∈ values.invariantGuards, guard.1 = false)
    (hfits : state.Fits) :
    ∀ guard ∈ (announcedRecord values state).invariantGuards, guard.1 = false := by
  unfold Values.invariantGuards at h ⊢
  simp only [List.forall_mem_append] at h ⊢
  obtain ⟨⟨⟨⟨⟨⟨⟨⟨⟨⟨hgithub, hlinear⟩, hsplit⟩, hissue⟩, hworker⟩, hdelivery⟩, hworkflow⟩, hplan⟩,
    hprompt⟩, hfence⟩, hmanual⟩ := h
  refine ⟨⟨⟨⟨⟨⟨⟨⟨⟨⟨hgithub, hlinear⟩, hsplit⟩, hissue⟩, ?_⟩, ?_⟩, hworkflow⟩, hplan⟩, ?_⟩, hfence⟩,
    hmanual⟩
  · unfold Values.workerGuards at hworker ⊢
    simp only [List.forall_mem_cons] at hworker ⊢
    obtain ⟨hrevision, hpid, hpaired, hrequired, -⟩ := hworker
    refine ⟨?_, hpid, hpaired, hrequired, fun _ hmem ↦ absurd hmem List.not_mem_nil⟩
    have hstored : 0 ≤ values.revision := Int.not_lt.mp (of_decide_eq_false hrevision)
    refine decide_eq_false (Int.not_lt.mpr ?_)
    change 0 ≤ values.revision + 1
    omega
  · have hack : (announcedRecord values state).announcementAck =
        state.announcement.acknowledgement := rfl
    have hheld : (announcedRecord values state).hasText .deliveryClaimToken =
        truthy state.token? := by
      change truthy (Cell.ofOption state.token?).get? = _
      rw [Cell.get?_ofOption]
    have hdelivered : (announcedRecord values state).bool .delivered = state.isDelivered := rfl
    have hclaimedAt : (announcedRecord values state).float .deliveryClaimedAt = state.claimedAt? := by
      change (Cell.ofOption state.claimedAt?).get? = _
      rw [Cell.get?_ofOption]
    unfold Values.deliveryGuards
    simp only [hack, hheld, hdelivered, hclaimedAt]
    obtain ⟨hfinal, htoken⟩ := hfits
    cases state with
    | pending generation retryAt attempts announcement =>
      have hopen := of_decide_eq_false hfinal.symm
      simpa [DeliveryState.announcement, DeliveryState.isDelivered, DeliveryState.token?,
        DeliveryState.claimedAt?, truthy] using hopen
    | claimed generation token claimedAt retryAt attempts announcement =>
      have hopen := of_decide_eq_false hfinal.symm
      simpa [DeliveryState.announcement, DeliveryState.isDelivered, DeliveryState.token?,
        DeliveryState.claimedAt?, truthy, htoken token rfl] using hopen
    | delivered generation deliveredAt attempts announcement =>
      have hdone : announcement.acknowledgement ∈ [AnnouncementAck.spoken, .dismissed] :=
        of_decide_eq_true hfinal.symm
      have hother : announcement.acknowledgement ∉ [AnnouncementAck.desktop, .deferred] := by
        revert hdone
        cases announcement.acknowledgement <;> decide
      simpa [DeliveryState.announcement, DeliveryState.isDelivered, DeliveryState.token?,
        DeliveryState.claimedAt?, truthy] using hother
  · unfold Values.promptAndPaneGuards at hprompt ⊢
    simp only [List.forall_mem_cons] at hprompt ⊢
    obtain ⟨hactive, hrest⟩ := hprompt
    refine ⟨?_, hrest⟩
    have htarget : ∀ participant, (announcedRecord values state).participantTarget participant =
        values.participantTarget participant := by
      intro participant
      cases participant <;> rfl
    simp only [htarget]
    exact hactive

/-- A record with the fields of a state that fits is read as that state. -/
theorem deliveryState_announcedRecord (hfits : state.Fits) :
    (announcedRecord values state).deliveryState = .ok state := by
  have hread : (announcedRecord values state).deliveryState =
      loadDeliveryState state.isDelivered state.generation state.token? state.claimedAt?
        state.retryAt state.attempts (state.deliveredCell values).get?
        state.announcement.acknowledgement state.announcement.repeated := by
    change loadDeliveryState _ _ (Cell.ofOption state.token?).get?
      (Cell.ofOption state.claimedAt?).get? _ _ _ _ _ = _
    rw [Cell.get?_ofOption, Cell.get?_ofOption]
    rfl
  rw [hread]
  obtain ⟨hfinal, htoken⟩ := hfits
  cases state with
  | pending generation retryAt attempts announcement =>
    have hopen := of_decide_eq_false hfinal.symm
    exact if_neg hopen
  | claimed generation token claimedAt retryAt attempts announcement =>
    have hopen := of_decide_eq_false hfinal.symm
    have hheld : truthy (some token) = true := by simp [truthy, htoken token rfl]
    unfold loadDeliveryState
    simp only [DeliveryState.token?, DeliveryState.claimedAt?, hheld]
    exact if_neg hopen
  | delivered generation deliveredAt attempts announcement =>
    have hdone := of_decide_eq_true hfinal.symm
    unfold DeliveryState.deliveredCell
    rw [Cell.get?_ofOption]
    exact if_neg (not_not.mpr hdone)

/-- The record passes every check the record of the job passes. -/
theorem validate_announcedRecord (h : values.validate = .ok ()) (hfits : state.Fits) :
    (announcedRecord values state).validate = .ok () := by
  rw [Values.validate_eq_ok_iff] at h ⊢
  obtain ⟨hpresence, hprompt, hinvariants⟩ := h
  rw [Values.validateInvariants_eq_ok_iff] at hinvariants
  obtain ⟨hadapters, hguards, hoperations, hrelease⟩ := hinvariants
  have hdelivery : (announcedRecord values state).deliveryState = .ok state :=
    deliveryState_announcedRecord hfits
  refine ⟨?_, hprompt, ?_⟩
  · unfold Values.presenceGuards at hpresence ⊢
    simp only [List.forall_mem_cons] at hpresence ⊢
    obtain ⟨hid, hparent, hself, hstatus, hkind, hprovider, -, hrequest, hcreated, -, hrest⟩ :=
      hpresence
    exact ⟨hid, hparent, hself, hstatus, hkind, hprovider, rfl, hrequest, hcreated, rfl, hrest⟩
  · rw [Values.validateInvariants_eq_ok_iff]
    refine ⟨?_, invariantGuards_announcedRecord hguards hfits, hoperations, hrelease⟩
    unfold Values.adapterChecks at hadapters ⊢
    simp only [List.forall_mem_cons] at hadapters ⊢
    obtain ⟨hterminal, hcleanup, -, hrest⟩ := hadapters
    exact ⟨hterminal, hcleanup, parses_eq_ok_iff.mpr ⟨_, hdelivery⟩, hrest⟩

/-- The record is canonical where the record of the job is. -/
theorem isCanonical_announcedRecord [TextLibrary] (h : values.IsCanonical) (hfits : state.Fits) :
    (announcedRecord values state).IsCanonical := by
  have hcells : ((state.cells values).map Sigma.fst) ⊆ Values.deliveryFields := by
    simp [DeliveryState.cells, Values.deliveryFields]
  have hkept : Values.AgreeOff (Values.deliveryFields ++ Values.recordFields) values
      (announcedRecord values state) := by
    refine Values.AgreeOff.update (Values.AgreeOff.update (.refl _ _) ?_) (by
      simp [Values.recordFields, Values.bookkeepingFields])
    exact List.Subset.trans hcells (List.subset_append_left _ _)
  constructor
  · exact h.target
  · exact h.session
  · have hother : ∀ field ∈ Values.defaultedFields,
        field ∉ Values.deliveryFields ++ Values.recordFields := by decide
    intro field hfield
    rw [hkept field (hother field hfield)]
    exact h.present field hfield
  · have hother : ∀ field ∈ Values.droppedFields,
        field ∉ Values.deliveryFields ++ Values.recordFields := by decide
    intro field hfield
    rw [hkept field (hother field hfield)]
    exact h.absent field hfield
  · refine ⟨state.announcement.acknowledgement, rfl, ?_⟩
    rintro ⟨hdelivered, hpending⟩
    have hfinal := hfits.final.symm.trans hdelivered
    rw [hpending] at hfinal
    cases hfinal
  · exact ⟨h.issue.url, h.issue.repositories, h.issue.numbers⟩
  · rfl

/-- The variant of the record of a claim is the variant of the job at the next revision. -/
theorem lifecycle_announcedRecord {lifecycle : JobLifecycle} (h : values.lifecycle = .ok lifecycle) :
    (announcedRecord values state).lifecycle =
      .ok lifecycle.nextRevision ∧ lifecycle.identity = values.identity := by
  have hidentity : (announcedRecord values state).identity = values.identity.nextRevision := rfl
  have hworker : (announcedRecord values state).workerOwnership = values.workerOwnership := rfl
  have hworkflow : (announcedRecord values state).workflowState = values.workflowState := rfl
  have hprompt : (announcedRecord values state).promptOperation = values.promptOperation := rfl
  have hstatus : (announcedRecord values state).status = values.status := rfl
  have htexts : ∀ field ∈ [TextField.question, .result], (announcedRecord values
      state).textOrEmpty field = values.textOrEmpty field := by
    intro field hfield
    simp only [List.mem_cons, List.not_mem_nil, or_false] at hfield
    rcases hfield with rfl | rfl <;> rfl
  have htimes : ∀ field ∈ [FloatField.queuedAt, .completedAt], (announcedRecord values
      state).float field = values.float field := by
    intro field hfield
    simp only [List.mem_cons, List.not_mem_nil, or_false] at hfield
    rcases hfield with rfl | rfl <;> rfl
  have hterminal : (announcedRecord values state).terminalState = values.terminalState := rfl
  have hcleanup : (announcedRecord values state).cleanupState = values.cleanupState := rfl
  unfold Values.lifecycle at h ⊢
  simp only [hidentity, hworker, hworkflow, hprompt, hstatus, htexts _ List.mem_cons_self,
    htexts _ (List.mem_cons_of_mem _ List.mem_cons_self), htimes _ List.mem_cons_self,
    htimes _ (List.mem_cons_of_mem _ List.mem_cons_self), hterminal, hcleanup]
  obtain ⟨_, hguards, h⟩ := checked_bind_eq_ok_iff.mp h
  obtain ⟨worker, hreadWorker, h⟩ := checked_bind_eq_ok_iff.mp h
  obtain ⟨workflow, hreadWorkflow, h⟩ := checked_bind_eq_ok_iff.mp h
  have hnext : runGuards values.identity.nextRevision.guards = .ok () := by
    rw [runGuards_eq_ok_iff] at hguards ⊢
    unfold JobIdentity.guards at hguards ⊢
    simp only [List.forall_mem_cons] at hguards ⊢
    obtain ⟨hid, hparent, hprovider, hrevision, -⟩ := hguards
    refine ⟨hid, hparent, hprovider, ?_, fun _ hmem ↦ absurd hmem List.not_mem_nil⟩
    have hstored : 0 ≤ values.identity.revision := Int.not_lt.mp (of_decide_eq_false hrevision)
    refine decide_eq_false (Int.not_lt.mpr ?_)
    change 0 ≤ values.identity.revision + 1
    omega
  rw [hnext, hreadWorker, hreadWorkflow]
  simp only [bind, Except.bind] at h ⊢
  cases hstate : values.status with
  | queued =>
    simp only [hstate] at h ⊢
    rcases hqueued : values.float .queuedAt with _ | queuedAt
    · rw [hqueued] at h
      cases h
    · rw [hqueued] at h
      cases h
      exact ⟨rfl, rfl⟩
  | routing | running =>
    simp only [hstate] at h ⊢
    rcases worker with _ | worker
    · cases h
    · cases h
      exact ⟨rfl, rfl⟩
  | awaitingUser =>
    simp only [hstate] at h ⊢
    split_ifs at h ⊢
    cases h
    exact ⟨rfl, rfl⟩
  | blocked =>
    simp only [hstate] at h ⊢
    rcases hcompleted : values.float .completedAt with _ | blockedAt
    · rw [hcompleted] at h
      cases h
    · rw [hcompleted] at h
      simp only at h ⊢
      split_ifs at h ⊢
      cases h
      exact ⟨rfl, rfl⟩
  | reconciling =>
    simp only [hstate] at h ⊢
    rcases hcleaning : values.cleanupState with message | cleanup
    · rw [hcleaning] at h
      cases h
    · rw [hcleaning] at h
      rcases hterminal : values.terminalState with message | terminal
      · rw [hterminal] at h
        cases h
      · rw [hterminal] at h
        cases terminal with
        | intent outcome =>
          cases cleanup with
          | settled => cases h
          | reconciling => cases h
          | pending | owned =>
            cases h
            exact ⟨rfl, rfl⟩
        | «open» | materialized =>
          cases cleanup <;>
            · cases h
              exact ⟨rfl, rfl⟩
  | completed | failed | cancelled =>
    simp only [hstate] at h ⊢
    rcases hterminal : values.terminalState with message | terminal
    · rw [hterminal] at h
      cases h
    · rw [hterminal] at h
      cases terminal with
      | materialized outcome =>
        cases h
        exact ⟨rfl, rfl⟩
      | «open» => cases h
      | intent outcome => cases h

end

/-! ### A claim that is not refused -/

namespace Values

variable {values : Values}

theorem update_eq_self {changes : List Change} (h : values.Holds changes)
    (hfields : ∀ change ∈ changes, change.1.isOther = false) : values.update changes = values := by
  induction changes generalizing values with
  | nil => rfl
  | cons change changes ih =>
    rw [List.forall_mem_cons] at hfields
    have hset : values.set change.1 change.2 = values := by
      rw [← h change List.mem_cons_self]
      exact set_eq_self hfields.1
    rw [update_cons, hset]
    exact ih (fun other hother ↦ h other (List.mem_cons_of_mem _ hother)) hfields.2

/-- A worker claim is whole, or nothing is left of it. -/
structure IsPaired (values : Values) : Prop where
  free : (values (.float .workerClaimedAt)).isPresent = true →
    (values.text .workerToken).isNone = true → values.Holds claimFields
  held : (values (.float .workerClaimedAt)).isPresent = true →
    (values.text .workerToken).isNone = false → (values.text .workerClaimOperation).isNone = false

theorem IsPaired.pairWorkerOwnership_eq (h : values.IsPaired) :
    values.pairWorkerOwnership = values := by
  unfold pairWorkerOwnership
  split_ifs with habsent hfree hopen
  · rfl
  · exact update_eq_self (h.free (by simpa using habsent) hfree) (by decide)
  · have hheld := h.held (by simpa using habsent) (Bool.eq_false_iff.mpr hfree)
    rw [hopen] at hheld
    cases hheld
  · rfl

theorem IsPaired.of_agreeOff {other : Values} {fields : List Field} (h : values.IsPaired)
    (hagree : AgreeOff fields values other)
    (hfields : ∀ field ∈ Field.text .workerToken :: workerClaimFields, field ∉ fields) :
    other.IsPaired := by
  have hsame : ∀ field ∈ Field.text .workerToken :: workerClaimFields,
      other field = values field := fun field hfield ↦ hagree field (hfields field hfield)
  have htoken : other.text .workerToken = values.text .workerToken := by
    unfold text get
    rw [hsame _ (by decide)]
  have hoperation : other.text .workerClaimOperation = values.text .workerClaimOperation := by
    unfold text get
    rw [hsame _ (by decide)]
  have hclaimedAt := hsame (.float .workerClaimedAt) (by decide)
  constructor
  · intro hpresent hnone change hchange
    have hclaim : ∀ change ∈ claimFields,
        change.1 ∈ Field.text .workerToken :: workerClaimFields := by decide
    rw [hsame _ (hclaim change hchange)]
    exact h.free (hclaimedAt ▸ hpresent) (htoken ▸ hnone) change hchange
  · intro hpresent hsome
    rw [hoperation]
    exact h.held (hclaimedAt ▸ hpresent) (htoken ▸ hsome)

theorem isPaired_pairWorkerOwnership (values : Values) : values.pairWorkerOwnership.IsPaired := by
  have htoken : values.pairWorkerOwnership.text .workerToken = values.text .workerToken := by
    unfold text get
    rw [agreeOff_pairWorkerOwnership _ (by decide)]
  constructor
  · intro hpresent hnone
    rw [htoken] at hnone
    unfold pairWorkerOwnership at hpresent ⊢
    split_ifs at hpresent ⊢ with habsent
    · rw [hpresent] at habsent
      cases habsent
    · exact holds_update values (by decide)
  · intro hpresent hsome
    rw [htoken] at hsome
    unfold pairWorkerOwnership at hpresent ⊢
    split_ifs at hpresent ⊢ with habsent hfree hopen
    · rw [hpresent] at habsent
      cases habsent
    · rw [hsome] at hfree
      cases hfree
    · unfold text get
      rw [set_self]
      rfl
    · exact Bool.eq_false_iff.mpr hopen

end Values

/-- A job as every update leaves it: its record is canonical, its worker claim is paired, and its
variant can be read. -/
structure AgentJob.Sound [TextLibrary] (job : AgentJob) : Prop where
  canonical : job.values.IsCanonical
  paired : job.values.IsPaired
  lifecycle : ∃ lifecycle, job.values.lifecycle = .ok lifecycle

namespace AgentJob

variable [TextLibrary] {job : AgentJob}

omit [TextLibrary] in
/-- The operations of a valid job pass the check of a transition in which they stay. -/
theorem validateOperationTransitions_self (job : AgentJob) :
    validateOperationTransitions job.values job.values = .ok () := by
  have hoperation := fun check (hcheck : check ∈ job.values.operationChecks) ↦
    job.operation_check hcheck
  simp only [Values.operationChecks, List.forall_mem_cons, parses_eq_ok_iff] at hoperation
  obtain ⟨⟨checkout, hcheckout⟩, ⟨agent, hagent⟩, ⟨pane, hpane⟩, ⟨fork, hfork⟩, -⟩ := hoperation
  unfold validateOperationTransitions
  rw [hcheckout, hagent, hpane, hfork]
  simp only [bind, Except.bind, validateOperation_self checkoutChange_self,
    validateOperation_self forkChange_self, validateOperation_self (agentSessionChange_self _),
    validateOperation_self participantPaneChange_self]

omit [TextLibrary] in
/-- The state machines of a valid job can be read. -/
theorem exists_states (job : AgentJob) :
    (∃ terminal, job.values.terminalState = .ok terminal) ∧
      (∃ workflow, job.values.workflowState = .ok workflow) ∧
      (∃ approval, job.values.planApproval = .ok approval) ∧
      ∃ lifecycle, job.values.participantLifecycle = .ok lifecycle := by
  have hadapter := fun check (hcheck : check ∈ job.values.adapterChecks) ↦ job.adapter_check hcheck
  simp only [Values.adapterChecks, List.forall_mem_cons, parses_eq_ok_iff] at hadapter
  obtain ⟨hterminal, -, -, hworkflow, -, happroval, hparticipants, -⟩ := hadapter
  exact ⟨hterminal, hworkflow, happroval, hparticipants⟩

theorem validateTransition_announced (h : job.Sound) {next : AgentJob} {state : DeliveryState}
    (hfits : state.Fits) (hvalues : next.values = announcedRecord job.values state)
    (hevent : next.lifecycleEvent = none) : validateTransition job next = .ok () := by
  have hvalid := validate_announcedRecord job.valid hfits
  obtain ⟨lifecycle, hlifecycle⟩ := h.lifecycle
  obtain ⟨hnext, hidentity⟩ : (announcedRecord job.values state).lifecycle = _ ∧ _ :=
    lifecycle_announcedRecord hlifecycle
  obtain ⟨⟨terminal, hterminal⟩, ⟨workflow, hworkflow⟩, ⟨approval, happroval⟩,
    participants, hparticipants⟩ := exists_states job
  obtain ⟨-, -, hinvariants⟩ := (Values.validate_eq_ok_iff _).mp hvalid
  rw [← hvalues] at hinvariants hnext
  -- everything but the fields of the delivery and the revision is as it was
  have hnextTerminal : next.values.terminalState = .ok terminal := hvalues ▸ hterminal
  have hnextWorkflow : next.values.workflowState = .ok workflow := hvalues ▸ hworkflow
  have hnextApproval : next.values.planApproval = .ok approval := hvalues ▸ happroval
  have hnextParticipants : next.values.participantLifecycle = .ok participants :=
    hvalues ▸ hparticipants
  have hoperations : validateOperationTransitions job.values next.values = .ok () :=
    hvalues ▸ validateOperationTransitions_self job
  have hidentities : runGuards (identityChangeGuards job.values next.values) = .ok () := by
    have hsame : ∀ {α : Type} [DecidableEq α] (value : α), decide (value ≠ value) = false :=
      fun value ↦ decide_eq_false (not_not.mpr rfl)
    rw [hvalues, runGuards_eq_ok_iff]
    simp only [identityChangeGuards, List.forall_mem_cons]
    exact ⟨hsame _, hsame _, hsame _, hsame _, hsame _, hsame _,
      fun _ hmem ↦ absurd hmem List.not_mem_nil⟩
  have hterminalChange : runGuards (terminalChangeGuards job.values next.values terminal terminal) =
      .ok () := by
    have hintent : next.values.terminalIntentStatus = job.values.terminalIntentStatus := hvalues ▸ rfl
    have hrevision : next.values.revision = job.values.revision + 1 := hvalues ▸ rfl
    have hinherited : ∀ inherited ∈ inheritedFields,
        job.values.text inherited.1 = next.values.text inherited.1 := by
      rw [hvalues]
      simp only [inheritedFields, List.forall_mem_cons]
      exact ⟨rfl, rfl, rfl, rfl, rfl, fun _ hmem ↦ absurd hmem List.not_mem_nil⟩
    rw [runGuards_eq_ok_iff]
    unfold terminalChangeGuards
    simp only [List.forall_mem_append, List.forall_mem_cons, List.forall_mem_map, List.not_mem_nil,
      false_imp_iff, implies_true, and_true]
    refine ⟨⟨⟨by simp [hintent], by cases terminal.isMaterialized <;> simp⟩, ?_⟩, by simp [hrevision]⟩
    intro inherited hmem
    simp [hinherited inherited hmem]
  have hstatusChange : runGuards (statusChangeGuards false job.values next.values terminal terminal) =
      .ok () := by
    have hstatus : next.values.status = job.values.status := hvalues ▸ rfl
    rw [runGuards_eq_ok_iff]
    simp [statusChangeGuards, hstatus]
  have hadmission : validateAdmission job.values next.values participants participants = .ok () := by
    simp [validateAdmission]
  have hheld : runGuards [(job.values.participantAdmissionState = .held &&
      next.values.participantAdmissionState = .released && !cleanupConfirmed next.values,
      "held participant capacity requires confirmed terminal cleanup")] = .ok () := by
    have hstate : next.values.participantAdmissionState = job.values.participantAdmissionState :=
      hvalues ▸ rfl
    rw [runGuards_eq_ok_iff, hstate]
    cases job.values.participantAdmissionState <;> simp
  have hdefault : defaultEvent job.values next.values = .ok
      { kind := .lifecycle
        expectedRevision := job.values.revision
        nextState := lifecycle.nextRevision } := by
    unfold defaultEvent
    rw [hnext]
    rfl
  have hevents : validateLifecycleEvent job.values next.values
      { kind := .lifecycle
        expectedRevision := job.values.revision
        nextState := lifecycle.nextRevision } = .ok () := by
    have happly := applyEvent_nextRevision lifecycle
    rw [hidentity] at happly
    unfold validateLifecycleEvent
    rw [hnext, hlifecycle]
    change (if lifecycle.nextRevision ≠ lifecycle.nextRevision then _ else
      parses (applyEvent lifecycle _)) = _
    rw [if_neg (not_not.mpr rfl)]
    exact parses_eq_ok_iff.mpr ⟨_, happly⟩
  unfold validateTransition
  simp only [hevent, Option.any_none, hidentities, hoperations, hterminal, hnextTerminal,
    hterminalChange, hstatusChange, hparticipants, hnextParticipants, hadmission,
    ParticipantCreation.validateTransition_self, happroval, hnextApproval,
    PlanApproval.validateTransition_self, hheld, hworkflow, hnextWorkflow, validateWorkflow_self,
    hinvariants, hdefault, hevents, bind, Except.bind]

/-- An update of a sound job that only moves its delivery is accepted. -/
theorem exists_updated_fields (h : job.Sound) {state : DeliveryState} (hfits : state.Fits) :
    ∃ next, job.updated state.fields = .ok next := by
  have hrecord : job.updatedRecord state.fields = announcedRecord job.values state := by
    have hpaired := h.paired.of_agreeOff
      (Values.AgreeOff.update (.refl Values.deliveryFields _) state.fields_subset) (by decide)
    unfold updatedRecord announcedRecord
    rw [hpaired.pairWorkerOwnership_eq, DeliveryState.update_fields]
  have hvalid := validate_announcedRecord job.valid hfits
  obtain ⟨next, hread, hvalues, hevent⟩ :=
    fromDict_of_canonical (isCanonical_announcedRecord h.canonical hfits) hvalid
  have htransition := validateTransition_announced h hfits hvalues hevent
  refine ⟨next, ?_⟩
  unfold updated
  rw [hrecord, hread]
  simp only [bind, Except.bind, htransition]

/-- A sound job whose delivery is open, with no live claim and no retry to wait for, is claimed. -/
theorem claimDelivery_ok (h : job.Sound) {token : String} {now : Time} (htoken : token ≠ "")
    (hopen : job.delivery.isDelivered = false) (hlive : job.claimIsLive now = false)
    (hretry : (job.values.float .deliveryRetryAt).getD 0 ≤ now) :
    ∃ next, job.claimDelivery token now deliveryClaimSeconds = .ok next := by
  have hstored := job.deliveryState_eq
  have hread : (∀ claimedAt ∈ job.delivery.claimedAt?,
        truthy (job.values.text .deliveryClaimToken) = true ∧
          job.values.float .deliveryClaimedAt = some claimedAt) ∧
      job.delivery.retryAt = (job.values.float .deliveryRetryAt).getD 0 := by
    generalize job.delivery = state at hstored hopen
    unfold Values.deliveryState loadDeliveryState at hstored
    split_ifs at hstored with hpaired hdelivered
    · cases hstored
      cases hopen
    · split at hstored
      next held claimedAt hheld hclaimedAt =>
        cases hstored
        rw [ne_eq, not_not, hclaimedAt] at hpaired
        refine ⟨fun other hother ↦ ?_, rfl⟩
        cases hother
        exact ⟨hpaired, hclaimedAt⟩
      next =>
        cases hstored
        exact ⟨fun _ hother ↦ (by cases hother), rfl⟩
  have hlease : ∀ claimedAt ∈ job.delivery.claimedAt?, ¬ now - claimedAt < deliveryClaimSeconds := by
    intro claimedAt hmem
    obtain ⟨hheld, hclaimedAt⟩ := hread.1 claimedAt hmem
    unfold claimIsLive Values.hasText at hlive
    simpa [hheld, hclaimedAt] using hlive
  have hclaim : job.delivery.claim token now deliveryClaimSeconds = _ :=
    DeliveryState.claim_eq hopen hlease (hread.2 ▸ hretry)
  have hfits : (DeliveryState.claimed job.delivery.generation token now job.delivery.retryAt
      (job.delivery.attempts + 1) job.delivery.announcement).Fits := by
    refine ⟨hopen.symm.trans job.isDelivered_delivery, fun other hother ↦ ?_⟩
    cases hother
    exact htoken
  obtain ⟨next, hnext⟩ := exists_updated_fields h hfits
  refine ⟨next, ?_⟩
  unfold claimDelivery
  rw [hstored]
  simp only [bind, Except.bind, hclaim]
  exact hnext

/-! ### Every update leaves a sound job -/

/-- A job that is read from a paired record is sound where its variant can be read. -/
theorem sound_of_fromDict {raw : Values} (hread : fromDict raw = .ok job) (hpaired : raw.IsPaired)
    (hlifecycle : ∃ lifecycle, job.values.lifecycle = .ok lifecycle) : job.Sound := by
  obtain ⟨values, hcanonical, heq⟩ := fromDict_ok hread
  refine ⟨isCanonical_of_fromDict hread, ?_, hlifecycle⟩
  rw [heq]
  exact hpaired.of_agreeOff (Values.agreeOff_canonicalise hcanonical) (by decide)

theorem sound_of_read {raw : Values} {updated next : AgentJob} (hread : fromDict raw = .ok updated)
    (hpaired : raw.IsPaired) (hvalues : next.values = updated.values)
    (htransition : validateTransition job next = .ok ()) : next.Sound := by
  obtain ⟨old, new, haccepted⟩ := validateTransition_accepted htransition
  obtain ⟨event, -, hevent⟩ := haccepted.event
  obtain ⟨lifecycle, hlifecycle, -⟩ := checked_bind_eq_ok_iff.mp hevent
  have hupdated := sound_of_fromDict hread hpaired ⟨lifecycle, hvalues ▸ hlifecycle⟩
  exact ⟨hvalues ▸ hupdated.canonical, hvalues ▸ hupdated.paired, lifecycle, hlifecycle⟩

omit [TextLibrary] in
theorem isPaired_updatedRecord (changes : List Change) : (job.updatedRecord changes).IsPaired :=
  (Values.isPaired_pairWorkerOwnership _).of_agreeOff
    (Values.AgreeOff.update (.refl Values.bookkeepingFields _) (by
      simp [Values.bookkeepingFields])) (by decide)

omit [TextLibrary] in
theorem isPaired_evolvedRecord (changes : List Change) (status : Option JobStatus)
    (remove : List Field) : (job.evolvedRecord changes status remove).IsPaired := by
  exact (Values.isPaired_pairWorkerOwnership _).of_agreeOff
    (agreeOff_evolvedRecord changes status remove) (by decide)

omit [TextLibrary] in
theorem isPaired_recoveredRecord (changes : List Change) (now : Time) (status : Option JobStatus)
    (remove : List Field) (prepareDelivery : Bool) :
    (job.recoveredRecord changes now status remove prepareDelivery).IsPaired := by
  exact (Values.isPaired_pairWorkerOwnership _).of_agreeOff
    (job.agreeOff_recoveredRecord changes now status remove prepareDelivery) (by decide)

theorem sound_of_updated {changes : List Change} {next : AgentJob}
    (h : job.updated changes = .ok next) : next.Sound := by
  obtain ⟨hread, htransition⟩ := updated_ok h
  exact sound_of_read hread (isPaired_updatedRecord changes) rfl htransition

theorem sound_of_evolve {changes : List Change} {status : Option JobStatus} {remove : List Field}
    {next : AgentJob} (h : job.evolve changes status remove = .ok next) : next.Sound := by
  obtain ⟨hread, htransition⟩ := evolve_ok h
  exact sound_of_read hread (isPaired_evolvedRecord _ _ _) rfl htransition

theorem sound_of_evolveRecovery {changes : List Change} {now : Time} {status : Option JobStatus}
    {remove : List Field} {prepareDelivery : Bool} {next : AgentJob}
    (h : job.evolveRecovery changes now status remove prepareDelivery = .ok next) : next.Sound := by
  obtain ⟨updated, hread, hvalues, htransition⟩ := evolveRecovery_ok h
  exact sound_of_read hread (isPaired_recoveredRecord _ _ _ _ _) hvalues htransition

/-- Every command that stores a job stores a sound one. -/
theorem sound_of_apply {command : DeliveryCommand} {next : AgentJob}
    (h : command.apply job = some next) : next.Sound := by
  have hfields : ∀ {check : Bool} {transition : Checked DeliveryState},
      answering check (do job.updated (← transition).fields) = some next → next.Sound := by
    intro check transition h
    obtain ⟨-, h⟩ := answering_eq_some_iff.mp h
    obtain ⟨state, -, h⟩ := checked_bind_eq_ok_iff.mp h
    exact sound_of_updated h
  have hstored := job.deliveryState_eq
  cases command with
  | claim token now foreground eligible =>
    simp only [DeliveryCommand.apply, claimDelivery, hstored] at h
    exact hfields h
  | renew token now =>
    simp only [DeliveryCommand.apply, renewDelivery, hstored] at h
    exact hfields h
  | acknowledge token now =>
    simp only [DeliveryCommand.apply, acknowledgeDelivery, hstored] at h
    exact hfields h
  | acknowledgeDesktop token now =>
    simp only [DeliveryCommand.apply, acknowledgeDesktopDelivery, hstored] at h
    exact hfields h
  | acknowledgeDeferred token now =>
    simp only [DeliveryCommand.apply, acknowledgeDeferredDelivery, hstored] at h
    exact hfields h
  | release token now retry =>
    simp only [DeliveryCommand.apply, releaseDelivery, hstored] at h
    exact hfields h
  | dismiss now =>
    simp only [DeliveryCommand.apply, dismissAnnouncement, hstored] at h
    exact hfields h
  | markDelivered deliveredAt status changes =>
    have h := checked_toOption_eq_some_iff.mp h
    obtain ⟨current, -, h⟩ := checked_bind_eq_ok_iff.mp h
    obtain ⟨state, -, h⟩ := checked_bind_eq_ok_iff.mp h
    exact sound_of_updated h
  | repeatAnnouncement now =>
    obtain ⟨-, h⟩ := answering_eq_some_iff.mp h
    obtain ⟨current, -, h⟩ := checked_bind_eq_ok_iff.mp h
    exact sound_of_updated h
  | prepare now status remove changes =>
    have h := checked_toOption_eq_some_iff.mp h
    obtain ⟨current, -, h⟩ := checked_bind_eq_ok_iff.mp h
    simp only at h
    split_ifs at h
    exact sound_of_evolve h
  | prepareRecovery changes now status remove =>
    exact sound_of_evolveRecovery (checked_toOption_eq_some_iff.mp h)

/-- A sound job takes every state of its delivery that fits. -/
theorem updated_fields (h : job.Sound) {state : DeliveryState} (hfits : state.Fits) :
    ∃ next, job.updated state.fields = .ok next ∧ next.delivery = state ∧ next.Sound := by
  obtain ⟨next, hupdated⟩ := exists_updated_fields h hfits
  have hdone : state.isDelivered = true → state.announcement.acknowledgement ≠ .pending := by
    intro hdelivered hpending
    have hfinal := hfits.final.symm.trans hdelivered
    rw [hpending] at hfinal
    cases hfinal
  exact ⟨next, hupdated, delivery_updated_fields hupdated hdone, sound_of_updated hupdated⟩

end AgentJob

end VoiceHarness
