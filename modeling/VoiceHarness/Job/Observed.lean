import VoiceHarness.Delivery.Progress
import VoiceHarness.Job.Overlay

/-!
# A record after an observation

An observation of an agent, a fork or a worktree writes its own fields, those of the agent it may
drop, the manual slot, the cleanup and the delivery. Every check of `from_dict` and of
`validate_transition` that reads none of these fields passes as it passed before; `Observed` states
what the other checks still need, and a record with these facts is a legal next record of the job.
-/

set_option autoImplicit false
set_option relaxedAutoImplicit false

namespace VoiceHarness

namespace Values

/-- The fields an observation may write. -/
def isObserved : Field → Bool
  | .operation .agentDispatchState | .operation .forkOperationState
  | .operation .worktreeProvisionState => true
  | .int .agentReconcileAttempts | .int .forkReconcileAttempts | .int .worktreeReconcileAttempts
  | .int .agentAbsentObservations | .int .forkAbsentObservations
  | .int .worktreeAbsentObservations => true
  | .float .agentLastReconciledAt | .float .forkLastReconciledAt
  | .float .worktreeLastReconciledAt | .float .agentNextReconcileAt | .float .forkNextReconcileAt
  | .float .worktreeNextReconcileAt | .float .agentConfirmedAbsentAt
  | .float .forkConfirmedAbsentAt | .float .worktreeConfirmedAbsentAt
  | .float .agentAutomaticReconcileStoppedAt | .float .forkAutomaticReconcileStoppedAt
  | .float .worktreeAutomaticReconcileStoppedAt => true
  | .text .worktreeWorkspaceId | .text .worktreeRootPaneId => true
  | .text .agentOperationTarget | .text .agentOperationCheckout
  | .text .agentOperationWorkspaceId | .text .agentOperationPaneId | .text .agentProvider
  | .text .agentProviderSessionId | .int .agentStateSequence => true
  | .text .herdrTarget | .text .sessionId | .text .herdrPaneId | .text .herdrWorkspaceId
  | .text .agentName | .text .plannerTarget | .text .reviewerTarget | .text .implementerTarget
  | .participant .activeParticipant | .bool .agentDispatchExited => true
  | .text .manualReconcileOperation | .text .manualReconcileToken
  | .float .manualReconcileRequiredAt | .text .workerOperation => true
  | .bool .targetReleasePending | .bool .cancellationReconciliationPending
  | .text .targetReleaseToken | .int .targetReleaseOwnerPid | .text .targetReleaseOwnerBootId
  | .text .targetReleaseOwnerStart => true
  | .int .deliveryGeneration | .int .deliveryAttempts | .announcementAck
  | .bool .announcementRepeated | .text .deliveryClaimToken | .float .deliveryClaimedAt
  | .float .deliveryRetryAt | .bool .delivered | .float .deliveredAt | .float .updatedAt => true
  | .text .reconciliationBaseError | .bool .phasePromptActive => true
  | .int .schemaVersion | .int .revision => true
  | _ => false

/-- The second record holds what the first one does outside the observed fields. -/
def KeepsUnobserved (values next : Values) : Prop :=
  ∀ field, isObserved field = false → next field = values field

/-- The observed fields of the second record over the first one. -/
def observedOver (values next : Values) (h : values.KeepsUnobserved next) : Values where
  cells field := if isObserved field = true then next field else values field
  others := next.others
  absent_of_notMem := by
    intro name hname
    have hkept := h (.other name) rfl
    exact hkept.symm.trans (next.absent_of_notMem name hname)

theorem eq_observedOver {values next : Values} (h : values.KeepsUnobserved next) :
    next = values.observedOver next h := by
  refine ext_cells (funext fun field ↦ ?_) rfl
  change next field = if isObserved field = true then next field else values field
  cases hfield : isObserved field with
  | true => rw [if_pos rfl]
  | false => rw [if_neg Bool.false_ne_true, h field hfield]

/-- What the checks that read an observed field ask of the next record. -/
structure Observed (values next : Values) : Prop where
  kept : values.KeepsUnobserved next
  schemaVersion : next (.int .schemaVersion) = .val currentSchemaVersion
  revision : next (.int .revision) = .val (values.revision + 1)
  operations : validateOperationTransitions values next = .ok ()
  fences : ∀ guard ∈ next.operationFenceGuards, guard.1 = false
  slot : ∀ guard ∈ next.manualGuards, guard.1 = false
  release : ∀ guard ∈ next.releaseGuards, guard.1 = false
  cleanup : ∃ state, next.cleanupState = .ok state
  pending : next.bool .targetReleasePending = values.bool .targetReleasePending
  delivery : ∃ state, next.deliveryState = .ok state
  delivered : ∀ guard ∈ next.deliveryGuards, guard.1 = false
  participant : ∀ participant ∈ next.activeParticipant,
    truthy (next.participantTarget participant) = true ∧
      next.participantTarget participant = next.text .herdrTarget
  active : next.activeParticipant.isSome = true → values.activeParticipant.isSome = true
  workspace : next.text .worktreeWorkspaceId = values.text .worktreeWorkspaceId
  rootPane : next.text .worktreeRootPaneId = values.text .worktreeRootPaneId
  target : (next.text .sessionId).isSome → (next (.text .herdrTarget)).isPresent
  session : (next.text .herdrTarget).isSome → (next (.text .sessionId)).isPresent
  acknowledged : ∃ ack, next .announcementAck = .val ack ∧
    ¬ (next.bool .delivered = true ∧ ack = .pending)
  answered : (next (.bool .delivered)).isPresent = true

variable {values next : Values}

namespace Observed

theorem presenceGuards (h : values.Observed next)
    (hvalues : ∀ guard ∈ values.presenceGuards, guard.1 = false) :
    ∀ guard ∈ next.presenceGuards, guard.1 = false := by
  have hrevision : (next.int .revision).isNone = false := by
    unfold int get
    rw [h.revision]
    rfl
  have hanswered : (!(next (.bool .delivered)).isPresent) = false := by rw [h.answered]; rfl
  rw [eq_observedOver h.kept] at hrevision hanswered ⊢
  unfold Values.presenceGuards at hvalues ⊢
  simp only [List.forall_mem_cons] at hvalues ⊢
  obtain ⟨hid, hparent, hself, hstatus, hkind, hprovider, -, hrequest, hcreated, -, hrest⟩ := hvalues
  exact ⟨hid, hparent, hself, hstatus, hkind, hprovider, hrevision, hrequest, hcreated, hanswered,
    hrest⟩

theorem invariantGuards (h : values.Observed next)
    (hvalues : ∀ guard ∈ values.invariantGuards, guard.1 = false) :
    ∀ guard ∈ next.invariantGuards, guard.1 = false := by
  have hfences := h.fences
  have hslot := h.slot
  have hdelivered := h.delivered
  have hrevision : next.revision = values.revision + 1 := by
    unfold Values.revision count int get
    rw [h.revision]
    rfl
  have hpending := h.pending
  have hactive := h.active
  have hparticipant : (next.activeParticipant.any fun participant ↦
      !truthy (next.participantTarget participant) ||
        next.participantTarget participant ≠ next.text .herdrTarget) = false := by
    rw [Option.any_eq_false]
    intro participant hmem
    obtain ⟨htarget, hsame⟩ := h.participant participant hmem
    simp [hsame, hsame ▸ htarget]
  rw [eq_observedOver h.kept] at hfences hslot hdelivered hrevision hpending hactive hparticipant ⊢
  unfold Values.invariantGuards at hvalues ⊢
  simp only [List.forall_mem_append] at hvalues ⊢
  obtain ⟨⟨⟨⟨⟨⟨⟨⟨⟨⟨hgithub, hlinear⟩, hsplit⟩, hissue⟩, hworker⟩, -⟩, hworkflow⟩, hplan⟩, hprompt⟩,
    -⟩, -⟩ := hvalues
  refine ⟨⟨⟨⟨⟨⟨⟨⟨⟨⟨hgithub, hlinear⟩, hsplit⟩, hissue⟩, ?_⟩, hdelivered⟩, hworkflow⟩, ?_⟩, ?_⟩,
    hfences⟩, hslot⟩
  · unfold workerGuards at hworker ⊢
    simp only [List.forall_mem_cons] at hworker ⊢
    obtain ⟨hnegative, hrest⟩ := hworker
    refine ⟨decide_eq_false ?_, hrest⟩
    have hstored : 0 ≤ values.revision := Int.not_lt.mp (of_decide_eq_false hnegative)
    rw [hrevision]
    omega
  · unfold planApprovalGuards at hplan ⊢
    simp only [List.forall_mem_cons] at hplan ⊢
    obtain ⟨hproof, hinactive, hboundary, hawaiting, haccepted, hrejected, hcounted, hcompletion,
      hrest⟩ := hplan
    refine ⟨hproof, hinactive, hboundary, hawaiting, haccepted, hrejected, hcounted, ?_, hrest⟩
    simp only [Bool.and_eq_false_iff, Bool.or_eq_false_iff] at hcompletion ⊢
    rcases hcompletion with hflag | ⟨⟨hfinished, hnone⟩, hprompt⟩
    · exact .inl hflag
    · refine .inr ⟨⟨hfinished, Bool.eq_false_iff.mpr fun hsome ↦ ?_⟩, hprompt⟩
      rw [hactive hsome] at hnone
      cases hnone
  · unfold promptAndPaneGuards at hprompt ⊢
    simp only [List.forall_mem_cons] at hprompt ⊢
    obtain ⟨-, hlabel, hcreation, hdurable, hbaseline, hrole, hcreated, hintent, hrest⟩ := hprompt
    refine ⟨hparticipant, hlabel, hcreation, hdurable, hbaseline, hrole, hcreated, ?_, hrest⟩
    rw [hpending]
    exact hintent

theorem validate (h : values.Observed next) (hvalid : values.validate = .ok ()) :
    next.validate = .ok () := by
  rw [validate_eq_ok_iff] at hvalid ⊢
  obtain ⟨hpresence, hprompt, hinvariants⟩ := hvalid
  rw [validateInvariants_eq_ok_iff] at hinvariants ⊢
  obtain ⟨hadapters, hguards, -, -⟩ := hinvariants
  have hchecks : ∀ check ∈ next.operationChecks, check = .ok () := by
    have hoperations := h.operations
    unfold validateOperationTransitions at hoperations
    simp only [checked_bind_eq_ok_iff] at hoperations
    obtain ⟨-, -, checkout, hcheckout, -, -, -, -, fork, hfork, -, -, -, -, agent, hagent, -, -, -, -,
      pane, hpane, -⟩ := hoperations
    simp only [operationChecks, List.forall_mem_cons, parses_eq_ok_iff]
    exact ⟨⟨_, hcheckout⟩, ⟨_, hagent⟩, ⟨_, hpane⟩, ⟨_, hfork⟩, fun _ hmem ↦ absurd hmem List.not_mem_nil⟩
  refine ⟨h.presenceGuards hpresence, ?_, ?_, h.invariantGuards hguards, hchecks, h.release⟩
  · rw [eq_observedOver h.kept]
    exact hprompt
  · have hcleanup := h.cleanup
    have hdelivery := h.delivery
    simp only [operationChecks, List.forall_mem_cons, parses_eq_ok_iff] at hchecks
    obtain ⟨-, hagent, hpane, -⟩ := hchecks
    have hoptional : ∀ {condition : Bool} {α : Type} {value : Checked α}, (∃ parsed, value = .ok parsed) →
        (if condition then parses value else .ok ()) = .ok () := by
      intro condition α value hvalue
      cases condition
      · rfl
      · exact parses_eq_ok_iff.mpr hvalue
    rw [eq_observedOver h.kept] at hcleanup hdelivery hagent hpane ⊢
    unfold adapterChecks at hadapters ⊢
    simp only [List.forall_mem_cons] at hadapters ⊢
    obtain ⟨hterminal, -, -, hworkflow, hreview, happroval, hparticipants, hworker, -⟩ := hadapters
    exact ⟨hterminal, parses_eq_ok_iff.mpr hcleanup, parses_eq_ok_iff.mpr hdelivery, hworkflow, hreview,
      happroval, hparticipants, hworker, hoptional hagent, hoptional hpane,
      fun _ hmem ↦ absurd hmem List.not_mem_nil⟩

theorem isCanonical [TextLibrary] (h : values.Observed next) (hvalues : values.IsCanonical) :
    next.IsCanonical := by
  have hdefaulted : ∀ field ∈ defaultedFields, isObserved field = false := by decide
  have hdropped : ∀ field ∈ droppedFields, isObserved field = false := by decide
  constructor
  · exact h.target
  · exact h.session
  · intro field hfield
    rw [h.kept field (hdefaulted field hfield)]
    exact hvalues.present field hfield
  · intro field hfield
    rw [h.kept field (hdropped field hfield)]
    exact hvalues.absent field hfield
  · exact h.acknowledged
  · rw [eq_observedOver h.kept]
    exact ⟨hvalues.issue.url, hvalues.issue.repositories, hvalues.issue.numbers⟩
  · exact h.schemaVersion

/-- A staged outcome is read with a cleanup that is still pending. -/
theorem cleanup_of_pending {pending : Bool} {token : Option String} {pid : Option ℤ}
    {bootId start : Option String} {reconciling : Bool} {state : CleanupState}
    (h : loadCleanupState pending token pid bootId start reconciling = .ok state) :
    pending = true ↔ state ≠ .settled ∧ state ≠ .reconciling := by
  unfold loadCleanupState at h
  cases pending with
  | true =>
    rw [if_pos rfl] at h
    refine iff_of_true rfl ?_
    split at h
    · cases h
      simp
    · split_ifs at h
      cases h
      simp
    · cases h
  | false =>
    rw [if_neg Bool.false_ne_true] at h
    refine iff_of_false Bool.false_ne_true fun ⟨hsettled, hreconciling⟩ ↦ ?_
    split_ifs at h
    · cases h
      exact hreconciling rfl
    · cases h
      exact hsettled rfl

/-- A recovery moves a variant to the next revision. -/
theorem applyEvent_recovery (before : JobLifecycle) :
    applyEvent before
      { kind := .recovery
        expectedRevision := before.identity.revision
        nextState := before.nextRevision } = .ok before.nextRevision := by
  cases before <;>
    simp [applyEvent, applyEvent.staleWorker, JobLifecycle.identity, JobLifecycle.nextRevision,
      JobLifecycle.state]

/-- The variant of the next record is one a recovery reaches from the variant of the job. -/
theorem lifecycle (h : values.Observed next) {before : JobLifecycle}
    (hbefore : values.lifecycle = .ok before) :
    ∃ after, next.lifecycle = .ok after ∧
      applyEvent before
        { kind := .recovery, expectedRevision := values.revision, nextState := after } = .ok after := by
  obtain ⟨state, hcleanup⟩ := h.cleanup
  have hpending : values.bool .targetReleasePending = true ↔ state ≠ .settled ∧ state ≠ .reconciling := by
    rw [← h.pending]
    exact cleanup_of_pending hcleanup
  have hrevision : next.revision = values.revision + 1 := by
    unfold Values.revision count int get
    rw [h.revision]
    rfl
  have hidentity : next.identity = values.identity.nextRevision := by
    rw [eq_observedOver h.kept] at hrevision ⊢
    unfold Values.identity JobIdentity.nextRevision
    rw [hrevision]
    rfl
  have hworker : next.workerOwnership = values.workerOwnership := by rw [eq_observedOver h.kept]; rfl
  have hworkflow : next.workflowState = values.workflowState := by rw [eq_observedOver h.kept]; rfl
  have hprompt : next.promptOperation = values.promptOperation := by rw [eq_observedOver h.kept]; rfl
  have hstatus : next.status = values.status := by rw [eq_observedOver h.kept]; rfl
  have hquestion : next.textOrEmpty .question = values.textOrEmpty .question := by
    rw [eq_observedOver h.kept]; rfl
  have hresult : next.textOrEmpty .result = values.textOrEmpty .result := by
    rw [eq_observedOver h.kept]; rfl
  have hqueued : next.float .queuedAt = values.float .queuedAt := by rw [eq_observedOver h.kept]; rfl
  have hcompleted : next.float .completedAt = values.float .completedAt := by
    rw [eq_observedOver h.kept]; rfl
  have hterminal : next.terminalState = values.terminalState := by rw [eq_observedOver h.kept]; rfl
  -- outside a reconciling job the variant is the same one at the next revision
  have hsame : before.identity = values.identity → next.lifecycle = .ok before.nextRevision →
      ∃ after, next.lifecycle = .ok after ∧ applyEvent before
        { kind := .recovery, expectedRevision := values.revision, nextState := after } = .ok after := by
    intro hbound hnext
    have happly := applyEvent_recovery before
    rw [hbound] at happly
    exact ⟨_, hnext, happly⟩
  unfold Values.lifecycle at hbefore hsame ⊢
  simp only [hidentity, hworker, hworkflow, hprompt, hstatus, hquestion, hresult, hqueued, hcompleted,
    hterminal, hcleanup] at hsame ⊢
  obtain ⟨_, hguards, hbefore⟩ := checked_bind_eq_ok_iff.mp hbefore
  obtain ⟨worker, hreadWorker, hbefore⟩ := checked_bind_eq_ok_iff.mp hbefore
  obtain ⟨workflow, hreadWorkflow, hbefore⟩ := checked_bind_eq_ok_iff.mp hbefore
  have hnext : runGuards values.identity.nextRevision.guards = .ok () := by
    rw [runGuards_eq_ok_iff] at hguards ⊢
    unfold JobIdentity.guards at hguards ⊢
    simp only [List.forall_mem_cons] at hguards ⊢
    obtain ⟨hid, hparent, hprovider, hnegative, -⟩ := hguards
    refine ⟨hid, hparent, hprovider, ?_, fun _ hmem ↦ absurd hmem List.not_mem_nil⟩
    have hstored : 0 ≤ values.identity.revision := Int.not_lt.mp (of_decide_eq_false hnegative)
    refine decide_eq_false (Int.not_lt.mpr ?_)
    change 0 ≤ values.identity.revision + 1
    omega
  rw [hnext, hreadWorker, hreadWorkflow] at hsame ⊢
  simp only [bind, Except.bind] at hbefore hsame ⊢
  cases hstate : values.status with
  | queued =>
    simp only [hstate] at hbefore hsame ⊢
    rcases hqueued : values.float .queuedAt with _ | queuedAt
    · rw [hqueued] at hbefore
      cases hbefore
    · rw [hqueued] at hbefore hsame
      cases hbefore
      exact hsame rfl rfl
  | routing | running =>
    simp only [hstate] at hbefore hsame ⊢
    rcases worker with _ | worker
    · cases hbefore
    · cases hbefore
      exact hsame rfl rfl
  | awaitingUser =>
    simp only [hstate] at hbefore hsame ⊢
    split_ifs at hbefore hsame ⊢
    cases hbefore
    exact hsame rfl rfl
  | blocked =>
    simp only [hstate] at hbefore hsame ⊢
    rcases hcompleted : values.float .completedAt with _ | blockedAt
    · rw [hcompleted] at hbefore
      cases hbefore
    · rw [hcompleted] at hbefore hsame
      simp only at hbefore hsame ⊢
      split_ifs at hbefore hsame ⊢
      cases hbefore
      exact hsame rfl rfl
  | completed | failed | cancelled =>
    simp only [hstate] at hbefore hsame ⊢
    rcases hterminal : values.terminalState with message | terminal
    · rw [hterminal] at hbefore
      cases hbefore
    · rw [hterminal] at hbefore hsame
      cases terminal with
      | materialized outcome =>
        cases hbefore
        exact hsame rfl rfl
      | «open» => cases hbefore
      | intent outcome => cases hbefore
  | reconciling =>
    simp only [hstate] at hbefore ⊢
    rcases hcleaning : values.cleanupState with message | cleanup
    · rw [hcleaning] at hbefore
      cases hbefore
    · have hstored := cleanup_of_pending hcleaning
      rw [hcleaning] at hbefore
      rcases hterminal : values.terminalState with message | terminal
      · rw [hterminal] at hbefore
        cases hbefore
      · rw [hterminal] at hbefore
        -- with a staged outcome the cleanup is pending before and after
        have hreached : ∀ {intent : Option TerminalOutcome},
            before = .reconciling values.identity
              { prompt := values.promptOperation.toOption, workflow } cleanup intent worker →
            ∃ after, Except.ok (.reconciling values.identity.nextRevision
                { prompt := values.promptOperation.toOption, workflow } state intent worker) =
              (.ok after : Checked JobLifecycle) ∧
              applyEvent before { kind := .recovery, expectedRevision := values.revision, nextState := after } =
                .ok after := by
          rintro intent rfl
          refine ⟨_, rfl, ?_⟩
          simp [applyEvent, applyEvent.staleWorker, JobLifecycle.identity, JobLifecycle.state,
            Values.identity]
        cases terminal with
        | intent outcome =>
          have hfenced : cleanup ≠ .settled ∧ cleanup ≠ .reconciling := by
            constructor <;>
              · rintro rfl
                cases hbefore
          obtain ⟨hsettled, hreconciling⟩ := hpending.mp (hstored.mpr hfenced)
          cases state with
          | settled => exact absurd rfl hsettled
          | reconciling => exact absurd rfl hreconciling
          | pending | owned =>
            cases cleanup with
            | settled => exact absurd rfl hfenced.1
            | reconciling => exact absurd rfl hfenced.2
            | pending | owned =>
              cases hbefore
              exact hreached rfl
        | «open» | materialized =>
          cases hbefore
          exact hreached rfl

end Observed

end Values

namespace AgentJob

variable [TextLibrary] {job : AgentJob}

/-- A record with the facts of an observation is a legal recovery of a sound job. -/
theorem validateTransition_observed (h : job.Sound) {next : AgentJob}
    (hobserved : job.values.Observed next.values) {after : JobLifecycle}
    (hafter : next.values.lifecycle = .ok after)
    (hevent : next.lifecycleEvent = some
      { kind := .recovery, expectedRevision := job.values.revision, nextState := after }) :
    validateTransition job next = .ok () := by
  have hvalid := hobserved.validate job.valid
  obtain ⟨before, hbefore⟩ := h.lifecycle
  obtain ⟨other, hother, happly⟩ := hobserved.lifecycle hbefore
  obtain rfl : after = other := Except.ok.inj (hafter.symm.trans hother)
  obtain ⟨⟨terminal, hterminal⟩, ⟨workflow, hworkflow⟩, ⟨approval, happroval⟩,
    participants, hparticipants⟩ := exists_states job
  obtain ⟨-, -, hinvariants⟩ := (Values.validate_eq_ok_iff _).mp hvalid
  have hover := Values.eq_observedOver hobserved.kept
  have hnextTerminal : next.values.terminalState = .ok terminal := by rw [hover]; exact hterminal
  have hnextWorkflow : next.values.workflowState = .ok workflow := by rw [hover]; exact hworkflow
  have hnextApproval : next.values.planApproval = .ok approval := by rw [hover]; exact happroval
  have hnextParticipants : next.values.participantLifecycle = .ok participants := by
    rw [hover]
    exact hparticipants
  have hidentities : runGuards (identityChangeGuards job.values next.values) = .ok () := by
    have hsame : ∀ {α : Type} [DecidableEq α] (value : α), decide (value ≠ value) = false :=
      fun value ↦ decide_eq_false (not_not.mpr rfl)
    rw [hover, runGuards_eq_ok_iff]
    simp only [identityChangeGuards, List.forall_mem_cons]
    exact ⟨hsame _, hsame _, hsame _, hsame _, hsame _, hsame _,
      fun _ hmem ↦ absurd hmem List.not_mem_nil⟩
  have hterminalChange : runGuards (terminalChangeGuards job.values next.values terminal terminal) =
      .ok () := by
    have hintent : next.values.terminalIntentStatus = job.values.terminalIntentStatus := by
      rw [hover]
      rfl
    have hrevision : next.values.revision = job.values.revision + 1 := by
      unfold Values.revision Values.count Values.int Values.get
      rw [hobserved.revision]
      rfl
    have hinherited : ∀ inherited ∈ inheritedFields,
        job.values.text inherited.1 = next.values.text inherited.1 := by
      have hworkspace := hobserved.workspace.symm
      have hroot := hobserved.rootPane.symm
      rw [hover] at hworkspace hroot ⊢
      simp only [inheritedFields, List.forall_mem_cons]
      exact ⟨rfl, rfl, rfl, hworkspace, hroot, fun _ hmem ↦ absurd hmem List.not_mem_nil⟩
    rw [runGuards_eq_ok_iff]
    unfold terminalChangeGuards
    simp only [List.forall_mem_append, List.forall_mem_cons, List.forall_mem_map, List.not_mem_nil,
      false_imp_iff, implies_true, and_true]
    refine ⟨⟨⟨by simp [hintent], by cases terminal.isMaterialized <;> simp⟩, ?_⟩, by simp [hrevision]⟩
    intro inherited hmem
    simp [hinherited inherited hmem]
  have hstatusChange : runGuards (statusChangeGuards true job.values next.values terminal terminal) =
      .ok () := by
    rw [runGuards_eq_ok_iff]
    simp [statusChangeGuards]
  have hadmission : validateAdmission job.values next.values participants participants = .ok () := by
    simp [validateAdmission]
  have hheld : runGuards [(job.values.participantAdmissionState = .held &&
      next.values.participantAdmissionState = .released && !cleanupConfirmed next.values,
      "held participant capacity requires confirmed terminal cleanup")] = .ok () := by
    have hstate : next.values.participantAdmissionState = job.values.participantAdmissionState := by
      rw [hover]
      rfl
    rw [runGuards_eq_ok_iff, hstate]
    cases job.values.participantAdmissionState <;> simp
  have hevents : validateLifecycleEvent job.values next.values
      { kind := .recovery, expectedRevision := job.values.revision, nextState := after } = .ok () := by
    unfold validateLifecycleEvent
    rw [hafter, hbefore]
    change (if after ≠ after then _ else parses (applyEvent before _)) = _
    rw [if_neg (not_not.mpr rfl)]
    exact parses_eq_ok_iff.mpr ⟨_, happly⟩
  unfold validateTransition
  simp only [hevent, Option.any_some, decide_true, hidentities, hobserved.operations, hterminal,
    hnextTerminal, hterminalChange, hstatusChange, hparticipants, hnextParticipants, hadmission,
    ParticipantCreation.validateTransition_self, happroval, hnextApproval,
    PlanApproval.validateTransition_self, hheld, hworkflow, hnextWorkflow, validateWorkflow_self,
    hinvariants, hevents, bind, Except.bind]

/-- A recovery whose record has the facts of an observation is not refused, and keeps that record. -/
theorem evolveRecovery_observed (h : job.Sound) {changes : List Change} {now : Time}
    {prepareDelivery : Bool}
    (hobserved : job.values.Observed (job.recoveredRecord changes now none [] prepareDelivery)) :
    ∃ next, job.evolveRecovery changes now none [] prepareDelivery = .ok next ∧
      next.values = job.recoveredRecord changes now none [] prepareDelivery := by
  obtain ⟨updated, hread, hvalues, -⟩ :=
    fromDict_of_canonical (hobserved.isCanonical h.canonical) (hobserved.validate job.valid)
  obtain ⟨before, hbefore⟩ := h.lifecycle
  obtain ⟨after, hafter, -⟩ := hobserved.lifecycle hbefore
  rw [← hvalues] at hobserved hafter
  let event : JobEvent :=
    { kind := .recovery, expectedRevision := job.values.revision, nextState := after }
  let next : AgentJob := { updated with lifecycleEvent := some event }
  have htransition : validateTransition job next = .ok () :=
    validateTransition_observed h hobserved hafter rfl
  refine ⟨next, ?_, hvalues⟩
  unfold evolveRecovery
  refine checked_bind_eq_ok_iff.mpr ⟨updated, hread, checked_bind_eq_ok_iff.mpr ⟨after, hafter, ?_⟩⟩
  exact checked_bind_eq_ok_iff.mpr ⟨(), htransition, rfl⟩

end AgentJob

end VoiceHarness
