import VoiceHarness.Job.Observed
import VoiceHarness.Job.Manual

/-!
# How an observed operation leaves its uncertain states

An operation that was observed often enough is confirmed absent or handed to the operator. Its typed
operation moves along an edge of its state machine, the other operations stay, and a cleanup that
waited for the observation goes on.
-/

set_option autoImplicit false
set_option relaxedAutoImplicit false

namespace VoiceHarness

/-! ### The operations of the next record -/

namespace CheckoutOperation

/-- A checkout that moves to a state that is not settled keeps everything else. -/
def movedTo (operation : CheckoutOperation) (state : CheckoutState) (h : state.isSettled = false) :
    CheckoutOperation :=
  { operation with
    state
    settled := fun hsettled ↦ absurd (h.symm.trans hsettled) Bool.false_ne_true }

theorem transition_movedTo {operation : CheckoutOperation} {state : CheckoutState}
    (h : state.isSettled = false) (hlegal : state ∈ operation.state.transitions) :
    operation.transition state = .ok (operation.movedTo state h) ∧
      operation.transition state operation.workspaceId operation.rootPaneId =
        .ok (operation.movedTo state h) := by
  have hmake : make state operation.spec operation.workspaceId operation.rootPaneId =
      .ok (operation.movedTo state h) := by
    rw [make, dif_pos operation.paired,
      dif_pos fun hsettled ↦ absurd (h.symm.trans hsettled) Bool.false_ne_true]
    rfl
  have hkeep : ∀ text : Option String, (if truthy text then text else text) = text := fun text ↦ ite_self _
  constructor
  · rw [transition, if_neg fun hillegal ↦ hillegal.2 hlegal]
    exact hmake
  · rw [transition, if_neg fun hillegal ↦ hillegal.2 hlegal, hkeep, hkeep, hmake]

theorem checkoutChange_movedTo {operation : CheckoutOperation} {state : CheckoutState}
    (h : state.isSettled = false) (hlegal : state ∈ operation.state.transitions) :
    checkoutChange operation (operation.movedTo state h) = .ok () := by
  have hmoved : parses (operation.transition state operation.workspaceId operation.rootPaneId) = .ok () :=
    parses_eq_ok_iff.mpr ⟨_, (transition_movedTo h hlegal).2⟩
  have hspec : (operation.movedTo state h).spec = operation.spec := rfl
  unfold checkoutChange
  rw [hspec, if_neg (not_not.mpr rfl)]
  split_ifs
  · exact hmoved
  · rfl

end CheckoutOperation

namespace AgentSessionOperation

/-- An agent session that moves to a state that is not settled keeps everything else. -/
def movedTo (operation : AgentSessionOperation) (state : AgentSessionState)
    (h : state.isSettled = false) : AgentSessionOperation :=
  { operation with
    state
    settled := fun hsettled ↦ absurd (h.symm.trans hsettled) Bool.false_ne_true }

theorem make_movedTo {operation : AgentSessionOperation} {state : AgentSessionState}
    (h : state.isSettled = false) :
    make state operation.spec operation.session = .ok (operation.movedTo state h) := by
  obtain ⟨before, spec, session, hsame, hsettled⟩ := operation
  cases session with
  | none =>
    change make state spec none = _
    rw [make, dif_pos fun hsettled ↦ absurd (h.symm.trans hsettled) Bool.false_ne_true]
    rfl
  | some session =>
    change make state spec (some session) = _
    rw [make, dif_pos (hsame session rfl)]
    rfl

theorem transition_movedTo {operation : AgentSessionOperation} {state : AgentSessionState}
    (h : state.isSettled = false) (hlegal : state ∈ operation.state.transitions) :
    operation.transition state = .ok (operation.movedTo state h) ∧
      operation.transition state operation.session = .ok (operation.movedTo state h) := by
  have hor : operation.session.or operation.session = operation.session := by
    cases operation.session <;> rfl
  constructor
  · rw [transition, if_neg fun hillegal ↦ hillegal.2 hlegal]
    exact make_movedTo h
  · rw [transition, if_neg fun hillegal ↦ hillegal.2 hlegal, hor]
    exact make_movedTo h

theorem agentSessionChange_movedTo {operation : AgentSessionOperation} {state : AgentSessionState}
    (owners : List SessionOwner) (h : state.isSettled = false)
    (hlegal : state ∈ operation.state.transitions) :
    agentSessionChange owners operation (operation.movedTo state h) = .ok () := by
  have hmoved : parses (operation.transition state operation.session) = .ok () :=
    parses_eq_ok_iff.mpr ⟨_, (transition_movedTo h hlegal).2⟩
  have hsession : (operation.movedTo state h).session = operation.session := rfl
  have hstate : (operation.movedTo state h).state = state := rfl
  have hspec : (operation.movedTo state h).spec = operation.spec := rfl
  unfold agentSessionChange
  simp only [hspec, hsession, hstate, hmoved]
  rcases hstored : operation.session with _ | session
  · simp [bind, Except.bind]
  · simp [hstored, acceptsObservation, SessionIdentity.accepts, bind, Except.bind]

end AgentSessionOperation

namespace Values

variable {values next : Values}

theorem checkoutOperation_congr (h : ∀ field ∈ checkoutNames, next field = values field) :
    next.checkoutOperation = values.checkoutOperation := by
  have hget : ∀ field ∈ checkoutNames, next.get field = values.get field := by
    intro field hfield
    unfold get
    rw [h field hfield]
  unfold checkoutOperation operation textOrEmpty text
  simp only [hget (.operation .worktreeProvisionState) (by decide), hget (.text .repository) (by decide),
    hget (.text .worktreeBranch) (by decide), hget (.text .worktreePath) (by decide),
    hget (.text .worktreeWorkspaceId) (by decide), hget (.text .worktreeRootPaneId) (by decide)]

/-- The fields an agent session is read from. -/
def agentNames : List Field :=
  sessionNames ++ [.text .herdrTarget, .text .worktreePath, .text .repository, .text .herdrWorkspaceId,
    .text .herdrPaneId]

theorem agentSessionOperation_congr (h : ∀ field ∈ agentNames, next field = values field) :
    next.agentSessionOperation = values.agentSessionOperation := by
  have hget : ∀ field ∈ agentNames, next.get field = values.get field := by
    intro field hfield
    unfold get
    rw [h field hfield]
  unfold agentSessionOperation sessionIdentity operation text int
  simp only [hget (.operation .agentDispatchState) (by decide),
    hget (.text .agentOperationTarget) (by decide), hget (.text .agentOperationCheckout) (by decide),
    hget (.text .agentOperationWorkspaceId) (by decide), hget (.text .agentOperationPaneId) (by decide),
    hget (.text .agentProvider) (by decide), hget (.text .agentProviderSessionId) (by decide),
    hget (.int .agentStateSequence) (by decide), hget (.text .herdrTarget) (by decide),
    hget (.text .worktreePath) (by decide), hget (.text .repository) (by decide),
    hget (.text .herdrWorkspaceId) (by decide), hget (.text .herdrPaneId) (by decide)]

/-- A fork is read as before where its label is. -/
theorem forkOperation_congr (hkept : values.KeepsUnobserved next)
    (hlabel : next.operation .forkOperationState = values.operation .forkOperationState) :
    next.forkOperation = values.forkOperation := by
  rw [eq_observedOver hkept] at hlabel ⊢
  unfold forkOperation
  rw [hlabel]
  rfl

/-- A fork whose label names another state is read in that state. -/
theorem forkOperation_of_label (hkept : values.KeepsUnobserved next) {operation : ForkOperation}
    (h : values.forkOperation = .ok (some operation)) {label : OperationLabel} {state : OperationState}
    (hlabel : next.operation .forkOperationState = some label)
    (hstate : forkOperationState? label = some state) :
    next.forkOperation = .ok (some { operation with state }) := by
  rw [eq_observedOver hkept] at hlabel ⊢
  unfold forkOperation at h ⊢
  rw [hlabel]
  rcases hstored : values.operation .forkOperationState with _ | stored
  · rw [hstored] at h
    cases h
  · rw [hstored] at h
    simp only at h ⊢
    rcases hread : forkOperationState? stored with _ | before
    · rw [hread] at h
      cases h
    · rw [hread] at h
      obtain ⟨spec, hspec, h⟩ := checked_bind_eq_ok_iff.mp h
      cases h
      rw [hstate]
      exact checked_bind_eq_ok_iff.mpr ⟨spec, hspec, rfl⟩

end Values

/-- The uncertain states `reconcile_uncertain_agent`, `reconcile_uncertain_fork` and
`reconcile_uncertain_worktree` observe. -/
def ObservedOperation.uncertainStates : ObservedOperation → List OperationLabel
  | .agent | .worktree => [.dispatching, .ambiguous, .failedObserving]
  | .fork => [.submitted, .ambiguous, .failedObserving]

/-- How an observed operation leaves its uncertain states. -/
inductive Departure
  | absent | manual
  deriving DecidableEq

namespace Departure

def checkout : Departure → CheckoutState
  | absent => .confirmedAbsent
  | manual => .manualRequired

def session : Departure → AgentSessionState
  | absent => .confirmedAbsent
  | manual => .manualRequired

def fork : Departure → OperationState
  | absent => .failed
  | manual => .manual

def label : Departure → OperationLabel
  | absent => .confirmedAbsent
  | manual => .manualRequired

theorem checkout_isSettled (departure : Departure) : departure.checkout.isSettled = false := by
  cases departure <;> rfl

theorem session_isSettled (departure : Departure) : departure.session.isSettled = false := by
  cases departure <;> rfl

theorem label_checkout (departure : Departure) : departure.checkout.label = departure.label := by
  cases departure <;> rfl

theorem label_session (departure : Departure) : departure.session.label = departure.label := by
  cases departure <;> rfl

theorem notMem_uncertainStates (departure : Departure) (operation : ObservedOperation) :
    departure.label ∉ operation.uncertainStates := by
  cases departure <;> cases operation <;> decide

theorem fork_legal (departure : Departure) {label : OperationLabel} {state : OperationState}
    (huncertain : label ∈ ObservedOperation.fork.uncertainStates)
    (hread : Values.forkOperationState? label = some state) : departure.fork ∈ state.transitions := by
  revert huncertain hread
  cases state <;> cases label <;> cases departure <;> decide

end Departure

namespace AgentJob

variable {job : AgentJob} {operation : ObservedOperation} {state : OperationLabel}
  {departure : Departure} {changes : List Change} {next : Values}

theorem exists_checkout (hstate : job.values.operation .worktreeProvisionState = some state) :
    ∃ checkout, job.values.checkoutOperation = .ok (some checkout) ∧ checkout.state.label = state := by
  obtain ⟨checkout, hread⟩ := parses_eq_ok_iff.mp (job.operation_check List.mem_cons_self)
  unfold Values.checkoutOperation at hread ⊢
  rw [hstate] at hread ⊢
  simp only at hread ⊢
  rcases hlabel : CheckoutState.ofLabel? state with _ | checkoutState
  · rw [hlabel] at hread
    cases hread
  · rw [hlabel] at hread
    obtain ⟨spec, hspec, hread⟩ := checked_bind_eq_ok_iff.mp hread
    obtain ⟨made, hmade, rfl⟩ := checked_map_eq_ok_iff.mp hread
    refine ⟨made, checked_bind_eq_ok_iff.mpr ⟨spec, hspec, checked_map_eq_ok_iff.mpr ⟨made, hmade, rfl⟩⟩, ?_⟩
    unfold CheckoutOperation.make at hmade
    split_ifs at hmade
    cases hmade
    revert hlabel
    cases state <;> cases checkoutState <;> simp [CheckoutState.ofLabel?, CheckoutState.label]

theorem exists_session (hstate : job.values.operation .agentDispatchState = some state) :
    ∃ session, job.values.agentSessionOperation = .ok (some session) ∧ session.state.label = state := by
  obtain ⟨session, hread⟩ :=
    parses_eq_ok_iff.mp (job.operation_check (List.mem_cons_of_mem _ List.mem_cons_self))
  unfold Values.agentSessionOperation at hread ⊢
  rw [hstate] at hread ⊢
  simp only at hread ⊢
  rcases hlabel : AgentSessionState.ofLabel? state with _ | sessionState
  · rw [hlabel] at hread
    cases hread
  · rw [hlabel] at hread
    obtain ⟨identity, hidentity, hread⟩ := checked_bind_eq_ok_iff.mp hread
    obtain ⟨spec, hspec, hread⟩ := checked_bind_eq_ok_iff.mp hread
    obtain ⟨made, hmade, rfl⟩ := checked_map_eq_ok_iff.mp hread
    refine ⟨made, checked_bind_eq_ok_iff.mpr ⟨identity, hidentity, checked_bind_eq_ok_iff.mpr ⟨spec, hspec,
      checked_map_eq_ok_iff.mpr ⟨made, hmade, rfl⟩⟩⟩, ?_⟩
    have hmadeState : made.state = sessionState := by
      unfold AgentSessionOperation.make at hmade
      split at hmade <;> split_ifs at hmade <;> cases hmade <;> rfl
    rw [hmadeState]
    revert hlabel
    cases state <;> cases sessionState <;> simp [AgentSessionState.ofLabel?, AgentSessionState.label]

theorem exists_fork (hstate : job.values.operation .forkOperationState = some state) :
    ∃ fork, job.values.forkOperation = .ok (some fork) ∧
      Values.forkOperationState? state = some fork.state := by
  obtain ⟨fork, hread⟩ := parses_eq_ok_iff.mp (job.operation_check (List.mem_cons_of_mem _
    (List.mem_cons_of_mem _ (List.mem_cons_of_mem _ List.mem_cons_self))))
  unfold Values.forkOperation at hread ⊢
  rw [hstate] at hread ⊢
  simp only at hread ⊢
  rcases hlabel : Values.forkOperationState? state with _ | forkState
  · rw [hlabel] at hread
    cases hread
  · rw [hlabel] at hread
    obtain ⟨spec, hspec, hread⟩ := checked_bind_eq_ok_iff.mp hread
    cases hread
    exact ⟨_, checked_bind_eq_ok_iff.mpr ⟨spec, hspec, rfl⟩, rfl⟩

/-- The stored session of an agent that was read without one. -/
theorem holdsNoSession_of_read {session : AgentSessionOperation}
    (h : job.values.agentSessionOperation = .ok (some session)) (hnone : session.session = none) :
    job.values.holdsNoSession := by
  unfold Values.agentSessionOperation at h
  split at h
  · cases h
  · split at h
    · cases h
    · obtain ⟨identity, hidentity, h⟩ := checked_bind_eq_ok_iff.mp h
      obtain ⟨spec, -, h⟩ := checked_bind_eq_ok_iff.mp h
      obtain ⟨made, hmade, hsame⟩ := checked_map_eq_ok_iff.mp h
      obtain rfl := Option.some.inj hsame
      unfold AgentSessionOperation.make at hmade
      split at hmade
      · exact Values.holdsNoSession_of_sessionIdentity hidentity
      · split_ifs at hmade
        cases hmade
        cases hnone

theorem observedState_eq (departure : Departure)
    (hstate : job.values.operation operation.manual.field = some state)
    (huncertain : state ∈ operation.uncertainStates) :
    match operation with
    | .worktree => ∃ checkout, job.values.checkoutOperation = .ok (some checkout) ∧
        departure.checkout ∈ checkout.state.transitions ∧
        job.observedState operation departure.checkout departure.session departure.label =
          .ok (checkout.movedTo departure.checkout departure.checkout_isSettled).fields
    | .agent => ∃ session, job.values.agentSessionOperation = .ok (some session) ∧
        departure.session ∈ session.state.transitions ∧
        job.observedState operation departure.checkout departure.session departure.label =
          .ok (session.movedTo departure.session departure.session_isSettled).fields
    | .fork => job.observedState operation departure.checkout departure.session departure.label =
        .ok [.put (.operation .forkOperationState) (some departure.label)] := by
  cases operation with
  | worktree =>
    obtain ⟨checkout, hread, hlabel⟩ := exists_checkout hstate
    have hlegal : departure.checkout ∈ checkout.state.transitions := by
      revert huncertain hlabel
      cases checkout.state <;> cases departure <;> rintro hmem rfl <;> revert hmem <;> decide
    refine ⟨checkout, hread, hlegal, ?_⟩
    unfold observedState
    simp only [hread, bind, Except.bind, (CheckoutOperation.transition_movedTo
      departure.checkout_isSettled hlegal).1]
  | agent =>
    obtain ⟨session, hread, hlabel⟩ := exists_session hstate
    have hlegal : departure.session ∈ session.state.transitions := by
      revert huncertain hlabel
      cases session.state <;> cases departure <;> rintro hmem rfl <;> revert hmem <;> decide
    refine ⟨session, hread, hlegal, ?_⟩
    unfold observedState
    simp only [hread, bind, Except.bind, (AgentSessionOperation.transition_movedTo
      departure.session_isSettled hlegal).1]
  | fork => rfl

/-- The operations of a job and of a next record, with a legal change for each. -/
theorem validateOperationTransitions_of (hkept : job.values.KeepsUnobserved next)
    {checkout checkout' : Option CheckoutOperation} {fork fork' : Option ForkOperation}
    {agent agent' : Option AgentSessionOperation}
    (hcheckout : job.values.checkoutOperation = .ok checkout)
    (hcheckout' : next.checkoutOperation = .ok checkout')
    (hfork : job.values.forkOperation = .ok fork) (hfork' : next.forkOperation = .ok fork')
    (hagent : job.values.agentSessionOperation = .ok agent)
    (hagent' : next.agentSessionOperation = .ok agent')
    (hcheckoutChange : validateOperation "checkout" false checkoutChange checkout checkout' = .ok ())
    (hforkChange : validateOperation "fork" false forkChange fork fork' = .ok ())
    (hagentChange : validateOperation "agent session" false
      (agentSessionChange next.participantSessionOwners) agent agent' = .ok ()) :
    validateOperationTransitions job.values next = .ok () := by
  obtain ⟨pane, hpane⟩ := parses_eq_ok_iff.mp (job.operation_check (List.mem_cons_of_mem _
    (List.mem_cons_of_mem _ List.mem_cons_self)))
  have hpane' : next.participantPaneOperation = .ok pane := by
    rw [Values.eq_observedOver hkept]
    exact hpane
  unfold validateOperationTransitions
  simp only [hcheckout, hcheckout', hcheckoutChange, hfork, hfork', hforkChange, hagent, hagent',
    hagentChange, hpane, hpane', validateOperation_self participantPaneChange_self, bind, Except.bind]

/-- The operations stay legal when none of their fields is written. -/
theorem operations_kept (hkept : job.values.KeepsUnobserved next)
    (hcheckout : ∀ field ∈ checkoutNames, next field = job.values field)
    (hagent : ∀ field ∈ Values.agentNames, next field = job.values field)
    (hfork : next (.operation .forkOperationState) = job.values (.operation .forkOperationState)) :
    validateOperationTransitions job.values next = .ok () := by
  have hoperation := fun check (hcheck : check ∈ job.values.operationChecks) ↦
    job.operation_check hcheck
  simp only [Values.operationChecks, List.forall_mem_cons, parses_eq_ok_iff] at hoperation
  obtain ⟨⟨checkout, hreadCheckout⟩, ⟨agent, hreadAgent⟩, -, ⟨fork, hreadFork⟩, -⟩ := hoperation
  have hlabel : next.operation .forkOperationState = job.values.operation .forkOperationState := by
    unfold Values.operation Values.get
    rw [hfork]
  exact validateOperationTransitions_of hkept hreadCheckout
    ((Values.checkoutOperation_congr hcheckout).trans hreadCheckout) hreadFork
    ((Values.forkOperation_congr hkept hlabel).trans hreadFork) hreadAgent
    ((Values.agentSessionOperation_congr hagent).trans hreadAgent)
    (validateOperation_self checkoutChange_self _) (validateOperation_self forkChange_self _)
    (validateOperation_self (agentSessionChange_self _) _)

/-- The observed operation moves legally, and the others stay. -/
theorem operations_departed (hkept : job.values.KeepsUnobserved next)
    (hstate : job.values.operation operation.manual.field = some state)
    (huncertain : state ∈ operation.uncertainStates)
    (hchanges : job.observedState operation departure.checkout departure.session departure.label =
      .ok changes)
    (hcells : ∀ change ∈ changes, next change.1 = change.2)
    (hcheckout : operation ≠ .worktree → ∀ field ∈ checkoutNames, next field = job.values field)
    (hagent : operation ≠ .agent → ∀ field ∈ Values.agentNames, next field = job.values field)
    (hsession : ∀ field ∈ sessionNames, field ∉ changes.map Sigma.fst → next field = job.values field)
    (hfork : operation ≠ .fork →
      next (.operation .forkOperationState) = job.values (.operation .forkOperationState)) :
    validateOperationTransitions job.values next = .ok () ∧
      next.operation operation.manual.field = some departure.label := by
  have hobserved := observedState_eq departure hstate huncertain
  have hoperation := fun check (hcheck : check ∈ job.values.operationChecks) ↦
    job.operation_check hcheck
  simp only [Values.operationChecks, List.forall_mem_cons, parses_eq_ok_iff] at hoperation
  obtain ⟨⟨checkout, hreadCheckout⟩, ⟨agent, hreadAgent⟩, -, ⟨fork, hreadFork⟩, -⟩ := hoperation
  have hforkKept : operation ≠ .fork → next.forkOperation = .ok fork := by
    intro hother
    have hlabel : next.operation .forkOperationState = job.values.operation .forkOperationState := by
      unfold Values.operation Values.get
      rw [hfork hother]
    exact (Values.forkOperation_congr hkept hlabel).trans hreadFork
  cases operation with
  | worktree =>
    obtain ⟨current, hcurrent, hlegal, heq⟩ := hobserved
    obtain rfl : changes = _ := Except.ok.inj (hchanges.symm.trans heq)
    obtain rfl : checkout = some current := Except.ok.inj (hreadCheckout.symm.trans hcurrent)
    refine ⟨validateOperationTransitions_of hkept hreadCheckout (checkoutOperation_eq hcells) hreadFork
      (hforkKept (by decide)) hreadAgent
      ((Values.agentSessionOperation_congr (hagent (by decide))).trans hreadAgent)
      (CheckoutOperation.checkoutChange_movedTo departure.checkout_isSettled hlegal)
      (validateOperation_self forkChange_self _) (validateOperation_self (agentSessionChange_self _) _),
      ?_⟩
    rw [← departure.label_checkout]
    exact Values.get_of_put hcells (by simp [CheckoutOperation.fields, CheckoutOperation.movedTo,
      ObservedOperation.manual, ManualOperation.field])
  | agent =>
    obtain ⟨current, hcurrent, hlegal, heq⟩ := hobserved
    obtain rfl : changes = _ := Except.ok.inj (hchanges.symm.trans heq)
    obtain rfl : agent = some current := Except.ok.inj (hreadAgent.symm.trans hcurrent)
    have hread : next.agentSessionOperation =
        .ok (some (current.movedTo departure.session departure.session_isSettled)) := by
      have hmoved : (current.movedTo departure.session departure.session_isSettled).session =
        current.session := rfl
      rcases hidentity : current.session with _ | identity
      · have hnames : ∀ field ∈ [Field.text .agentProvider, .text .agentProviderSessionId,
            .int .agentStateSequence], next field = job.values field := by
          intro field hfield
          have hsubset : [Field.text .agentProvider, .text .agentProviderSessionId,
            .int .agentStateSequence] ⊆ sessionNames := by decide
          refine hsession field (hsubset hfield) ?_
          have hfields : (current.movedTo departure.session departure.session_isSettled).fields.map
              Sigma.fst = sessionNames.take 5 := by
            unfold AgentSessionOperation.fields
            rw [hmoved, hidentity]
            rfl
          rw [hfields]
          revert field
          decide
        refine (agentSessionOperation_of_none (hmoved.trans hidentity) hcells).mpr ?_
        obtain ⟨hprovider, hid, hsequence⟩ := holdsNoSession_of_read hcurrent hidentity
        unfold Values.holdsNoSession Values.text Values.int Values.get at *
        rw [hnames _ (by decide), hnames _ (by decide), hnames _ (by decide)]
        exact ⟨hprovider, hid, hsequence⟩
      · exact agentSessionOperation_of_session (hmoved.trans hidentity) hcells
    refine ⟨validateOperationTransitions_of hkept hreadCheckout
      ((Values.checkoutOperation_congr (hcheckout (by decide))).trans hreadCheckout) hreadFork
      (hforkKept (by decide)) hreadAgent hread (validateOperation_self checkoutChange_self _)
      (validateOperation_self forkChange_self _)
      (AgentSessionOperation.agentSessionChange_movedTo _ departure.session_isSettled hlegal), ?_⟩
    rw [← departure.label_session]
    exact Values.get_of_put hcells (by simp [AgentSessionOperation.fields,
      AgentSessionOperation.movedTo, ObservedOperation.manual, ManualOperation.field])
  | fork =>
    obtain rfl : changes = _ := Except.ok.inj (hchanges.symm.trans hobserved)
    have hlabel : next.operation .forkOperationState = some departure.label :=
      Values.get_of_put hcells List.mem_cons_self
    obtain ⟨current, hcurrent, hread⟩ := exists_fork hstate
    obtain rfl : fork = some current := Except.ok.inj (hreadFork.symm.trans hcurrent)
    have hnamed : Values.forkOperationState? departure.label = some departure.fork := by
      cases departure <;> rfl
    have hlegal := departure.fork_legal huncertain hread
    have hchange : forkChange current { current with state := departure.fork } = .ok () := by
      have htransition : parses (current.transition departure.fork) = .ok () := by
        refine parses_eq_ok_iff.mpr ⟨{ current with state := departure.fork }, ?_⟩
        rw [ForkOperation.transition, if_neg (not_not.mpr hlegal)]
      unfold forkChange
      rw [if_neg (not_not.mpr rfl)]
      split_ifs
      · exact htransition
      · rfl
    exact ⟨validateOperationTransitions_of hkept hreadCheckout
      ((Values.checkoutOperation_congr (hcheckout (by decide))).trans hreadCheckout) hreadFork
      (Values.forkOperation_of_label hkept hcurrent hlabel hnamed) hreadAgent
      ((Values.agentSessionOperation_congr (hagent (by decide))).trans hreadAgent)
      (validateOperation_self checkoutChange_self _) hchange
      (validateOperation_self (agentSessionChange_self _) _), hlabel⟩

end AgentJob

/-! ### The other checks of the next record -/

/-- A cleanup state is read back from its fields. -/
theorem cleanupState_eq {next : Values} {cleanup : CleanupState}
    (h : ∀ change ∈ cleanup.fields, next change.1 = change.2) : next.cleanupState = .ok cleanup := by
  have hput : ∀ {field : Field} {value : Option field.type},
      Change.put field value ∈ cleanup.fields → next.get field = value := Values.get_of_put h
  unfold Values.cleanupState
  cases cleanup with
  | settled | reconciling =>
    have hpending : next.get (.bool .targetReleasePending) = some false :=
      hput (by simp [CleanupState.fields])
    have htoken : next.get (.text .targetReleaseToken) = none := hput (by simp [CleanupState.fields])
    have hpid : next.get (.int .targetReleaseOwnerPid) = none := hput (by simp [CleanupState.fields])
    have hboot : next.get (.text .targetReleaseOwnerBootId) = none :=
      hput (by simp [CleanupState.fields])
    have hstart : next.get (.text .targetReleaseOwnerStart) = none :=
      hput (by simp [CleanupState.fields])
    have hreconciling : next.get (.bool .cancellationReconciliationPending) = some _ :=
      hput (List.mem_cons_of_mem _ (List.mem_cons_of_mem _ List.mem_cons_self))
    simp [Values.bool, Values.text, Values.int, hpending, htoken, hpid, hboot, hstart, hreconciling,
      loadCleanupState, truthy]
  | pending token reconciliationPending =>
    have hpending : next.get (.bool .targetReleasePending) = some true :=
      hput (by simp [CleanupState.fields])
    have htoken : next.get (.text .targetReleaseToken) = token := hput (by simp [CleanupState.fields])
    have hpid : next.get (.int .targetReleaseOwnerPid) = none := hput (by simp [CleanupState.fields])
    have hboot : next.get (.text .targetReleaseOwnerBootId) = none :=
      hput (by simp [CleanupState.fields])
    have hstart : next.get (.text .targetReleaseOwnerStart) = none :=
      hput (by simp [CleanupState.fields])
    have hreconciling : next.get (.bool .cancellationReconciliationPending) =
      some reconciliationPending := hput (by simp [CleanupState.fields])
    simp [Values.bool, Values.text, Values.int, hpending, htoken, hpid, hboot, hstart, hreconciling,
      loadCleanupState]
  | owned token owner reconciliationPending =>
    have hpending : next.get (.bool .targetReleasePending) = some true :=
      hput (by simp [CleanupState.fields])
    have htoken : next.get (.text .targetReleaseToken) = token := hput (by simp [CleanupState.fields])
    have hpid : next.get (.int .targetReleaseOwnerPid) = some owner.pid :=
      hput (by simp [CleanupState.fields])
    have hboot : next.get (.text .targetReleaseOwnerBootId) = some owner.bootId :=
      hput (by simp [CleanupState.fields])
    have hstart : next.get (.text .targetReleaseOwnerStart) = some owner.start :=
      hput (by simp [CleanupState.fields])
    have hreconciling : next.get (.bool .cancellationReconciliationPending) =
      some reconciliationPending := hput (by simp [CleanupState.fields])
    simp [Values.bool, Values.text, Values.int, hpending, htoken, hpid, hboot, hstart, hreconciling,
      loadCleanupState, owner.complete]

/-- A cleanup after its reconciliation is read as pending where it was, and reconciles nothing. -/
theorem released_of_cleanup {values next : Values} {cleanup : CleanupState}
    (hkept : values.KeepsUnobserved next) (hread : values.cleanupState = .ok cleanup)
    (hguards : ∀ guard ∈ values.releaseGuards, guard.1 = false)
    (h : ∀ change ∈ (finishCleanupReconciliation cleanup).fields, next change.1 = change.2) :
    next.bool .targetReleasePending = values.bool .targetReleasePending ∧
      ∀ guard ∈ next.releaseGuards, guard.1 = false := by
  have hput : ∀ {field : Field} {value : Option field.type},
      Change.put field value ∈ (finishCleanupReconciliation cleanup).fields → next.get field = value :=
    Values.get_of_put h
  have hstored := Values.Observed.cleanup_of_pending hread
  have hnext := Values.Observed.cleanup_of_pending (cleanupState_eq h)
  have hpending : next.bool .targetReleasePending = values.bool .targetReleasePending := by
    have hfinished : ((finishCleanupReconciliation cleanup) ≠ .settled ∧
        (finishCleanupReconciliation cleanup) ≠ .reconciling) ↔
        cleanup ≠ .settled ∧ cleanup ≠ .reconciling := by
      cases cleanup <;> simp [finishCleanupReconciliation]
    rw [Bool.eq_iff_iff, hnext, hstored, hfinished]
  refine ⟨hpending, ?_⟩
  have hreconciling : next.bool .cancellationReconciliationPending = false := by
    have hstored : next.get (.bool .cancellationReconciliationPending) = some false := by
      cases cleanup <;> exact hput (by simp [CleanupState.fields, finishCleanupReconciliation])
    unfold Values.bool
    rw [hstored]
    rfl
  have howner : ∃ owner : Option CleanupOwner, next.int .targetReleaseOwnerPid = owner.map (·.pid) ∧
      next.text .targetReleaseOwnerBootId = owner.map (·.bootId) ∧
      next.text .targetReleaseOwnerStart = owner.map (·.start) ∧
      (next.bool .targetReleasePending = false →
        owner = none ∧ next.text .targetReleaseToken = none) := by
    unfold Values.bool Values.int Values.text
    cases cleanup with
    | settled | reconciling =>
      refine ⟨none, hput ?_, hput ?_, hput ?_, fun _ ↦ ⟨rfl, hput ?_⟩⟩ <;>
        simp [CleanupState.fields, finishCleanupReconciliation]
    | pending token reconciliationPending =>
      refine ⟨none, hput ?_, hput ?_, hput ?_, fun hopen ↦ ?_⟩
      rotate_right
      · have hheld : next.get (.bool .targetReleasePending) = some true :=
          hput (by simp [CleanupState.fields, finishCleanupReconciliation])
        rw [hheld] at hopen
        cases hopen
      all_goals simp [CleanupState.fields, finishCleanupReconciliation]
    | owned token owner reconciliationPending =>
      refine ⟨some owner, hput ?_, hput ?_, hput ?_, fun hopen ↦ ?_⟩
      rotate_right
      · have hheld : next.get (.bool .targetReleasePending) = some true :=
          hput (by simp [CleanupState.fields, finishCleanupReconciliation])
        rw [hheld] at hopen
        cases hopen
      all_goals simp [CleanupState.fields, finishCleanupReconciliation]
  obtain ⟨owner, hpid, hboot, hstart, hsettled⟩ := howner
  have hnames : next.bool .targetReleaseManualRequired = values.bool .targetReleaseManualRequired ∧
      next.targetReleaseUnverifiedTargets = values.targetReleaseUnverifiedTargets := by
    rw [Values.eq_observedOver hkept]
    exact ⟨rfl, rfl⟩
  unfold Values.releaseGuards at hguards ⊢
  simp only [List.forall_mem_cons, hreconciling, hpid, hboot, hstart, hnames, hpending,
    Bool.false_and, true_and] at hguards ⊢
  obtain ⟨-, -, -, hreleased, hmanual, -⟩ := hguards
  refine ⟨?_, ?_, hmanual, fun _ hmem ↦ absurd hmem List.not_mem_nil⟩
  · cases owner <;> rfl
  · cases hopen : values.bool .targetReleasePending with
    | true => rfl
    | false =>
      obtain ⟨rfl, htoken⟩ := hsettled (hpending.trans hopen)
      rw [hopen] at hreleased
      simp only [Bool.not_false, Bool.true_and, Bool.or_eq_false_iff] at hreleased
      simp [Values.hasText, Values.hasCount, Values.count, htoken, hpid, hboot, hstart, truthy,
        hreleased]

/-! ### The fences and the manual slot -/

namespace AgentJob

variable {job : AgentJob} {operation : ObservedOperation} {state : OperationLabel}
  {departure : Departure} {next : Values}

/-- The labels of the other operations stay. -/
def KeepsOthers (job : AgentJob) (operation : ObservedOperation) (next : Values) : Prop :=
  ∀ other : ManualOperation, other ≠ operation.manual →
    next.operation other.field = job.values.operation other.field

theorem fences_departed (hkept : job.values.KeepsUnobserved next)
    (hstate : job.values.operation operation.manual.field = some state)
    (huncertain : state ∈ operation.uncertainStates)
    (hlabel : next.operation operation.manual.field = some departure.label)
    (hothers : job.KeepsOthers operation next)
    (htarget : operation ≠ .agent → next.text .herdrTarget = job.values.text .herdrTarget) :
    ∀ guard ∈ next.operationFenceGuards, guard.1 = false := by
  have hguards : ∀ guard ∈ job.values.operationFenceGuards, guard.1 = false := by
    intro guard hguard
    exact job.invariant_guard (by simp [Values.invariantGuards, hguard])
  have htexts : next.hasText .forkOperationTarget = job.values.hasText .forkOperationTarget ∧
      [TextField.repository, .worktreeBranch, .worktreePath].all next.hasText =
        [TextField.repository, .worktreeBranch, .worktreePath].all job.values.hasText := by
    rw [Values.eq_observedOver hkept]
    exact ⟨rfl, rfl⟩
  have hagent := hothers .agent
  have hfork := hothers .fork
  have hworktree := hothers .worktree
  unfold Values.operationFenceGuards Values.labelGuard Values.isUncertain at hguards ⊢
  simp only [List.forall_mem_cons, htexts] at hguards ⊢
  obtain ⟨hagentLabel, hforkLabel, hworktreeLabel, hagentFence, hforkFence, hworktreeFence, -⟩ := hguards
  cases operation with
  | agent =>
    simp only [ObservedOperation.manual, ManualOperation.field] at hstate hlabel hfork hworktree
    rw [hfork (by decide), hworktree (by decide), hlabel]
    refine ⟨?_, hforkLabel, hworktreeLabel, ?_, hforkFence, hworktreeFence,
      fun _ hmem ↦ absurd hmem List.not_mem_nil⟩
    · cases departure <;> decide
    · cases departure <;> rfl
  | fork =>
    simp only [ObservedOperation.manual, ManualOperation.field] at hstate hlabel hagent hworktree
    have hsame : next.hasText .herdrTarget = job.values.hasText .herdrTarget := by
      unfold Values.hasText
      rw [htarget (by decide)]
    rw [hagent (by decide), hworktree (by decide), hlabel, hsame]
    refine ⟨hagentLabel, ?_, hworktreeLabel, hagentFence, ?_, hworktreeFence,
      fun _ hmem ↦ absurd hmem List.not_mem_nil⟩
    · cases departure <;> decide
    · rw [hstate] at hforkFence
      have hfenced : decide (state ∈ [OperationLabel.planned, .submitted, .ambiguous, .failedObserving,
          .manualRequired]) = true := by
        revert huncertain
        cases state <;> decide
      simp only [Option.any_some, hfenced, Bool.true_and] at hforkFence
      rw [hforkFence]
      exact Bool.and_false _
  | worktree =>
    simp only [ObservedOperation.manual, ManualOperation.field] at hstate hlabel hagent hfork
    have hsame : next.hasText .herdrTarget = job.values.hasText .herdrTarget := by
      unfold Values.hasText
      rw [htarget (by decide)]
    rw [hagent (by decide), hfork (by decide), hlabel, hsame]
    refine ⟨hagentLabel, hforkLabel, ?_, hagentFence, hforkFence, ?_,
      fun _ hmem ↦ absurd hmem List.not_mem_nil⟩
    · cases departure <;> decide
    · rw [hstate] at hworktreeFence
      have hfenced : decide (state ∈ [OperationLabel.planned, .dispatching, .ambiguous, .failedObserving,
          .manualRequired]) = true := by
        revert huncertain
        cases state <;> decide
      simp only [Option.any_some, hfenced, Bool.true_and] at hworktreeFence
      rw [hworktreeFence]
      exact Bool.and_false _

/-- The slot of an operation that is handed to the operator names it. -/
theorem slot_manual {token : String} (htoken : token ≠ "")
    (hlabel : next.operation operation.manual.field = some .manualRequired)
    (hslot : next.text .manualReconcileOperation = some operation.manual.value)
    (hheld : next.text .manualReconcileToken = some token) :
    ∀ guard ∈ next.manualGuards, guard.1 = false := by
  have hnamed : next.textOrEmpty .manualReconcileOperation = operation.manual.value := by
    unfold Values.textOrEmpty
    rw [hslot]
    rfl
  have hset : operation.manual.value ≠ "" := by cases operation <;> decide
  have htruthy : next.hasText .manualReconcileToken = true := by simp [Values.hasText, hheld, truthy, htoken]
  have hmanual : next.isManual operation.manual = true := by
    have hmanualLabel : operation.manual.manualLabel = .manualRequired := by cases operation <;> rfl
    unfold Values.isManual
    rw [hlabel, hmanualLabel]
    rfl
  unfold Values.manualGuards
  simp only [List.forall_mem_cons, hnamed, htruthy, hset, ManualOperation.ofValue?_value,
    Option.any_some, hmanual]
  simp

/-- The slot stays as it is when the operation is not one it can name. -/
theorem slot_kept (hstate : job.values.operation operation.manual.field = some state)
    (huncertain : state ∈ operation.uncertainStates)
    (hlabel : next.operation operation.manual.field ≠ some .manualRequired)
    (hothers : job.KeepsOthers operation next)
    (hslot : next.text .manualReconcileOperation = job.values.text .manualReconcileOperation)
    (hheld : next.text .manualReconcileToken = job.values.text .manualReconcileToken) :
    ∀ guard ∈ next.manualGuards, guard.1 = false := by
  have hguards : ∀ guard ∈ job.values.manualGuards, guard.1 = false := by
    intro guard hguard
    exact job.invariant_guard (by simp [Values.invariantGuards, hguard])
  have hnamed : next.textOrEmpty .manualReconcileOperation =
      job.values.textOrEmpty .manualReconcileOperation := by
    unfold Values.textOrEmpty
    rw [hslot]
  have htruthy : next.hasText .manualReconcileToken = job.values.hasText .manualReconcileToken := by
    unfold Values.hasText
    rw [hheld]
  unfold Values.manualGuards at hguards ⊢
  simp only [List.forall_mem_cons, hnamed, htruthy] at hguards ⊢
  obtain ⟨hrequired, hvalid, hmatching, hopen, -⟩ := hguards
  refine ⟨?_, hvalid, ?_, hopen, fun _ hmem ↦ absurd hmem List.not_mem_nil⟩
  · rw [Bool.and_eq_false_iff] at hrequired ⊢
    refine hrequired.imp_left fun hnone ↦ ?_
    rw [List.any_eq_false] at hnone ⊢
    intro other hmem hmanual
    have hmanual := of_decide_eq_true hmanual
    by_cases hsame : other = operation.manual
    · exact hlabel (hsame ▸ hmanual)
    · exact hnone other hmem (decide_eq_true ((hothers other hsame).symm.trans hmanual))
  · rw [Option.any_eq_false] at hmatching ⊢
    intro other hother
    have hfits := hmatching other hother
    rw [Bool.or_eq_false_iff, Bool.not_eq_false'] at hfits ⊢
    refine ⟨?_, hfits.2⟩
    have hne : other ≠ operation.manual := by
      rintro rfl
      have hmanual := of_decide_eq_true hfits.1
      rw [hstate] at hmanual
      obtain rfl := Option.some.inj hmanual
      revert huncertain
      cases operation <;> decide
    unfold Values.isManual at hfits ⊢
    rw [hothers other hne]
    exact hfits.1

end AgentJob

end VoiceHarness
