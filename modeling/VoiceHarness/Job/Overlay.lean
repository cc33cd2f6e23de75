import VoiceHarness.Job.Canonical

/-!
# The overlay of typed operations

A job that was read is changed with a typed checkout or agent session: the flat fields the operation flattens to
are written, and the operation is read back from the next record. The fields of a session identity are written
only where the operation has one, so that an operation without one takes over the identity the record holds.
-/

set_option autoImplicit false
set_option relaxedAutoImplicit false

namespace VoiceHarness

/-! ### Canonical evolutions -/

namespace Values

/-- The fields that `from_dict` looks at to keep a record as it is. -/
def keptFields : List Field :=
  [.text .sessionId, .text .herdrTarget, .announcementAck, .bool .delivered, .text .githubIssueUrl,
    .text .githubRepository, .int .githubIssue] ++ defaultedFields ++ droppedFields

/-- The fields an evolution writes by itself where its changes name neither the session nor the prompt. -/
def ownFields : List Field :=
  .announcementAck :: workerClaimFields ++
    [.text .manualReconcileOperation, .text .manualReconcileToken, .jobStatus .status,
      .int .schemaVersion, .int .revision]

variable {values : Values}

theorem releaseManualSlot_agreeOff : AgreeOff ownFields values values.releaseManualSlot := by
  unfold releaseManualSlot
  extract_lets slot
  split_ifs
  · exact (AgreeOff.refl _ _).update (by decide)
  · exact AgreeOff.refl _ _

theorem pairAnnouncementAck_agreeOff : AgreeOff [.announcementAck] values values.pairAnnouncementAck := by
  unfold pairAnnouncementAck
  extract_lets ack
  split_ifs <;> first
    | exact AgreeOff.refl _ _
    | exact (AgreeOff.refl _ _).set (by decide) _

theorem stamp_schemaVersion (values : Values) (status : JobStatus) (revision : ℤ) :
    values.stamp status revision (.int .schemaVersion) = .val currentSchemaVersion := by
  unfold stamp
  have hne : Field.int .schemaVersion ≠ .int .revision := by decide
  exact (set_of_ne _ _ hne).trans (set_self _ _ _)

/-- A change among changes of different fields is what its field holds. -/
theorem update_of_mem (values : Values) {changes : List Change} (hnodup : (changes.map Sigma.fst).Nodup)
    {change : Change} (hmem : change ∈ changes) : values.update changes change.1 = change.2 := by
  induction changes generalizing values with
  | nil => exact absurd hmem List.not_mem_nil
  | cons first changes ih =>
    rw [List.map_cons, List.nodup_cons] at hnodup
    rw [update_cons]
    rcases List.mem_cons.mp hmem with rfl | hrest
    · rw [update_of_notMem _ hnodup.1, set_self]
    · exact ih _ hnodup.2 hrest

/-- A pairing leaves an acknowledgement that agrees with the delivery. -/
theorem pairAnnouncementAck_acknowledged {ack : AnnouncementAck}
    (hack : values .announcementAck = .val ack) :
    ∃ paired, values.pairAnnouncementAck .announcementAck = .val paired ∧
      ¬ (values.bool .delivered = true ∧ paired = .pending) := by
  have hget : values.get .announcementAck = some ack := by
    rw [get, hack]
    rfl
  unfold pairAnnouncementAck
  simp only [hget]
  by_cases hdelivered : values.bool .delivered = true
  · rw [if_pos hdelivered]
    by_cases hpending : some ack = none ∨ some ack = some AnnouncementAck.pending
    · rw [if_pos hpending, set_self]
      refine ⟨_, rfl, fun hboth ↦ ?_⟩
      have hopen := hboth.2
      split_ifs at hopen
    · rw [if_neg hpending]
      exact ⟨ack, hack, fun hboth ↦ hpending (.inr (congrArg some hboth.2))⟩
  · rw [if_neg hdelivered]
    by_cases hspoken : some ack = some AnnouncementAck.spoken ∨ some ack = some AnnouncementAck.dismissed
    · rw [if_pos hspoken, set_self]
      exact ⟨.pending, rfl, fun hboth ↦ hdelivered hboth.1⟩
    · rw [if_neg hspoken]
      exact ⟨ack, hack, fun hboth ↦ hdelivered hboth.1⟩

end Values

namespace AgentJob

variable {job : AgentJob} {changes : List Change} {status : Option JobStatus}

theorem mentions_eq_false {field : Field} (h : field ∉ changes.map Sigma.fst) :
    mentions changes field = false := by
  rw [mentions, List.any_eq_false]
  intro change hchange hfield
  exact h (List.mem_map.mpr ⟨change, hchange, of_decide_eq_true hfield⟩)

/-- The changes of an evolution keep clear of what `from_dict` looks at. -/
def KeepsClear (changes : List Change) : Prop :=
  ∀ field ∈ Values.keptFields, field ∉ changes.map Sigma.fst

/-- Such an evolution writes its changes and its own fields. -/
theorem evolvedRecord_agreeOff (hclear : KeepsClear changes) :
    Values.AgreeOff Values.ownFields (job.values.update changes) (job.evolvedRecord changes status []) := by
  have hprompt := mentions_eq_false (hclear (.operation .promptOperationState) (by decide))
  have htarget := mentions_eq_false (hclear (.text .herdrTarget) (by decide))
  have hsession := mentions_eq_false (hclear (.text .sessionId) (by decide))
  have hchanged : Values.AgreeOff Values.ownFields (job.values.update changes)
      (job.values.update changes).pairAnnouncementAck.pairWorkerOwnership :=
    (Values.pairAnnouncementAck_agreeOff.mono (by decide)).trans
      (Values.agreeOff_pairWorkerOwnership.mono (by decide))
  have hreleased := hchanged.trans Values.releaseManualSlot_agreeOff
  unfold evolvedRecord
  extract_lets changed fenced
  have hfenced : fenced = changed := by
    show (if mentions changes (.operation .promptOperationState) then _ else changed) = changed
    rw [hprompt, if_neg Bool.false_ne_true]
  have hpair : fenced.releaseManualSlot.pairSession changes = fenced.releaseManualSlot := by
    unfold Values.pairSession
    rw [htarget, hsession]
    rfl
  rw [hpair, hfenced]
  exact hreleased.update (by simp [Values.ownFields, Values.workerClaimFields])

variable [TextLibrary]

/-- The record of such an evolution of a canonical job is canonical. -/
theorem isCanonical_evolvedRecord (hjob : job.values.IsCanonical) (hclear : KeepsClear changes) :
    (job.evolvedRecord changes status []).IsCanonical := by
  have hkept : ∀ field ∈ Values.keptFields, field ∉ Values.ownFields →
      job.evolvedRecord changes status [] field = job.values field := by
    intro field hfield hown
    rw [evolvedRecord_agreeOff hclear field hown, Values.update_of_notMem _ (hclear field hfield)]
  constructor
  · intro hsome
    rw [hkept _ (by decide) (by decide)]
    refine hjob.target ?_
    rw [Values.text, Values.get, hkept _ (by decide) (by decide)] at hsome
    exact hsome
  · intro hsome
    rw [hkept _ (by decide) (by decide)]
    refine hjob.session ?_
    rw [Values.text, Values.get, hkept _ (by decide) (by decide)] at hsome
    exact hsome
  · intro field hfield
    have hmem : field ∈ Values.keptFields :=
      List.mem_append_left _ (List.mem_append_right _ hfield)
    have hown : ∀ field ∈ Values.defaultedFields, field ∉ Values.ownFields := by decide
    rw [hkept field hmem (hown field hfield)]
    exact hjob.present field hfield
  · intro field hfield
    have hmem : field ∈ Values.keptFields := List.mem_append_right _ hfield
    have hown : ∀ field ∈ Values.droppedFields, field ∉ Values.ownFields := by decide
    rw [hkept field hmem (hown field hfield)]
    exact hjob.absent field hfield
  · obtain ⟨ack, hack, -⟩ := hjob.acknowledged
    have hchanged : job.values.update changes .announcementAck = .val ack := by
      rw [Values.update_of_notMem _ (hclear .announcementAck (by decide)), hack]
    obtain ⟨paired, hpaired, hopen⟩ := Values.pairAnnouncementAck_acknowledged hchanged
    have hdelivered : (job.evolvedRecord changes status []).bool .delivered =
        (job.values.update changes).bool .delivered := by
      rw [Values.bool, Values.get, evolvedRecord_agreeOff hclear _ (by decide)]
      rfl
    refine ⟨paired, ?_, ?_⟩
    · rw [agreeOff_evolvedRecord changes status [] _ (by decide),
        Values.agreeOff_pairWorkerOwnership _ (by decide)]
      exact hpaired
    · rw [hdelivered]
      exact hopen
  · have hget : ∀ field ∈ Values.keptFields, field ∉ Values.ownFields →
        (job.evolvedRecord changes status []).get field = job.values.get field := by
      intro field hfield hown
      rw [Values.get, hkept field hfield hown]
      rfl
    constructor
    · intro hsome
      rw [Values.text, hget _ (by decide) (by decide)] at hsome ⊢
      exact hjob.issue.url hsome
    · rw [Values.text, Values.text, hget _ (by decide) (by decide), hget _ (by decide) (by decide)]
      exact hjob.issue.repositories
    · rw [Values.text, Values.int, hget _ (by decide) (by decide), hget _ (by decide) (by decide)]
      exact hjob.issue.numbers
  · exact Values.stamp_schemaVersion _ _ _

/-- Such an evolution of a canonical job is its record. -/
theorem values_of_evolve (hjob : job.values.IsCanonical) (hclear : KeepsClear changes) {next : AgentJob}
    (hstep : job.evolve changes status = .ok next) :
    next.values = job.evolvedRecord changes status [] := by
  obtain ⟨values, hcanonical, hvalues⟩ := fromDict_ok (evolve_ok hstep).1
  rw [(isCanonical_evolvedRecord hjob hclear).canonicalise_eq] at hcanonical
  rw [hvalues, ← Except.ok.inj hcanonical]

end AgentJob

/-! ### Reading an operation back -/

/-- The flat fields of a checkout. -/
def checkoutNames : List Field :=
  [.operation .worktreeProvisionState, .text .repository, .text .worktreeBranch, .text .worktreePath,
    .text .worktreeWorkspaceId, .text .worktreeRootPaneId]

/-- The flat fields of an agent session, with those of its identity. -/
def sessionNames : List Field :=
  [.operation .agentDispatchState, .text .agentOperationTarget, .text .agentOperationCheckout,
    .text .agentOperationWorkspaceId, .text .agentOperationPaneId, .text .agentProvider,
    .text .agentProviderSessionId, .int .agentStateSequence]

theorem CheckoutOperation.names_fields (operation : CheckoutOperation) :
    operation.fields.map Sigma.fst = checkoutNames := rfl

theorem AgentSessionOperation.names_fields (operation : AgentSessionOperation) :
    operation.fields.map Sigma.fst = sessionNames.take 5 ∨
      operation.fields.map Sigma.fst = sessionNames := by
  unfold AgentSessionOperation.fields
  rcases operation.session with _ | session
  · exact .inl rfl
  · exact .inr rfl

/-- A typed operation of `evolve`. -/
inductive TypedOperation
  | checkout (operation : CheckoutOperation)
  | agentSession (operation : AgentSessionOperation)

namespace TypedOperation

/-- The flat fields of the operation. -/
def fields : TypedOperation → List Change
  | .checkout operation => operation.fields
  | .agentSession operation => operation.fields

/-- The operation is read back from a record. -/
def IsReadFrom (values : Values) : TypedOperation → Prop
  | .checkout operation => values.checkoutOperation = .ok (some operation)
  | .agentSession operation => values.agentSessionOperation = .ok (some operation)

/-- The operation names the session identity of its agent, where it is about one. -/
def bindsSession : TypedOperation → Bool
  | .checkout _ => true
  | .agentSession operation => operation.session.isSome

/-- The operation is read back from the next job as it was, and every field stays that is neither one of its own
nor one that an evolution writes by itself. -/
structure IsFaithful (operation : TypedOperation) (job next : AgentJob) : Prop where
  readBack : operation.IsReadFrom next.values
  others : ∀ field, field ∉ operation.fields.map Sigma.fst → field ∉ Values.ownFields →
    next.values field = job.values field

theorem names_subset (operation : TypedOperation) {field : Field}
    (h : field ∈ operation.fields.map Sigma.fst) : field ∈ checkoutNames ∨ field ∈ sessionNames := by
  cases operation with
  | checkout operation =>
    rw [fields, operation.names_fields] at h
    exact .inl h
  | agentSession operation =>
    right
    rcases operation.names_fields with hnames | hnames <;> rw [fields, hnames] at h
    · exact List.mem_of_mem_take h
    · exact h

theorem nodup_names (operation : TypedOperation) : (operation.fields.map Sigma.fst).Nodup := by
  cases operation with
  | checkout operation =>
    rw [fields, operation.names_fields]
    decide
  | agentSession operation =>
    rcases operation.names_fields with hnames | hnames <;>
    · rw [fields, hnames]
      decide

theorem keepsClear (operation : TypedOperation) : AgentJob.KeepsClear operation.fields := by
  intro field hfield
  have hlists : ∀ field ∈ Values.keptFields, field ∉ checkoutNames ∧ field ∉ sessionNames := by decide
  exact fun hmem ↦ (operation.names_subset hmem).elim (hlists field hfield).1 (hlists field hfield).2

end TypedOperation

/-- The record holds no session identity. -/
def Values.holdsNoSession (values : Values) : Prop :=
  values.text .agentProvider = none ∧ values.text .agentProviderSessionId = none ∧
    values.int .agentStateSequence = none

section

variable {values : Values}

/-- What a field holds after a change. -/
theorem Values.get_of_put {changes : List Change} (h : ∀ change ∈ changes, values change.1 = change.2)
    {field : Field} {value : Option field.type} (hmem : Change.put field value ∈ changes) :
    values.get field = value := by
  have hcell : values field = Cell.ofOption value := h _ hmem
  rw [Values.get, hcell, Cell.get?_ofOption]

theorem CheckoutState.ofLabel?_label (state : CheckoutState) : ofLabel? state.label = some state := by
  cases state <;> rfl

theorem AgentSessionState.ofLabel?_label (state : AgentSessionState) :
    ofLabel? state.label = some state := by
  cases state <;> rfl

/-- A checkout is read back from its fields. -/
theorem checkoutOperation_eq {operation : CheckoutOperation}
    (h : ∀ change ∈ operation.fields, values change.1 = change.2) :
    values.checkoutOperation = .ok (some operation) := by
  have hstate : values.operation .worktreeProvisionState = some operation.state.label :=
    Values.get_of_put h (by simp [CheckoutOperation.fields])
  have hrepository : values.text .repository = some operation.spec.repository :=
    Values.get_of_put h (by simp [CheckoutOperation.fields])
  have hbranch : values.text .worktreeBranch = some operation.spec.branch :=
    Values.get_of_put h (by simp [CheckoutOperation.fields])
  have hpath : values.text .worktreePath = some operation.spec.path :=
    Values.get_of_put h (by simp [CheckoutOperation.fields])
  have hworkspace : values.text .worktreeWorkspaceId = operation.workspaceId :=
    Values.get_of_put h (by simp [CheckoutOperation.fields])
  have hroot : values.text .worktreeRootPaneId = operation.rootPaneId :=
    Values.get_of_put h (by simp [CheckoutOperation.fields])
  have hspec : CheckoutSpec.make operation.spec.repository operation.spec.branch operation.spec.path =
      .ok operation.spec := dif_pos operation.spec.complete
  have hmake : CheckoutOperation.make operation.state operation.spec operation.workspaceId
      operation.rootPaneId = .ok operation := by
    rw [CheckoutOperation.make, dif_pos operation.paired, dif_pos operation.settled]
  unfold Values.checkoutOperation
  simp only [hstate, CheckoutState.ofLabel?_label, Values.textOrEmpty, hrepository, hbranch, hpath,
    hworkspace, hroot, Option.getD_some, hspec, bind, Except.bind, hmake]
  rfl

/-- The identity that is read back with an agent session. -/
theorem agentSessionOperation_eq {operation : AgentSessionOperation}
    (h : ∀ change ∈ operation.fields, values change.1 = change.2) :
    values.agentSessionOperation = (values.sessionIdentity operation.spec.target >>= fun session ↦
      some <$> AgentSessionOperation.make operation.state operation.spec session) := by
  have hput : ∀ {field : Field} {value : Option field.type},
      Change.put field value ∈ operation.fields → values.get field = value := Values.get_of_put h
  have hstate : values.operation .agentDispatchState = some operation.state.label :=
    hput (by simp [AgentSessionOperation.fields])
  have htarget : values.text .agentOperationTarget = some operation.spec.target :=
    hput (by simp [AgentSessionOperation.fields])
  have hcheckout : values.text .agentOperationCheckout = some operation.spec.checkout :=
    hput (by simp [AgentSessionOperation.fields])
  have hworkspace : values.text .agentOperationWorkspaceId = some operation.spec.workspaceId :=
    hput (by simp [AgentSessionOperation.fields])
  have hpane : values.text .agentOperationPaneId = some operation.spec.paneId :=
    hput (by simp [AgentSessionOperation.fields])
  have hspec : AgentSessionSpec.make operation.spec.target operation.spec.checkout
      operation.spec.workspaceId operation.spec.paneId = .ok operation.spec :=
    dif_pos operation.spec.complete
  unfold Values.agentSessionOperation
  simp only [hstate, AgentSessionState.ofLabel?_label, htarget, hcheckout, hworkspace, hpane,
    Option.some_or, Option.getD_some, hspec]
  rfl

/-- An agent session with an identity is read back from its fields. -/
theorem agentSessionOperation_of_session {operation : AgentSessionOperation} {session : SessionIdentity}
    (hsession : operation.session = some session)
    (h : ∀ change ∈ operation.fields, values change.1 = change.2) :
    values.agentSessionOperation = .ok (some operation) := by
  have hprovider : values.text .agentProvider = some session.provider :=
    Values.get_of_put h (by simp [AgentSessionOperation.fields, hsession])
  have hid : values.text .agentProviderSessionId = some session.sessionId :=
    Values.get_of_put h (by simp [AgentSessionOperation.fields, hsession])
  have hsequence : values.int .agentStateSequence = some (session.stateSequence : ℤ) :=
    Values.get_of_put h (by simp [AgentSessionOperation.fields, hsession])
  have htarget := operation.sameTarget session hsession
  have hidentity : values.sessionIdentity operation.spec.target = .ok (some session) := by
    unfold Values.sessionIdentity
    rw [← htarget]
    simp only [hprovider, hid, hsequence]
    have hmake : SessionIdentity.make session.provider session.sessionId session.target
        session.stateSequence = .ok session := by
      have hnonneg : ¬ (session.stateSequence : ℤ) < 0 := by omega
      rw [SessionIdentity.make, dif_pos session.complete]
      exact if_neg hnonneg
    rw [hmake]
    rfl
  rw [agentSessionOperation_eq h, hidentity]
  obtain ⟨state, spec, identity, hsame, hsettled⟩ := operation
  obtain rfl : identity = some session := hsession
  show some <$> AgentSessionOperation.make state spec (some session) = _
  rw [AgentSessionOperation.make]
  simp only [dif_pos htarget]
  rfl

theorem Values.holdsNoSession_of_sessionIdentity {target : String}
    (h : values.sessionIdentity target = .ok none) : values.holdsNoSession := by
  unfold Values.sessionIdentity at h
  rcases hprovider : values.text .agentProvider with _ | provider <;>
    rcases hid : values.text .agentProviderSessionId with _ | sessionId <;>
      rcases hsequence : values.int .agentStateSequence with _ | sequence <;>
        simp only [hprovider, hid, hsequence] at h
  · exact ⟨hprovider, hid, hsequence⟩
  all_goals
    first
    | cases h
    | obtain ⟨identity, -, hsome⟩ := checked_map_eq_ok_iff.mp h
      cases hsome

/-- An agent session without an identity is read back if and only if the record holds none. -/
theorem agentSessionOperation_of_none {operation : AgentSessionOperation}
    (hsession : operation.session = none)
    (h : ∀ change ∈ operation.fields, values change.1 = change.2) :
    values.agentSessionOperation = .ok (some operation) ↔ values.holdsNoSession := by
  rw [agentSessionOperation_eq h]
  constructor
  · intro hread
    obtain ⟨session, hidentity, hmade⟩ := checked_bind_eq_ok_iff.mp hread
    rcases session with _ | session
    · exact Values.holdsNoSession_of_sessionIdentity hidentity
    · -- the operation that was made has the identity
      obtain ⟨made, hmake, hsame⟩ := checked_map_eq_ok_iff.mp hmade
      obtain rfl := Option.some.inj hsame
      rw [AgentSessionOperation.make] at hmake
      split_ifs at hmake with htarget
      have hmade := congrArg AgentSessionOperation.session (Except.ok.inj hmake)
      rw [hsession] at hmade
      cases hmade
  · rintro ⟨hprovider, hid, hsequence⟩
    have hidentity : values.sessionIdentity operation.spec.target = .ok none := by
      unfold Values.sessionIdentity
      simp only [hprovider, hid, hsequence]
    rw [hidentity]
    obtain ⟨state, spec, identity, hsame, hsettled⟩ := operation
    obtain rfl : identity = none := hsession
    show some <$> AgentSessionOperation.make state spec none = _
    rw [AgentSessionOperation.make]
    simp only [dif_pos hsettled]
    rfl

end

/-- An accepted evolution of a job that was read overlays a typed operation faithfully if and only if the operation
names its session, or is about none, or the job holds no session identity. -/
theorem isFaithful_iff [TextLibrary] {raw : Values} {job next : AgentJob}
    (hread : AgentJob.fromDict raw = .ok job) (operation : TypedOperation) (status : Option JobStatus)
    (hstep : job.evolve operation.fields status = .ok next) :
    operation.IsFaithful job next ↔ operation.bindsSession = true ∨ job.values.holdsNoSession := by
  have hclear := operation.keepsClear
  have hvalues := AgentJob.values_of_evolve (AgentJob.isCanonical_of_fromDict hread) hclear hstep
  have hcells : ∀ field, field ∉ Values.ownFields →
      next.values field = job.values.update operation.fields field := by
    intro field hfield
    rw [hvalues]
    exact AgentJob.evolvedRecord_agreeOff hclear field hfield
  have hown : ∀ change ∈ operation.fields, next.values change.1 = change.2 := by
    intro change hchange
    have hlists : ∀ field, field ∈ checkoutNames ∨ field ∈ sessionNames → field ∉ Values.ownFields := by
      have hcheckout : ∀ field ∈ checkoutNames, field ∉ Values.ownFields := by decide
      have hsession : ∀ field ∈ sessionNames, field ∉ Values.ownFields := by decide
      exact fun field hfield ↦ hfield.elim (hcheckout field) (hsession field)
    have hname := operation.names_subset (List.mem_map.mpr ⟨change, hchange, rfl⟩)
    rw [hcells _ (hlists _ hname), Values.update_of_mem _ operation.nodup_names hchange]
  have hothers : ∀ field, field ∉ operation.fields.map Sigma.fst → field ∉ Values.ownFields →
      next.values field = job.values field := by
    intro field hfield hnot
    rw [hcells field hnot, Values.update_of_notMem _ hfield]
  have hfaithful : operation.IsFaithful job next ↔ operation.IsReadFrom next.values :=
    ⟨TypedOperation.IsFaithful.readBack, fun hback ↦ ⟨hback, hothers⟩⟩
  rw [hfaithful]
  cases operation with
  | checkout operation => exact iff_of_true (checkoutOperation_eq hown) (.inl rfl)
  | agentSession operation =>
    rcases hsession : operation.session with _ | session
    · have hbinds : (TypedOperation.agentSession operation).bindsSession = false := by
        rw [TypedOperation.bindsSession, hsession]
        rfl
      have hheld : next.values.holdsNoSession ↔ job.values.holdsNoSession := by
        have hnames : operation.fields.map Sigma.fst = sessionNames.take 5 := by
          unfold AgentSessionOperation.fields
          rw [hsession]
          rfl
        have hkept : ∀ field ∈ sessionNames.drop 5, next.values.get field = job.values.get field := by
          intro field hfield
          have hnot : ∀ field ∈ sessionNames.drop 5,
              field ∉ sessionNames.take 5 ∧ field ∉ Values.ownFields := by decide
          obtain ⟨hname, hfieldOwn⟩ := hnot field hfield
          rw [Values.get, hothers field (hnames ▸ hname) hfieldOwn]
          rfl
        rw [Values.holdsNoSession, Values.holdsNoSession, Values.text, Values.text, Values.int,
          hkept _ (by decide), hkept _ (by decide), hkept _ (by decide)]
        rfl
      rw [hbinds, Bool.false_eq_true, false_or, ← hheld]
      exact agentSessionOperation_of_none hsession hown
    · have hbinds : (TypedOperation.agentSession operation).bindsSession = true := by
        rw [TypedOperation.bindsSession, hsession]
        rfl
      exact iff_of_true (agentSessionOperation_of_session hsession hown) (.inl hbinds)

section

attribute [local instance] asciiTextLibrary

/-- A job whose session is to be started at a target. -/
def targetedJob : Checked AgentJob := do
  let job ← AgentJob.new
    { id              := "0123456789ab"
      request         := "add a test"
      createdAt       := 1
      foregroundUntil := 2
      harnessKind     := .cursor
      details         := Values.empty }
  let held ← job.evolve [.put .participantAdmissionState (some .held)]
  held.evolve [.put (.text .herdrTarget) (some "voice-1")]

/-- The session of an agent that was found absent, with its identity. -/
def absentSession : AgentSessionOperation where
  state      := .confirmedAbsent
  spec       := ⟨"voice-1", "/repository", "workspace", "pane", by decide⟩
  session    := some ⟨"cursor", "session-1", "voice-1", 3, by decide⟩
  sameTarget := by
    rintro _ ⟨⟩
    rfl
  settled    := by decide

/-- A new session, of an agent whose identity is not known. -/
def freshSession : AgentSessionOperation where
  state      := .dispatching
  spec       := ⟨"voice-2", "/repository", "workspace", "pane", by decide⟩
  session    := none
  sameTarget := by simp
  settled    := by decide

/-- A session without an identity is read back from a job without one. -/
theorem isFaithful_fresh :
    ∃ raw job next, AgentJob.fromDict raw = .ok job ∧
      job.evolve (TypedOperation.agentSession freshSession).fields = .ok next ∧
      (TypedOperation.agentSession freshSession).IsFaithful job next := by
  have hrun : targetedJob.toOption.any (fun job ↦
      (AgentJob.fromDict job.toDict).toOption.any fun read ↦
        (read.evolve (TypedOperation.agentSession freshSession).fields).toOption.isSome &&
          decide (read.values.text .agentProvider = none) &&
          decide (read.values.text .agentProviderSessionId = none) &&
          decide (read.values.int .agentStateSequence = none)) = true := by decide +kernel
  simp only [Option.any_eq_true, Bool.and_eq_true, decide_eq_true_eq, Option.isSome_iff_exists] at hrun
  obtain ⟨job, -, read, hread, ⟨⟨⟨next, hstep⟩, hprovider⟩, hid⟩, hsequence⟩ := hrun
  have hfrom := checked_toOption_eq_some_iff.mp hread
  have hnext := checked_toOption_eq_some_iff.mp hstep
  exact ⟨job.toDict, read, next, hfrom, hnext,
    (isFaithful_iff hfrom _ none hnext).mpr (.inr ⟨hprovider, hid, hsequence⟩)⟩

/-- The session that is started after an agent was found absent takes over its identity. -/
theorem not_isFaithful_fresh :
    ∃ raw job next, AgentJob.fromDict raw = .ok job ∧
      job.evolve (TypedOperation.agentSession freshSession).fields = .ok next ∧
      freshSession.session = none ∧
      next.values.agentSessionOperation.toOption.any (fun read ↦ read.any fun operation ↦
        operation.session.any (·.sessionId = "session-1")) = true ∧
      ¬ (TypedOperation.agentSession freshSession).IsFaithful job next := by
  have hrun : targetedJob.toOption.any (fun job ↦
      (job.evolve absentSession.fields).toOption.any fun absent ↦
        (AgentJob.fromDict absent.toDict).toOption.any fun read ↦
          (read.evolve (TypedOperation.agentSession freshSession).fields).toOption.any fun next ↦
            next.values.agentSessionOperation.toOption.any fun read ↦ read.any fun operation ↦
              operation.session.any (·.sessionId = "session-1")) = true := by decide +kernel
  simp only [Option.any_eq_true] at hrun
  obtain ⟨job, -, absent, -, read, hread, next, hstep, found, hfound, operation, rfl, session,
    hsession, hid⟩ := hrun
  refine ⟨absent.toDict, read, next, checked_toOption_eq_some_iff.mp hread,
    checked_toOption_eq_some_iff.mp hstep, rfl, ?_, fun hfaithful ↦ ?_⟩
  · rw [hfound]
    show operation.session.any (·.sessionId = "session-1") = true
    rw [hsession]
    exact hid
  · have hback : next.values.agentSessionOperation = .ok (some freshSession) := hfaithful.readBack
    rw [hback] at hfound
    obtain rfl := Option.some.inj (Option.some.inj hfound)
    cases hsession

end

end VoiceHarness
