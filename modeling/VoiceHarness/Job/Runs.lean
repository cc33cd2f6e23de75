import VoiceHarness.Job.Manual
import VoiceHarness.Job.Frame

/-!
# Runs of a job

A job starts with `new` and moves by `transition`, `evolve`, `evolve_recovery`,
`record_operation_observation` and `resolve_manual_operation`. `Reached` is the states of such runs,
under a condition on the steps.

Every record builder keeps to the vocabulary of fields: only the changes a caller names, and the
confirmed absence of a pane, write a key outside of it (`Reached.inVocabulary`).
-/

set_option autoImplicit false
set_option relaxedAutoImplicit false

namespace VoiceHarness

/-- The ways a job moves to its next revision. -/
inductive JobStep
  | transition (status : JobStatus) (changes : List Change)
  | evolve (changes : List Change) (status : Option JobStatus) (remove : List Field)
  | evolveRecovery (changes : List Change) (now : Time) (status : Option JobStatus)
      (remove : List Field) (prepareDelivery : Bool)
  | observe (operation : ObservedOperation) (expectedStates : List OperationLabel) (now : Time)
      (observedAbsent : Bool) (token : String) (limits : ReconcileLimits)
  | resolve (operation : ManualOperation) (outcome : AgentJob.ManualOutcome) (now : Time)
      (paneId workspaceId : Option String) (jobChanges : List Change)

namespace AgentJob

variable [TextLibrary]

/-- The job after a step; a step may leave it as it is. -/
def apply (job : AgentJob) : JobStep → Checked AgentJob
  | .transition status changes => job.transition status changes
  | .evolve changes status remove => job.evolve changes status remove
  | .evolveRecovery changes now status remove prepareDelivery =>
    job.evolveRecovery changes now status remove prepareDelivery
  | .observe operation expectedStates now observedAbsent token limits =>
    (·.getD job) <$> job.recordOperationObservation operation expectedStates now observedAbsent
      token limits
  | .resolve operation outcome now paneId workspaceId jobChanges =>
    (·.getD job) <$> job.resolveManualOperation operation outcome now paneId workspaceId jobChanges

/-- The jobs of the runs whose steps all meet a condition. -/
inductive Reached (condition : AgentJob → JobStep → Prop) : AgentJob → Prop
  | new {spec : NewAgentJob} {job : AgentJob} (h : new spec = .ok job) : Reached condition job
  | step {job next : AgentJob} {step : JobStep} (before : Reached condition job)
      (allowed : condition job step) (h : job.apply step = .ok next) : Reached condition next

/-- The jobs of all runs. -/
abbrev Reachable : AgentJob → Prop := Reached fun _ _ ↦ True

theorem Reached.reachable {condition : AgentJob → JobStep → Prop} {job : AgentJob}
    (h : Reached condition job) : Reachable job := by
  induction h with
  | new h => exact .new h
  | step _ _ h ih => exact .step ih trivial h

/-- The job after some steps. -/
def runSteps (job : AgentJob) : List JobStep → Checked AgentJob
  | [] => .ok job
  | step :: steps => do (← job.apply step).runSteps steps

theorem Reachable.runSteps {job next : AgentJob} (h : Reachable job) {steps : List JobStep}
    (hrun : job.runSteps steps = .ok next) : Reachable next := by
  induction steps generalizing job with
  | nil =>
    cases hrun
    exact h
  | cons step steps ih =>
    obtain ⟨stepped, hstep, hrun⟩ := checked_bind_eq_ok_iff.mp hrun
    exact ih (.step h trivial hstep) hrun

end AgentJob

/-! ### The vocabulary of fields -/

/-- The changes name fields of the vocabulary. -/
def ChangesInVocabulary (changes : List Change) : Prop :=
  ∀ change ∈ changes, change.1.isOther = false

namespace ChangesInVocabulary

theorem append {first second : List Change} (hfirst : ChangesInVocabulary first)
    (hsecond : ChangesInVocabulary second) : ChangesInVocabulary (first ++ second) :=
  List.forall_mem_append.mpr ⟨hfirst, hsecond⟩

theorem ite {condition : Prop} [Decidable condition] {first second : List Change}
    (hfirst : ChangesInVocabulary first) (hsecond : ChangesInVocabulary second) :
    ChangesInVocabulary (if condition then first else second) := by
  split_ifs
  · exact hfirst
  · exact hsecond

end ChangesInVocabulary

namespace Values

/-- Every field of the record is one of the vocabulary. -/
def InVocabulary (values : Values) : Prop := ∀ name, values (.other name) = .absent

namespace InVocabulary

variable {values other : Values}

theorem empty : Values.empty.InVocabulary := fun _ ↦ rfl

theorem set (h : values.InVocabulary) {field : Field} (hfield : field.isOther = false)
    (cell : Cell field.type) : (values.set field cell).InVocabulary := by
  intro name
  have hne : Field.other name ≠ field := by
    rintro rfl
    exact absurd hfield (by simp [Field.isOther])
  rw [set_of_ne _ _ hne, h name]

theorem update (h : values.InVocabulary) {changes : List Change}
    (hchanges : ChangesInVocabulary changes) : (values.update changes).InVocabulary := by
  induction changes generalizing values with
  | nil => exact h
  | cons change changes ih =>
    rw [update_cons]
    exact ih (h.set (hchanges change List.mem_cons_self) _)
      fun other hother ↦ hchanges other (List.mem_cons_of_mem _ hother)

theorem popAll (h : values.InVocabulary) (fields : List Field) :
    (values.popAll fields).InVocabulary := by
  intro name
  by_cases hmem : Field.other name ∈ fields
  · exact popAll_of_mem _ hmem
  · rw [popAll_of_notMem _ hmem, h name]

theorem ite {condition : Prop} [Decidable condition] (h : values.InVocabulary)
    (hother : other.InVocabulary) : (if condition then values else other).InVocabulary := by
  split_ifs
  · exact h
  · exact hother

theorem canonicalise [TextLibrary] (h : values.InVocabulary)
    (hcanonical : values.canonicalise = .ok other) : other.InVocabulary := by
  intro name
  have hkept : Field.other name ∉ canonicalFields := by simp [canonicalFields]
  rw [agreeOff_canonicalise hcanonical _ hkept, h name]

theorem pairAnnouncementAck (h : values.InVocabulary) : values.pairAnnouncementAck.InVocabulary :=
  (((h.set rfl _).ite h).ite ((h.set rfl _).ite h))

theorem pairWorkerOwnership (h : values.InVocabulary) : values.pairWorkerOwnership.InVocabulary := by
  have hclaim : ChangesInVocabulary claimFields := by
    simp [ChangesInVocabulary, claimFields, Field.isOther]
  exact h.ite ((h.update hclaim).ite ((h.set rfl _).ite h))

theorem pairSession (h : values.InVocabulary) (changes : List Change) :
    (values.pairSession changes).InVocabulary :=
  (h.set rfl _).ite ((h.set rfl _).ite h)

theorem stamp (h : values.InVocabulary) (status : JobStatus) (revision : ℤ) :
    (values.stamp status revision).InVocabulary :=
  h.update (by simp [ChangesInVocabulary, Field.isOther])

theorem releaseManualSlot (h : values.InVocabulary) : values.releaseManualSlot.InVocabulary :=
  (h.update (by simp [ChangesInVocabulary, Field.isOther])).ite h

end InVocabulary

end Values

namespace AgentJob

section

variable {job next : AgentJob}

theorem inVocabulary_evolvedRecord (h : job.values.InVocabulary) {changes : List Change}
    (hchanges : ChangesInVocabulary changes) (status : Option JobStatus) (remove : List Field) :
    (job.evolvedRecord changes status remove).InVocabulary := by
  have hchanged : ((job.values.popAll remove).update
      changes).pairAnnouncementAck.pairWorkerOwnership.InVocabulary :=
    ((h.popAll remove).update hchanges).pairAnnouncementAck.pairWorkerOwnership
  unfold evolvedRecord
  exact (((hchanged.popAll _).ite hchanged).releaseManualSlot.pairSession changes).stamp _ _

/-- The texts of a recovery are fields of the vocabulary. -/
theorem inVocabulary_recoveryTexts (values : Values) (status : JobStatus) :
    ChangesInVocabulary (job.recoveryTexts values status).1 := by
  have hfields := job.recoveryTexts_fields values status
  intro change hchange
  have hmem := hfields (List.mem_map_of_mem hchange)
  simp only [List.mem_cons, List.not_mem_nil, or_false] at hmem
  rcases hmem with h | h | h <;> rw [h] <;> rfl

theorem inVocabulary_deliveryFields (state : DeliveryState) : ChangesInVocabulary state.fields := by
  cases state <;> simp [ChangesInVocabulary, DeliveryState.fields, Field.isOther]

theorem inVocabulary_cleanupFields (state : CleanupState) : ChangesInVocabulary state.fields := by
  cases state <;> simp [ChangesInVocabulary, CleanupState.fields, Field.isOther]

theorem inVocabulary_preparedDelivery (now : Time) :
    ChangesInVocabulary (job.preparedDelivery now) := by
  unfold preparedDelivery
  rcases job.values.deliveryState with message | state
  · simp [ChangesInVocabulary]
  · exact (inVocabulary_deliveryFields _).append (by
      simp [ChangesInVocabulary, Field.isOther])

theorem inVocabulary_recoveredRecord (h : job.values.InVocabulary) {changes : List Change}
    (hchanges : ChangesInVocabulary changes) (now : Time) (status : Option JobStatus)
    (remove : List Field) (prepareDelivery : Bool) :
    (job.recoveredRecord changes now status remove prepareDelivery).InVocabulary := by
  have hchanged : ((job.values.popAll remove).update changes).pairWorkerOwnership.InVocabulary :=
    ((h.popAll remove).update hchanges).pairWorkerOwnership
  unfold recoveredRecord
  extract_lets changed fenced final values texts told kept delivered
  have hfenced : fenced.InVocabulary := (hchanged.popAll _).ite hchanged
  have hvalues : values.InVocabulary := (hfenced.pairSession changes).update (by
    simp [ChangesInVocabulary, Field.isOther])
  have htold : told.InVocabulary := hvalues.update (inVocabulary_recoveryTexts _ _)
  have hkept : kept.InVocabulary := (htold.update (by
    simp [ChangesInVocabulary, Field.isOther])).ite htold
  have hdelivered : delivered.InVocabulary :=
    (hkept.update (inVocabulary_preparedDelivery now)).ite hkept
  exact hdelivered.update (by simp [ChangesInVocabulary, Field.isOther])

/-- The changes of an observation are fields of the vocabulary. -/
theorem inVocabulary_conclusionChanges {operation : ObservedOperation} {now : Time}
    {token : String} {attempts : ℤ} {limits : ReconcileLimits} {conclusion : Conclusion}
    {changes : List Change}
    (h : job.conclusionChanges operation now token attempts limits conclusion = .ok changes) :
    ChangesInVocabulary changes := by
  have hobserved : ∀ checkout session label state,
      job.observedState operation checkout session label = .ok state →
        ChangesInVocabulary state := by
    intro checkout session label state hstate
    unfold observedState at hstate
    cases operation with
    | worktree =>
      obtain ⟨current, -, hstate⟩ := checked_bind_eq_ok_iff.mp hstate
      cases current with
      | none =>
        cases hstate
        simp [ChangesInVocabulary, Field.isOther]
      | some current =>
        obtain ⟨moved, -, hstate⟩ := checked_bind_eq_ok_iff.mp hstate
        cases hstate
        simp [ChangesInVocabulary, CheckoutOperation.fields, Field.isOther]
    | agent =>
      obtain ⟨current, -, hstate⟩ := checked_bind_eq_ok_iff.mp hstate
      cases current with
      | none =>
        cases hstate
        simp [ChangesInVocabulary, Field.isOther]
      | some current =>
        obtain ⟨moved, -, hstate⟩ := checked_bind_eq_ok_iff.mp hstate
        cases hstate
        unfold AgentSessionOperation.fields
        refine ChangesInVocabulary.append ?_ ?_
        · simp [ChangesInVocabulary, Field.isOther]
        · cases moved.session <;> simp [ChangesInVocabulary, Field.isOther]
    | fork =>
      cases hstate
      simp [ChangesInVocabulary, Field.isOther]
  have hdropped : ChangesInVocabulary job.droppedParticipant := by
    unfold droppedParticipant
    cases job.values.activeParticipant <;> simp [ChangesInVocabulary, Field.isOther]
  cases conclusion with
  | confirmAbsent =>
    obtain ⟨state, hstate, h⟩ := checked_bind_eq_ok_iff.mp h
    obtain ⟨cleanup, -, h⟩ := checked_bind_eq_ok_iff.mp h
    cases h
    refine (((hobserved _ _ _ _ hstate).append ?_).append (inVocabulary_cleanupFields _)).append
      (ChangesInVocabulary.ite (ChangesInVocabulary.append ?_ hdropped) ?_)
    · simp [ChangesInVocabulary, Field.isOther]
    · simp [ChangesInVocabulary, droppedAgent, Field.isOther]
    · simp [ChangesInVocabulary]
  | requireManual =>
    obtain ⟨state, hstate, h⟩ := checked_bind_eq_ok_iff.mp h
    obtain ⟨cleanup, -, h⟩ := checked_bind_eq_ok_iff.mp h
    cases h
    refine ((((hobserved _ _ _ _ hstate).append ?_).append ?_).append ?_).append
      (inVocabulary_cleanupFields _)
    · simp [ChangesInVocabulary, Field.isOther]
    · simp [ChangesInVocabulary, manualSlot, Field.isOther]
    · simp [ChangesInVocabulary, Field.isOther]
  | retry =>
    obtain ⟨delay, -, h⟩ := checked_bind_eq_ok_iff.mp h
    cases h
    simp [ChangesInVocabulary, Field.isOther]

/-- What an operation writes when it is resolved are fields of the vocabulary. -/
theorem inVocabulary_resolvedOperation {operation : ManualOperation} {outcome : ManualOutcome}
    {paneId workspaceId : Option String} {resolved : List Change}
    (h : job.resolvedOperation outcome paneId workspaceId operation = .ok (some resolved)) :
    ChangesInVocabulary resolved := by
  cases operation with
  | prompt =>
    cases outcome <;>
      · cases h
        simp [ChangesInVocabulary, Field.isOther]
  | fork =>
    cases outcome with
    | confirmedAbsent =>
      cases h
      simp [ChangesInVocabulary, Field.isOther]
    | materialized =>
      simp only [resolvedOperation] at h
      split_ifs at h
      · cases h
        simp [ChangesInVocabulary, Field.isOther]
      · exact absurd h (by simp)
  | agent =>
    cases outcome with
    | confirmedAbsent =>
      cases h
      unfold absentAgent droppedParticipant
      cases job.values.activeParticipant <;>
        simp [ChangesInVocabulary, droppedAgent, Field.isOther]
    | materialized =>
      simp only [resolvedOperation] at h
      split_ifs at h
      · cases h
        simp [ChangesInVocabulary, Field.isOther]
      · exact absurd h (by simp)
  | worktree =>
    cases outcome with
    | confirmedAbsent =>
      cases h
      simp [ChangesInVocabulary, Field.isOther]
    | materialized =>
      obtain ⟨checkout, -, h⟩ := checked_bind_eq_ok_iff.mp h
      rcases checkout with _ | checkout
      · exact absurd h (by simp)
      · simp only at h
        split_ifs at h
        · split at h
          · exact absurd h (by simp)
          · cases h
            simp [ChangesInVocabulary, CheckoutOperation.fields, Field.isOther]
        · exact absurd h (by simp)
  | pane =>
    cases outcome with
    | confirmedAbsent =>
      cases h
      simp [ChangesInVocabulary, Field.isOther]
    | materialized =>
      simp only [resolvedOperation] at h
      split_ifs at h
      · obtain ⟨lifecycle, -, h⟩ := checked_bind_eq_ok_iff.mp h
        split at h
        · exact absurd h (by simp)
        · cases h
          simp [ChangesInVocabulary, Field.isOther]
      · exact absurd h (by simp)

/-- The changes of a resolution are fields of the vocabulary, the confirmed absence of a pane
aside. -/
theorem inVocabulary_resolutionChanges {operation : ManualOperation} {outcome : ManualOutcome}
    (hpane : operation = .pane → outcome ≠ .confirmedAbsent) {now : Time}
    {paneId workspaceId : Option String} {cleanup : CleanupState} {resolved : List Change}
    (h : job.resolvedOperation outcome paneId workspaceId operation = .ok (some resolved)) :
    ChangesInVocabulary (job.resolutionChanges operation outcome now cleanup resolved) := by
  have hresolved := inVocabulary_resolvedOperation h
  have htime : ChangesInVocabulary (resolvedAt now operation outcome) := by
    cases operation <;> cases outcome <;>
      first
        | exact absurd rfl (hpane rfl)
        | simp [ChangesInVocabulary, resolvedAt, Field.isOther]
  unfold resolutionChanges
  refine ((ChangesInVocabulary.append ?_ htime).append (inVocabulary_cleanupFields _)).append
    hresolved
  simp [ChangesInVocabulary, releasedSlot, Field.isOther]

variable [TextLibrary]

theorem inVocabulary_fromDict {raw : Values} (h : raw.InVocabulary)
    (hjob : fromDict raw = .ok job) : job.values.InVocabulary := by
  obtain ⟨values, hcanonical, hvalues⟩ := fromDict_ok hjob
  rw [hvalues]
  exact h.canonicalise hcanonical

theorem inVocabulary_evolveRecovery (h : job.values.InVocabulary) {changes : List Change}
    (hchanges : ChangesInVocabulary changes) {now : Time} {status : Option JobStatus}
    {remove : List Field} {prepareDelivery : Bool}
    (hnext : job.evolveRecovery changes now status remove prepareDelivery = .ok next) :
    next.values.InVocabulary := by
  obtain ⟨updated, hupdated, hvalues, -⟩ := evolveRecovery_ok hnext
  rw [hvalues]
  exact inVocabulary_fromDict (inVocabulary_recoveredRecord h hchanges _ _ _ _) hupdated

end

end AgentJob

/-- The step writes fields of the vocabulary: the changes of its caller name no other, and it does
not resolve a pane as confirmed absent. -/
def JobStep.KeepsVocabulary : JobStep → Prop
  | .transition _ changes => ChangesInVocabulary changes
  | .evolve changes _ _ => ChangesInVocabulary changes
  | .evolveRecovery changes _ _ _ _ => ChangesInVocabulary changes
  | .observe .. => True
  | .resolve operation outcome _ _ _ jobChanges =>
    (operation = .pane → outcome ≠ .confirmedAbsent) ∧ ChangesInVocabulary jobChanges

namespace AgentJob

variable [TextLibrary] {job next : AgentJob}

/-- A new job has fields of the vocabulary. -/
theorem inVocabulary_new {spec : NewAgentJob} (h : new spec = .ok job) :
    job.values.InVocabulary := by
  refine inVocabulary_fromDict ?_ h
  refine (Values.InVocabulary.empty.update ?_).update ?_
  · intro change hchange
    obtain ⟨field, hfield, rfl⟩ := List.mem_map.mp hchange
    have hdetail : ∀ field ∈ NewAgentJob.detailFields, field.isOther = false := by decide
    exact hdetail field hfield
  · simp [ChangesInVocabulary, Field.isOther]

theorem inVocabulary_apply (h : job.values.InVocabulary) {step : JobStep}
    (hstep : step.KeepsVocabulary) (hnext : job.apply step = .ok next) :
    next.values.InVocabulary := by
  cases step with
  | transition status changes =>
    obtain ⟨revision, hrecord, -⟩ := transition_ok hnext
    exact inVocabulary_fromDict
      (((h.update hstep).pairWorkerOwnership.pairSession changes).stamp status revision) hrecord
  | evolve changes status remove =>
    exact inVocabulary_fromDict (inVocabulary_evolvedRecord h hstep status remove)
      (evolve_ok hnext).1
  | evolveRecovery changes now status remove prepareDelivery =>
    exact inVocabulary_evolveRecovery h hstep hnext
  | observe operation expectedStates now observedAbsent token limits =>
    obtain ⟨observed, hobserved, heq⟩ := checked_map_eq_ok_iff.mp hnext
    cases observed with
    | none =>
      cases heq
      exact h
    | some observed =>
      cases heq
      obtain ⟨state, -, -, attempts, absent, changes, hchanges, hrecovered⟩ :=
        recordOperationObservation_ok hobserved
      refine inVocabulary_evolveRecovery h ?_ hrecovered
      refine (ChangesInVocabulary.append ?_ (ChangesInVocabulary.ite ?_ ?_)).append
        (inVocabulary_conclusionChanges hchanges) <;> simp [ChangesInVocabulary, Field.isOther]
  | resolve operation outcome now paneId workspaceId jobChanges =>
    obtain ⟨resolved, hresolved, heq⟩ := checked_map_eq_ok_iff.mp hnext
    cases resolved with
    | none =>
      cases heq
      exact h
    | some resolved =>
      cases heq
      obtain ⟨cleanup, changes, -, hchanges, hrecovered⟩ := resolveManualOperation_ok hresolved
      exact inVocabulary_evolveRecovery h
        ((inVocabulary_resolutionChanges hstep.1 hchanges).append hstep.2) hrecovered

/-- A run whose steps keep to the vocabulary makes jobs of the vocabulary. -/
theorem Reached.inVocabulary (h : Reached (fun _ step ↦ step.KeepsVocabulary) job) :
    job.values.InVocabulary := by
  induction h with
  | new h => exact inVocabulary_new h
  | step _ allowed h ih => exact inVocabulary_apply ih allowed h

end AgentJob

end VoiceHarness
