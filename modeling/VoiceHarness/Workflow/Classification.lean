import VoiceHarness.Job.Outcome

/-!
# The classification of a workflow

What the workflow part of `validate_transition` keeps over a whole run of a job: the classification
stays and only grows in risk, and the phase follows the legal edges.
-/

set_option autoImplicit false
set_option relaxedAutoImplicit false

namespace VoiceHarness

namespace WorkflowState

variable {previous current workflow : WorkflowState} {phase : WorkflowPhase}

theorem make_ok {classification : Option WorkflowClassification}
    (h : make phase classification = .ok workflow) :
    workflow.phase = phase ∧ workflow.classification = classification := by
  unfold make at h
  split at h
  · split at h
    · cases h
      exact ⟨rfl, rfl⟩
    · cases h
  · cases h

theorem classify_ok {tier : WorkflowTier} {reason : String}
    (h : previous.classify tier reason = .ok workflow) :
    previous.phase = .classifying ∧
      workflow.phase = (if tier = .simple then .implementing else .planning) ∧
      ∃ classification, workflow.classification = some classification ∧
        classification.tier = tier ∧ classification.reason = reason := by
  unfold classify at h
  split at h
  · cases h
  next hphase =>
  obtain ⟨classification, hclassification, h⟩ := checked_bind_eq_ok_iff.mp h
  obtain ⟨hreached, hstored⟩ := make_ok h
  unfold WorkflowClassification.make at hclassification
  split at hclassification
  · cases hclassification
    exact ⟨not_not.mp hphase, hreached, _, hstored, rfl, rfl⟩
  · cases hclassification

/-- A transition stays in its phase or takes a legal edge. -/
theorem transition_ok (h : previous.transition phase = .ok workflow) :
    phase = previous.phase ∨ phase ∈ previous.phase.legalEdges := by
  unfold transition at h
  split at h
  · next hsame => exact .inl hsame
  · split at h
    · cases h
    · next hlegal => exact .inr (not_not.mp hlegal)

end WorkflowState

/-- A promotion increases the risk. -/
theorem WorkflowClassification.promote_ok {classification promoted : WorkflowClassification}
    {tier : WorkflowTier} {reason : String}
    (h : classification.promote tier reason = .ok promoted) :
    promoted.tier = tier ∧ promoted.reason = reason ∧
      classification.tier.order < promoted.tier.order := by
  unfold promote at h
  obtain ⟨made, hmade, h⟩ := checked_bind_eq_ok_iff.mp h
  unfold make at hmade
  split at hmade
  · cases hmade
    split at h
    · cases h
    · split at h
      · cases h
      · next hle hne =>
        cases h
        have : classification.tier.order < tier.order := by
          have hle : ¬ tier.order < classification.tier.order := hle
          have hne : ¬ tier.order = classification.tier.order := hne
          omega
        exact ⟨rfl, rfl, this⟩
  · cases hmade

/-! ### One transition -/

/-- The classification stays, or it is replaced by one of more risk. -/
def WorkflowState.KeepsClassification (previous current : WorkflowState) : Prop :=
  ∀ classification, previous.classification = some classification →
    ∃ next, current.classification = some next ∧
      (next = classification ∨ classification.tier.order < next.tier.order)

/-- What one accepted step of a workflow does. -/
structure WorkflowState.Advances (previous current : WorkflowState) : Prop where
  keeps : previous.KeepsClassification current
  edge : current.phase = previous.phase ∨ current.phase ∈ previous.phase.legalEdges
  first : previous.classification = none → ∀ classification,
    current.classification = some classification →
      previous.classify classification.tier classification.reason = .ok current

theorem WorkflowState.KeepsClassification.trans {first second third : WorkflowState}
    (h : first.KeepsClassification second) (hthird : second.KeepsClassification third) :
    first.KeepsClassification third := by
  intro classification hclassification
  obtain ⟨next, hnext, hrisk⟩ := h classification hclassification
  obtain ⟨last, hlast, hhigher⟩ := hthird next hnext
  refine ⟨last, hlast, ?_⟩
  rcases hrisk with rfl | hrisk
  · exact hhigher
  · rcases hhigher with rfl | hhigher
    · exact .inr hrisk
    · exact .inr (Nat.lt_trans hrisk hhigher)

theorem validateWorkflow_ok {previous current : WorkflowState}
    (h : validateWorkflow previous current = .ok ()) : previous.Advances current := by
  unfold validateWorkflow at h
  split at h
  · next classification hnone hclassified =>
    obtain ⟨expected, hexpected, h⟩ := checked_bind_eq_ok_iff.mp h
    split at h
    · cases h
    next hsame =>
    have hsame : expected = current := not_not.mp hsame
    subst hsame
    obtain ⟨hphase, hreached, -⟩ := WorkflowState.classify_ok hexpected
    refine ⟨?_, .inr ?_, ?_⟩
    · intro classification hclassification
      rw [hnone] at hclassification
      cases hclassification
    · rw [hreached, hphase]
      split <;> simp [WorkflowPhase.legalEdges]
    · intro _ stored hstored
      rw [hclassified] at hstored
      cases hstored
      exact hexpected
  · next hnone hnothing =>
    refine ⟨?_, ?_, ?_⟩
    · intro classification hclassification
      rw [hnone] at hclassification
      cases hclassification
    · split at h
      · obtain ⟨workflow, hworkflow⟩ := parses_eq_ok_iff.mp h
        exact WorkflowState.transition_ok hworkflow
      · next hsame => exact .inl (not_not.mp hsame).symm
    · intro _ stored hstored
      rw [hnothing] at hstored
      cases hstored
  · cases h
  · next classification next hclassified hnext =>
    -- the classification the phase edge is checked under, kept or promoted
    have hpromoted : ∃ promoted, (next = classification ∨
        classification.promote next.tier next.reason = .ok promoted) ∧
        (WorkflowState.make previous.phase (some promoted) >>= fun workflow ↦
          parses (workflow.transition current.phase)) = .ok () := by
      dsimp only at h
      split at h
      · obtain ⟨promoted, hpromoted, h⟩ := checked_bind_eq_ok_iff.mp h
        exact ⟨promoted, .inr hpromoted, h⟩
      · next hsame => exact ⟨classification, .inl (not_not.mp hsame), h⟩
    obtain ⟨promoted, hrisk, hphase⟩ := hpromoted
    obtain ⟨workflow, hworkflow, hphase⟩ := checked_bind_eq_ok_iff.mp hphase
    obtain ⟨moved, hmoved⟩ := parses_eq_ok_iff.mp hphase
    refine ⟨?_, ?_, ?_⟩
    · intro stored hstored
      rw [hclassified] at hstored
      cases hstored
      refine ⟨next, hnext, ?_⟩
      rcases hrisk with hsame | hpromoted
      · exact .inl hsame
      · obtain ⟨htier, -, hhigher⟩ := WorkflowClassification.promote_ok hpromoted
        exact .inr (htier ▸ hhigher)
    · rw [← (WorkflowState.make_ok hworkflow).1]
      exact WorkflowState.transition_ok hmoved
    · intro hnone
      rw [hclassified] at hnone
      cases hnone

/-! ### Jobs -/

namespace AgentJob

theorem workflowState_ok (job : AgentJob) :
    ∃ workflow, job.values.workflowState = .ok workflow := by
  have hparses : parses job.values.workflowState = .ok () :=
    job.adapter_check (by simp [Values.adapterChecks])
  exact parses_eq_ok_iff.mp hparses

/-- The workflow of a job, which every job has. -/
def workflow (job : AgentJob) : WorkflowState :=
  match h : job.values.workflowState with
  | .ok workflow => workflow
  | .error _ => absurd job.workflowState_ok (by simp [h])

theorem workflowState_eq (job : AgentJob) : job.values.workflowState = .ok job.workflow := by
  unfold workflow
  split
  · next workflow h => exact h
  · next message h => exact absurd job.workflowState_ok (by simp [h])

end AgentJob

theorem validateTransition_workflow {before after : AgentJob}
    (h : validateTransition before after = .ok ()) :
    before.workflow.Advances after.workflow := by
  unfold validateTransition at h
  simp only [checked_bind_eq_ok_iff] at h
  obtain ⟨-, -, -, -, -, -, -, -, -, -, -, -, h⟩ := h
  obtain ⟨-, -, -, -, -, -, -, -, -, -, -, -, -, -, -, -, previous, hprevious, current, hcurrent,
    ⟨⟩, hworkflow, -⟩ := h
  rw [before.workflowState_eq] at hprevious
  rw [after.workflowState_eq] at hcurrent
  cases hprevious
  cases hcurrent
  exact validateWorkflow_ok hworkflow

/-! ### Runs -/

/-- A run of transitions that `validate_transition` accepts. -/
abbrev AcceptedRun := { run : List AgentJob // IsRun run }

/-- A later workflow of a run: the classification was kept, and a finished one is still finished. -/
structure WorkflowState.Precedes (earlier later : WorkflowState) : Prop where
  keeps : earlier.KeepsClassification later
  finished : earlier.phase = .finished → later.phase = .finished

theorem WorkflowState.Advances.precedes {previous current : WorkflowState}
    (h : previous.Advances current) : previous.Precedes current := by
  refine ⟨h.keeps, fun hfinished ↦ ?_⟩
  rcases h.edge with hsame | hlegal
  · rw [hsame, hfinished]
  · rw [hfinished] at hlegal
    cases hlegal

/-- Over every run the classification of a job is never discarded, and changes only by a strict
increase of its risk; the first one selects the phase; the phase follows the legal edges, a finished
workflow stays finished, an implementation returns to planning only in a tier that plans, and a simple
workflow is in no planning or review phase. -/
theorem classification_law (run : AcceptedRun) :
    run.1.Pairwise (fun earlier later ↦ earlier.workflow.Precedes later.workflow) ∧
    run.1.IsChain (fun before after ↦ before.workflow.Advances after.workflow ∧
      (before.workflow.phase = .implementing → after.workflow.phase = .planning →
        after.workflow.classification.map (·.tier) = some .medium ∨
          after.workflow.classification.map (·.tier) = some .highRisk)) ∧
    ∀ job ∈ run.1, job.workflow.classification.map (·.tier) = some .simple →
      job.workflow.phase.isReviewed = false := by
  have hsteps : run.1.IsChain fun before after ↦ before.workflow.Advances after.workflow :=
    run.2.imp fun before after ↦ validateTransition_workflow
  refine ⟨?_, hsteps.imp fun before after hstep ↦ ⟨hstep, fun _ hplanning ↦ ?_⟩,
    fun job _ hsimple ↦ job.workflow.simple_unreviewed hsimple⟩
  · have htrans : Trans (fun first second : AgentJob ↦ first.workflow.Precedes second.workflow)
        (fun first second : AgentJob ↦ first.workflow.Precedes second.workflow)
        (fun first second : AgentJob ↦ first.workflow.Precedes second.workflow) :=
      ⟨fun hfirst hsecond ↦ ⟨hfirst.keeps.trans hsecond.keeps,
        fun hfinished ↦ hsecond.finished (hfirst.finished hfinished)⟩⟩
    exact (hsteps.imp fun before after hstep ↦ hstep.precedes).pairwise
  · have hclassified := after.workflow.classified (by rw [hplanning]; simp)
    obtain ⟨classification, hclassification⟩ := Option.isSome_iff_exists.mp hclassified
    have hsimple := after.workflow.simple_unreviewed
    rw [hclassification] at hsimple ⊢
    simp only [Option.map_some, Option.some.injEq, hplanning] at hsimple ⊢
    cases htier : classification.tier with
    | simple => simpa [htier, WorkflowPhase.isReviewed] using hsimple htier
    | medium => exact .inl rfl
    | highRisk => exact .inr rfl

end VoiceHarness
