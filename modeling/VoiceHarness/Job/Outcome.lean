import VoiceHarness.Job.Canonical
import Mathlib.Data.List.Chain

/-!
# Terminal outcomes

A job that is to end stages its outcome, releases the agent's targets, and only then materialises the
outcome. A materialised outcome is immutable over every run of accepted transitions. A staged one is
kept as long as no step clears it into another status: `validate_transition` compares the statuses of
two intents, and lets a step that drops the intent pass.
-/

set_option autoImplicit false
set_option relaxedAutoImplicit false

namespace VoiceHarness

/-! ### The outcome of a record -/

theorem TerminalOutcome.make_ok {status : JobStatus} {result : String} {error : Option String}
    {completedAt : Time} {outcome : TerminalOutcome}
    (h : make status result error completedAt = .ok outcome) :
    outcome.status = status ∧ outcome.result = result ∧ outcome.error = error ∧
      outcome.completedAt = completedAt := by
  unfold make at h
  split_ifs at h
  cases h
  exact ⟨rfl, rfl, rfl, rfl⟩

namespace Values

variable {values : Values} {outcome : TerminalOutcome}

/-- The record of a job that ended says how it ended. -/
theorem materialized_ok (h : values.terminalState = .ok (.materialized outcome)) :
    values.terminalIntentStatus = none ∧ values.status = outcome.status ∧
      values.text .result = some outcome.result ∧ values.text .error = outcome.error ∧
      values.float .completedAt = some outcome.completedAt := by
  unfold terminalState loadTerminalState at h
  rcases hintent : values.terminalIntentStatus with _ | status
  · simp only [hintent] at h
    split_ifs at h
    · split at h
      next result completedAt hresult hcompleted =>
        obtain ⟨made, hmade, hsame⟩ := checked_map_eq_ok_iff.mp h
        cases hsame
        obtain ⟨hstatus, hmadeResult, herror, hmadeAt⟩ := TerminalOutcome.make_ok hmade
        exact ⟨rfl, hstatus.symm, by rw [hresult, hmadeResult], herror.symm,
          by rw [hcompleted, hmadeAt]⟩
      next => cases h
    · cases h
  · simp only [hintent] at h
    split at h
    next =>
      obtain ⟨made, -, hsame⟩ := checked_map_eq_ok_iff.mp h
      cases hsame
    next => cases h

/-- A job that ended, and stages nothing, has materialised its outcome. -/
theorem materialized_of_terminal {state : TerminalState} (h : values.terminalState = .ok state)
    (hintent : values.terminalIntentStatus = none) (hterminal : values.status.isTerminal = true) :
    ∃ outcome, state = .materialized outcome := by
  unfold terminalState loadTerminalState at h
  simp only [hintent, hterminal, if_true] at h
  split at h
  next =>
    obtain ⟨outcome, -, hsame⟩ := checked_map_eq_ok_iff.mp h
    exact ⟨outcome, hsame.symm⟩
  next => cases h

end Values

/-! ### Steps and runs -/

/-- A run of transitions that `validate_transition` accepts. -/
def IsRun (jobs : List AgentJob) : Prop :=
  jobs.IsChain fun before after ↦ validateTransition before after = .ok ()

namespace AgentJob

/-- The outcome of this status is staged, or the job ended with it. -/
def KeepsOutcome (status : JobStatus) (job : AgentJob) : Prop :=
  job.values.terminalIntentStatus = some status ∨
    (job.values.terminalIntentStatus = none ∧ job.values.status = status)

/-- A step that clears the staged outcome ends the job with it. -/
def Settles (before after : AgentJob) : Prop :=
  ∀ status, before.values.terminalIntentStatus = some status →
    after.values.terminalIntentStatus = none → after.values.status = status

/-- The two jobs ended in the same way. -/
structure SameOutcome (job other : AgentJob) : Prop where
  status : other.values.status = job.values.status
  result : other.values.text .result = job.values.text .result
  error : other.values.text .error = job.values.text .error
  completedAt : other.values.float .completedAt = job.values.float .completedAt

/-- The job ended, and its outcome is materialised. -/
def IsMaterialized (job : AgentJob) : Prop :=
  ∃ outcome, job.values.terminalState = .ok (.materialized outcome)

variable {job before after : AgentJob} {status : JobStatus}

/-- A job that stages an outcome is reconciling, and the status it stages is a terminal one. -/
theorem staged (h : job.values.terminalIntentStatus = some status) :
    job.values.status = .reconciling ∧ status.isTerminal = true := by
  have hmem : ((job.values.terminalIntentStatus.any (!·.isTerminal) ||
      job.values.terminalIntentStatus.isSome &&
        (job.values.status ≠ .reconciling || !job.values.bool .targetReleasePending),
      "terminal intent requires reconciling status and release fence") : Guard) ∈
        job.values.invariantGuards := by
    simp [Values.invariantGuards, Values.promptAndPaneGuards]
  have hguard := job.invariant_guard hmem
  simp only [h, Option.any_some, Option.isSome_some, Bool.true_and, Bool.or_eq_false_iff,
    Bool.not_eq_false', decide_eq_false_iff_not, ne_eq, not_not] at hguard
  exact ⟨hguard.2.1, hguard.1⟩

/-- An accepted transition leaves a materialised outcome as it is. -/
theorem terminalState_of_materialized {outcome : TerminalOutcome}
    (h : validateTransition before after = .ok ())
    (hmaterialized : before.values.terminalState = .ok (.materialized outcome)) :
    after.values.terminalState = .ok (.materialized outcome) := by
  obtain ⟨old, new, haccepted⟩ := validateTransition_accepted h
  obtain rfl : TerminalState.materialized outcome = old :=
    Except.ok.inj (hmaterialized.symm.trans haccepted.oldTerminal)
  have hkept := haccepted.status (_, "materialized terminal outcome is immutable")
    (List.mem_cons_of_mem _ List.mem_cons_self)
  have hsame : new = .materialized outcome := by simpa [TerminalState.isMaterialized] using hkept
  exact hsame ▸ haccepted.newTerminal

/-- A transition that is accepted and settles what it clears keeps the outcome. -/
theorem KeepsOutcome.step (hkeeps : before.KeepsOutcome status) (hterminal : status.isTerminal = true)
    (h : validateTransition before after = .ok ()) (hsettles : before.Settles after) :
    after.KeepsOutcome status := by
  rcases hkeeps with hstaged | ⟨hnone, hended⟩
  · obtain ⟨old, new, haccepted⟩ := validateTransition_accepted h
    rcases hnext : after.values.terminalIntentStatus with _ | next
    · exact .inr ⟨hnext, hsettles status hstaged hnext⟩
    · have hkept := haccepted.terminal (_, "terminal intent status cannot be rewritten")
        (List.mem_append_left _ (List.mem_append_left _ List.mem_cons_self))
      have hsame : status = next := by simpa [hstaged, hnext] using hkept
      exact .inl (hsame ▸ hnext)
  · obtain ⟨old, new, haccepted⟩ := validateTransition_accepted h
    obtain ⟨outcome, rfl⟩ := Values.materialized_of_terminal haccepted.oldTerminal hnone
      (hended ▸ hterminal)
    obtain ⟨-, hstatus, -⟩ := Values.materialized_ok haccepted.oldTerminal
    obtain ⟨hnext, hnextStatus, -⟩ :=
      Values.materialized_ok (terminalState_of_materialized h haccepted.oldTerminal)
    exact .inr ⟨hnext, hnextStatus.trans (hstatus.symm.trans hended)⟩

/-- A job that keeps the outcome ends with no other status. -/
theorem KeepsOutcome.status_eq (hkeeps : job.KeepsOutcome status)
    (hterminal : job.values.status.isTerminal = true) : job.values.status = status := by
  rcases hkeeps with hstaged | ⟨-, hended⟩
  · rw [(staged hstaged).1] at hterminal
    cases hterminal
  · exact hended

theorem keepsOutcome_of_isRun {run : List AgentJob} (hrun : IsRun (job :: run))
    (hkeeps : job.KeepsOutcome status) (hterminal : status.isTerminal = true)
    (hsettles : (job :: run).IsChain Settles) : ∀ reached ∈ run, reached.KeepsOutcome status := by
  induction run generalizing job with
  | nil => exact fun _ h ↦ absurd h List.not_mem_nil
  | cons next run ih =>
    rw [IsRun, List.isChain_cons_cons] at hrun
    rw [List.isChain_cons_cons] at hsettles
    have hnext := hkeeps.step hterminal hrun.1 hsettles.1
    exact List.forall_mem_cons.mpr ⟨hnext, ih hrun.2 hnext hsettles.2⟩

theorem settles_of_keepsOutcome {run : List AgentJob} (hkeeps : job.KeepsOutcome status)
    (hreached : ∀ reached ∈ run, reached.KeepsOutcome status) :
    (job :: run).IsChain Settles := by
  induction run generalizing job with
  | nil => exact List.isChain_singleton _
  | cons next run ih =>
    rw [List.forall_mem_cons] at hreached
    refine List.isChain_cons_cons.mpr ⟨?_, ih hreached.1 hreached.2⟩
    intro other hother hnone
    rcases hkeeps with hstaged | ⟨hcleared, -⟩
    · obtain rfl : status = other := Option.some.inj (hstaged.symm.trans hother)
      rcases hreached.1 with hstill | ⟨-, hended⟩
      · rw [hstill] at hnone
        cases hnone
      · exact hended
    · rw [hcleared] at hother
      cases hother

/-- Every later job of a run ended as the job that materialised its outcome. -/
theorem sameOutcome_of_isRun {run : List AgentJob} (hrun : IsRun (job :: run))
    (hmaterialized : job.IsMaterialized) : ∀ later ∈ run, job.SameOutcome later := by
  obtain ⟨outcome, hmaterialized⟩ := hmaterialized
  have hlater : ∀ later ∈ run, later.values.terminalState = .ok (.materialized outcome) := by
    induction run generalizing job with
    | nil => exact fun _ h ↦ absurd h List.not_mem_nil
    | cons next run ih =>
      rw [IsRun, List.isChain_cons_cons] at hrun
      have hnext := terminalState_of_materialized hrun.1 hmaterialized
      exact List.forall_mem_cons.mpr ⟨hnext, ih hrun.2 hnext⟩
  intro later hmem
  obtain ⟨-, hstatus, hresult, herror, hcompleted⟩ := Values.materialized_ok hmaterialized
  obtain ⟨-, hnextStatus, hnextResult, hnextError, hnextCompleted⟩ :=
    Values.materialized_ok (hlater later hmem)
  exact ⟨hnextStatus.trans hstatus.symm, hnextResult.trans hresult.symm, hnextError.trans herror.symm,
    hnextCompleted.trans hcompleted.symm⟩

end AgentJob

section

variable [TextLibrary] {job next : AgentJob}

omit [TextLibrary] in
/-- A step of a job that leaves the staged status alone clears nothing. -/
theorem AgentJob.settles_of_get_eq
    (h : next.values.terminalIntentStatus = job.values.terminalIntentStatus) : job.Settles next := by
  intro status hstaged hnone
  rw [h, hstaged] at hnone
  cases hnone

/-- An evolution that names no staged status keeps it. -/
theorem AgentJob.settles_of_evolve {changes : List Change} {status : Option JobStatus}
    {remove : List Field} (h : job.evolve changes status remove = .ok next)
    (hchanges : .jobStatus .terminalIntentStatus ∉ changes.map Sigma.fst)
    (hremove : .jobStatus .terminalIntentStatus ∉ remove) : job.Settles next := by
  refine settles_of_get_eq ?_
  obtain ⟨values, hcanonical, hvalues⟩ := fromDict_ok (evolve_ok h).1
  unfold Values.terminalIntentStatus Values.get
  rw [hvalues, Values.agreeOff_canonicalise hcanonical _ (by decide),
    evolvedRecord_of_notMem hremove hchanges (by decide) (by decide)]

/-- So does a recovery. -/
theorem AgentJob.settles_of_evolveRecovery {changes : List Change} {now : Time}
    {status : Option JobStatus} {remove : List Field} {prepareDelivery : Bool}
    (h : job.evolveRecovery changes now status remove prepareDelivery = .ok next)
    (hchanges : .jobStatus .terminalIntentStatus ∉ changes.map Sigma.fst)
    (hremove : .jobStatus .terminalIntentStatus ∉ remove) : job.Settles next := by
  refine settles_of_get_eq ?_
  obtain ⟨updated, hread, hnext, -⟩ := evolveRecovery_ok h
  obtain ⟨values, hcanonical, hvalues⟩ := fromDict_ok hread
  unfold Values.terminalIntentStatus Values.get
  rw [hnext, hvalues, Values.agreeOff_canonicalise hcanonical _ (by decide),
    recoveredRecord_of_notMem job hremove hchanges (by decide) (by decide)]

end

/-! ### An outcome that is dropped -/

section

attribute [local instance] asciiTextLibrary

/-- The record of a job that stages its cancellation. -/
def stagedRecord : Values :=
  let spec : NewAgentJob :=
    { id := "0123456789ab", request := "Fix the parser", createdAt := 0, foregroundUntil := 0
      harnessKind := .cursor, details := .empty }
  spec.record.update
    [.put (.jobStatus .status) (some .reconciling),
      .put (.jobStatus .terminalIntentStatus) (some .cancelled),
      .put (.text .terminalIntentResult) (some "Cancelled."),
      .put (.float .terminalIntentCompletedAt) (some 1), .put (.bool .targetReleasePending) (some true)]

/-- The fields of a staged outcome. -/
def intentFields : List Field :=
  [.jobStatus .terminalIntentStatus, .text .terminalIntentResult, .text .terminalIntentError,
    .float .terminalIntentCompletedAt]

/-- An update that publishes this status and clears what was staged. -/
def publish (job : AgentJob) (status : JobStatus) : Checked AgentJob :=
  job.evolve
    [.put (.text .result) (some "Over."), .put (.text .error) (some "Over."),
      .put (.float .completedAt) (some 2), .put (.bool .targetReleasePending) (some false)]
    (some status) intentFields

end

end VoiceHarness
