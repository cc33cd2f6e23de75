import VoiceHarness.Job.Prompt

/-!
# The prompt of a question

The prompt operations of `prompt_operations.py` that a question takes part in, and their adapter in
`questions/__init__.py`. A question keeps the turn, the target and the agent session its prompt was
planned under. The adapter builds the operation it is about to check from the identity of the caller,
so the check compares that identity with itself, except for the baseline sequence.
-/

set_option autoImplicit false
set_option relaxedAutoImplicit false

namespace VoiceHarness

inductive PromptOperationState
  | idle | planned | submitting | submitted | observed | ambiguous | resolved
  deriving DecidableEq, Repr

namespace PromptOperationState

def value : PromptOperationState → String
  | idle => "none"
  | planned => "planned"
  | submitting => "submitting"
  | submitted => "submitted"
  | observed => "observed"
  | ambiguous => "ambiguous"
  | resolved => "resolved"

/-- The constructor of a state. -/
def operation (identity : PromptIdentity) : PromptOperationState → PromptOperation
  | idle => .idle
  | planned => .planned identity
  | submitting => .submitting identity
  | submitted => .submitted identity
  | observed => .observed identity
  | ambiguous => .ambiguous identity
  | resolved => .resolved identity

/-- `load_prompt_operation` of a state. -/
def load (state : PromptOperationState) (jobId phase : String) (turn : ℤ)
    (turnToken target agentSession : String) (baselineSequence : ℤ) : Checked PromptOperation :=
  if state = idle then .ok .idle
  else do
    .ok (state.operation
      (← PromptIdentity.make jobId phase turn turnToken target agentSession baselineSequence))

end PromptOperationState

/-- `_require_identity`. -/
def requireIdentity (current identity : PromptIdentity) : Checked Unit :=
  if current ≠ identity then .error "stale prompt operation identity" else .ok ()

def planPrompt (operation : PromptOperation) (identity : PromptIdentity) :
    Checked PromptOperation :=
  match operation with
  | .idle => .ok (.planned identity)
  | _ => .error "only an idle prompt operation can be planned"

/-- An operation moves on from the accepted states under its own identity. -/
def advancePrompt (accepted : List PromptOperationState) (target : PromptOperationState)
    (refusal : String) (operation : PromptOperation) (identity : PromptIdentity) :
    Checked PromptOperation :=
  match operation with
  | .idle => .error refusal
  | .planned current => advance .planned current
  | .submitting current => advance .submitting current
  | .submitted current => advance .submitted current
  | .observed current => advance .observed current
  | .ambiguous current => advance .ambiguous current
  | .resolved current => advance .resolved current
where
  advance (state : PromptOperationState) (current : PromptIdentity) : Checked PromptOperation :=
    if state ∉ accepted then .error refusal
    else do
      requireIdentity current identity
      .ok (target.operation identity)

def recordPromptSubmitted : PromptOperation → PromptIdentity → Checked PromptOperation :=
  advancePrompt [.planned, .submitting] .submitted
    "only a planned or submitting prompt can record submission"

def observeAcceptedPrompt : PromptOperation → PromptIdentity → Checked PromptOperation :=
  advancePrompt [.submitted] .observed "only a submitted prompt can be observed"

def resolvePrompt : PromptOperation → PromptIdentity → Checked PromptOperation :=
  advancePrompt [.planned, .submitted, .observed] .resolved
    "only a planned, submitted, or observed prompt can resolve"

def replanUnobservedPrompt : PromptOperation → PromptIdentity → Checked PromptOperation :=
  advancePrompt [.submitted] .planned "only an unobserved submitted prompt can be replanned"

/-- The prompt fields of a question. -/
structure Question where
  promptState : Option PromptOperationState
  promptTurn : Option ℤ
  promptTarget : Option String
  promptAgentSession : Option String
  promptBaselineSeq : Option ℤ
  deriving DecidableEq

namespace Question

/-- `load_question_prompt`. -/
def loadPrompt (question : Question) (identity : PromptIdentity) : Checked PromptOperation :=
  match question.promptState with
  | none => .ok .idle
  | some state =>
    state.load identity.jobId identity.phase identity.turn identity.turnToken identity.target
      identity.agentSession (question.promptBaselineSeq.getD identity.baselineSequence)

/-- The fields an operation of an identity leaves. -/
def withPrompt (question : Question) (state : PromptOperationState) (identity : PromptIdentity) :
    Question :=
  { question with
    promptState := some state
    promptTurn := some identity.turn
    promptTarget := some identity.target
    promptAgentSession := some identity.agentSession }

/-- `bind_question_prompt`. -/
def bindPrompt (question : Question) : PromptOperation → Question
  | .idle => { question with
      promptState := none, promptTurn := none, promptTarget := none, promptAgentSession := none }
  | .planned identity => question.withPrompt .planned identity
  | .submitting identity => question.withPrompt .submitting identity
  | .submitted identity => question.withPrompt .submitted identity
  | .observed identity => question.withPrompt .observed identity
  | .ambiguous identity => question.withPrompt .ambiguous identity
  | .resolved identity => question.withPrompt .resolved identity

/-- An operation of a question: what is loaded is changed and written back. -/
def changePrompt (change : PromptOperation → PromptIdentity → Checked PromptOperation)
    (question : Question) (identity : PromptIdentity) : Checked Question := do
  .ok (question.bindPrompt (← change (← question.loadPrompt identity) identity))

/-- `plan_question_prompt`. -/
def planPrompt : Question → PromptIdentity → Checked Question :=
  changePrompt VoiceHarness.planPrompt

/-- `submit_question_prompt`. -/
def submitPrompt : Question → PromptIdentity → Checked Question :=
  changePrompt recordPromptSubmitted

/-- `observe_question_prompt`. -/
def observePrompt : Question → PromptIdentity → Checked Question :=
  changePrompt observeAcceptedPrompt

/-- `resolve_question_prompt`. -/
def resolvePrompt : Question → PromptIdentity → Checked Question :=
  changePrompt VoiceHarness.resolvePrompt

/-- `replan_question_prompt`. -/
def replanPrompt : Question → PromptIdentity → Checked Question :=
  changePrompt replanUnobservedPrompt

/-- The operations on a planned prompt. -/
def promptChanges : List (Question → PromptIdentity → Checked Question) :=
  [submitPrompt, observePrompt, resolvePrompt, replanPrompt]

/-! ### What the adapter loads -/

/-- The recorded baseline, where there is one, is that of the identity. -/
def baselineAgrees (question : Question) (identity : PromptIdentity) : Prop :=
  ∀ baseline, question.promptBaselineSeq = some baseline → baseline = identity.baselineSequence

variable {question next : Question} {identity : PromptIdentity}

theorem make_self (identity : PromptIdentity) :
    PromptIdentity.make identity.jobId identity.phase identity.turn identity.turnToken
      identity.target identity.agentSession identity.baselineSequence = .ok identity := by
  unfold PromptIdentity.make
  rw [dif_pos identity.complete, dif_pos identity.bounded]

/-- An identity that is made has the baseline it is made with. -/
theorem baselineSequence_make {jobId phase turnToken target agentSession : String} {turn : ℤ}
    {baseline : ℤ} {made : PromptIdentity}
    (h : PromptIdentity.make jobId phase turn turnToken target agentSession baseline = .ok made) :
    made.baselineSequence = baseline := by
  unfold PromptIdentity.make at h
  split_ifs at h
  cases h
  rfl

/-- With a baseline that agrees the adapter loads the identity of the caller. -/
theorem loadPrompt_of_agrees {state : PromptOperationState}
    (hstate : question.promptState = some state) (h : question.baselineAgrees identity) :
    question.loadPrompt identity = .ok (state.operation identity) := by
  have hbaseline : question.promptBaselineSeq.getD identity.baselineSequence =
      identity.baselineSequence := by
    cases hseq : question.promptBaselineSeq with
    | none => rfl
    | some baseline => exact h baseline hseq
  unfold loadPrompt
  rw [hstate, hbaseline]
  unfold PromptOperationState.load
  rw [make_self]
  cases state <;> rfl

/-- With another baseline nothing it loads has the identity of the caller. -/
theorem loadPrompt_of_not_agrees {operation : PromptOperation}
    (h : ¬ question.baselineAgrees identity) (hload : question.loadPrompt identity = .ok operation) :
    operation = .idle ∨ ∃ state made, operation = PromptOperationState.operation made state ∧
      made ≠ identity := by
  unfold baselineAgrees at h
  push Not at h
  obtain ⟨baseline, hseq, hne⟩ := h
  unfold loadPrompt at hload
  split at hload
  · cases hload
    exact .inl rfl
  · next state hstate =>
    unfold PromptOperationState.load at hload
    split_ifs at hload
    · cases hload
      exact .inl rfl
    · obtain ⟨made, hmade, heq⟩ := checked_bind_eq_ok_iff.mp hload
      cases heq
      refine .inr ⟨state, made, rfl, ?_⟩
      rintro rfl
      rw [hseq] at hmade
      exact hne (baselineSequence_make hmade).symm

/-! ### What an operation accepts -/

section

variable {accepted : List PromptOperationState} {target : PromptOperationState} {refusal : String}

theorem advancePrompt_operation (hidle : .idle ∉ accepted) {state : PromptOperationState}
    {current : PromptIdentity} {result : PromptOperation} :
    advancePrompt accepted target refusal (state.operation current) identity = .ok result ↔
      state ∈ accepted ∧ current = identity ∧ result = target.operation identity := by
  have hadvance : advancePrompt.advance accepted target refusal identity state current =
      .ok result ↔ state ∈ accepted ∧ current = identity ∧ result = target.operation identity := by
    unfold advancePrompt.advance requireIdentity
    by_cases hstate : state ∈ accepted <;> by_cases hidentity : current = identity <;>
      simp [hstate, hidentity, bind, Except.bind, eq_comm]
  cases state with
  | idle => simp [PromptOperationState.operation, advancePrompt, hidle]
  | _ => exact hadvance

/-- A prompt is changed exactly in an accepted state and with a baseline that agrees, whatever
identity it was planned under. -/
theorem changePrompt_eq_ok_iff (hidle : .idle ∉ accepted) (htarget : target ≠ .idle) :
    changePrompt (advancePrompt accepted target refusal) question identity = .ok next ↔
      question.baselineAgrees identity ∧
        (∃ state ∈ accepted, question.promptState = some state) ∧
          next = question.withPrompt target identity := by
  have hbind : question.bindPrompt (target.operation identity) =
      question.withPrompt target identity := by
    cases target <;> first | exact absurd rfl htarget | rfl
  unfold changePrompt
  simp only [checked_bind_eq_ok_iff]
  by_cases hagrees : question.baselineAgrees identity
  · constructor
    · rintro ⟨operation, hload, result, hadvance, heq⟩
      rcases hstate : question.promptState with _ | state
      · unfold loadPrompt at hload
        rw [hstate] at hload
        cases hload
        cases hadvance
      · rw [loadPrompt_of_agrees hstate hagrees] at hload
        cases hload
        obtain ⟨hmem, -, rfl⟩ := (advancePrompt_operation hidle).mp hadvance
        cases heq
        exact ⟨hagrees, ⟨state, hmem, rfl⟩, hbind⟩
    · rintro ⟨-, ⟨state, hmem, hstate⟩, rfl⟩
      exact ⟨_, loadPrompt_of_agrees hstate hagrees, _,
        (advancePrompt_operation hidle).mpr ⟨hmem, rfl, rfl⟩, congrArg Except.ok hbind⟩
  · refine iff_of_false ?_ fun h ↦ hagrees h.1
    rintro ⟨operation, hload, result, hadvance, -⟩
    rcases loadPrompt_of_not_agrees hagrees hload with rfl | ⟨state, made, rfl, hne⟩
    · cases hadvance
    · exact hne ((advancePrompt_operation hidle).mp hadvance).2.1

end

/-- Every operation on the prompt of the question raises for the identity. -/
def Fences (question : Question) (identity : PromptIdentity) : Prop :=
  ∀ change ∈ promptChanges, ∃ message, change question identity = .error message

/-- The states some operation accepts. -/
def openStates : List PromptOperationState := [.planned, .submitting, .submitted, .observed]

/-- The operations raise exactly in the states none of them accepts, or for another baseline. -/
theorem fences_iff :
    question.Fences identity ↔
      (∀ state ∈ openStates, question.promptState ≠ some state) ∨
        ¬ question.baselineAgrees identity := by
  have hraises : ∀ {accepted : List PromptOperationState} {target : PromptOperationState}
      {refusal : String}, .idle ∉ accepted → target ≠ .idle →
      ((∃ message, changePrompt (advancePrompt accepted target refusal) question identity =
        .error message) ↔ (∀ state ∈ accepted, question.promptState ≠ some state) ∨
          ¬ question.baselineAgrees identity) := by
    intro accepted target refusal hidle htarget
    rw [← not_iff_not, not_or, not_not]
    rcases hchange : changePrompt (advancePrompt accepted target refusal) question identity with
      message | next
    · refine iff_of_false (fun h ↦ h ⟨message, rfl⟩) fun ⟨hstate, hagrees⟩ ↦ ?_
      push Not at hstate
      have hok : changePrompt (advancePrompt accepted target refusal) question identity =
          .ok (question.withPrompt target identity) :=
        (changePrompt_eq_ok_iff hidle htarget).mpr ⟨hagrees, hstate, rfl⟩
      rw [hchange] at hok
      cases hok
    · obtain ⟨hagrees, hstate, -⟩ := (changePrompt_eq_ok_iff hidle htarget).mp hchange
      refine iff_of_true (fun ⟨_, h⟩ ↦ by cases h) ⟨?_, hagrees⟩
      push Not
      exact hstate
  unfold Fences promptChanges
  simp only [List.forall_mem_cons, List.not_mem_nil, false_imp_iff, implies_true, and_true]
  unfold submitPrompt observePrompt resolvePrompt replanPrompt recordPromptSubmitted
    observeAcceptedPrompt VoiceHarness.resolvePrompt replanUnobservedPrompt
  rw [hraises (by decide) (by decide), hraises (by decide) (by decide),
    hraises (by decide) (by decide), hraises (by decide) (by decide)]
  simp only [openStates, List.forall_mem_cons, List.not_mem_nil, false_imp_iff, implies_true,
    and_true]
  tauto

/-! ### Runs -/

/-- The identities differ in the turn, the target or the agent session. -/
def differs (identity planned : PromptIdentity) : Prop :=
  identity.turn ≠ planned.turn ∨ identity.target ≠ planned.target ∨
    identity.agentSession ≠ planned.agentSession

/-- The question records the turn, the target and the agent session of the identity. -/
structure Records (question : Question) (identity : PromptIdentity) : Prop where
  turn : question.promptTurn = some identity.turn
  target : question.promptTarget = some identity.target
  agentSession : question.promptAgentSession = some identity.agentSession

/-- The runs of a question whose prompt is planned under an identity. Its baseline may be written at
any time, and each operation meets a condition. -/
inductive PlannedUnder (condition : Question → PromptIdentity → Prop) (planned : PromptIdentity) :
    Question → Prop
  | plan {question next : Question} (h : question.planPrompt planned = .ok next) :
    PlannedUnder condition planned next
  | baseline {question : Question} (before : PlannedUnder condition planned question)
      (baseline : Option ℤ) :
    PlannedUnder condition planned { question with promptBaselineSeq := baseline }
  | change {question next : Question} (before : PlannedUnder condition planned question)
      {change : Question → PromptIdentity → Checked Question} (hchange : change ∈ promptChanges)
      {identity : PromptIdentity} (allowed : condition question identity)
      (h : change question identity = .ok next) : PlannedUnder condition planned next

/-- An operation that answers writes the identity of its caller. -/
theorem exists_withPrompt {change : Question → PromptIdentity → Checked Question}
    (hchange : change ∈ promptChanges) (h : change question identity = .ok next) :
    ∃ target, next = question.withPrompt target identity := by
  simp only [promptChanges, List.mem_cons, List.not_mem_nil, or_false] at hchange
  rcases hchange with rfl | rfl | rfl | rfl
  · exact ⟨_, ((changePrompt_eq_ok_iff (by decide) (by decide)).mp h).2.2⟩
  · exact ⟨_, ((changePrompt_eq_ok_iff (by decide) (by decide)).mp h).2.2⟩
  · exact ⟨_, ((changePrompt_eq_ok_iff (by decide) (by decide)).mp h).2.2⟩
  · exact ⟨_, ((changePrompt_eq_ok_iff (by decide) (by decide)).mp h).2.2⟩

theorem records_planPrompt (h : question.planPrompt identity = .ok next) :
    next.Records identity := by
  obtain ⟨operation, -, h⟩ := checked_bind_eq_ok_iff.mp h
  obtain ⟨result, hplan, heq⟩ := checked_bind_eq_ok_iff.mp h
  cases operation with
  | idle =>
    cases hplan
    cases heq
    exact ⟨rfl, rfl, rfl⟩
  | _ => cases hplan

/-- The operations on the prompt raise for an identity exactly when none of them accepts the state of
the prompt or the question has another baseline; that the identity differs from the planned one is no
condition. In the runs where every differing identity meets this, the planned identity stays
recorded. -/
theorem fences_iff_and_records (question : Question) (identity : PromptIdentity) :
    (Fences question identity ↔
      (∀ state ∈ openStates, question.promptState ≠ some state) ∨
        ¬ question.baselineAgrees identity) ∧
    ∀ planned, PlannedUnder (fun question identity ↦ differs identity planned →
      (∀ state ∈ openStates, question.promptState ≠ some state) ∨
        ¬ question.baselineAgrees identity) planned question →
      question.Records planned := by
  refine ⟨fences_iff, fun planned hrun ↦ ?_⟩
  induction hrun with
  | plan h => exact records_planPrompt h
  | baseline before baseline ih => exact ⟨ih.turn, ih.target, ih.agentSession⟩
  | @change question next before change hchange identity allowed h ih =>
    obtain ⟨target, rfl⟩ := exists_withPrompt hchange h
    have hsame : ¬ differs identity planned := by
      intro hdiffers
      obtain ⟨message, hraised⟩ := fences_iff.mpr (allowed hdiffers) change hchange
      rw [h] at hraised
      cases hraised
    unfold differs at hsame
    push Not at hsame
    obtain ⟨hturn, htarget, hsession⟩ := hsame
    exact ⟨congrArg some hturn, congrArg some htarget, congrArg some hsession⟩

/-- A prompt planned for one target is submitted for another. -/
theorem not_fences_otherTarget :
    ∃ planned other question submitted, PlannedUnder (fun _ _ ↦ True) planned question ∧
      differs other planned ∧ question.submitPrompt other = .ok submitted ∧
      question.promptTarget = some "voice-planner" ∧
      submitted.promptTarget = some "voice-reviewer" := by
  let planned : PromptIdentity :=
    ⟨"0123456789ab", "question", 1, "0123456789ab-1", "voice-planner", "session", 0, by decide,
      by decide⟩
  let other : PromptIdentity :=
    ⟨"0123456789ab", "question", 1, "0123456789ab-1", "voice-reviewer", "session", 0, by decide,
      by decide⟩
  let question : Question :=
    { promptState := some .planned, promptTurn := some 1, promptTarget := some "voice-planner"
      promptAgentSession := some "session", promptBaselineSeq := none }
  have hplan : (Question.mk none none none none none).planPrompt planned = .ok question := rfl
  have hsubmit : question.submitPrompt other = .ok (question.withPrompt .submitted other) := by
    refine (changePrompt_eq_ok_iff (by decide) (by decide)).mpr ⟨?_, ⟨.planned, ?_, rfl⟩, rfl⟩
    · intro baseline hbaseline
      cases hbaseline
    · decide
  exact ⟨planned, other, question, _, .plan hplan, .inr (.inl (by decide)), hsubmit, rfl, rfl⟩

end Question

end VoiceHarness
