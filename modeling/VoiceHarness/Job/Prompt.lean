import VoiceHarness.Job.Labels

/-!
# Prompt operations

The durable prompt fence of `prompt_operations.py`: one prompt at a time, bound to the job, phase,
turn, target and agent session it was planned for.
-/

set_option autoImplicit false
set_option relaxedAutoImplicit false

namespace VoiceHarness

structure PromptIdentity where
  jobId : String
  phase : String
  turn : ℤ
  turnToken : String
  target : String
  agentSession : String
  baselineSequence : ℤ
  complete : isBlank jobId = false ∧ isBlank phase = false ∧ isBlank turnToken = false ∧
    isBlank target = false ∧ isBlank agentSession = false
  bounded : 0 < turn ∧ 0 ≤ baselineSequence
  deriving DecidableEq

def PromptIdentity.make (jobId phase : String) (turn : ℤ) (turnToken target agentSession : String)
    (baselineSequence : ℤ) : Checked PromptIdentity :=
  if complete : isBlank jobId = false ∧ isBlank phase = false ∧ isBlank turnToken = false ∧
      isBlank target = false ∧ isBlank agentSession = false then
    if bounded : 0 < turn ∧ 0 ≤ baselineSequence then
      .ok { jobId, phase, turn, turnToken, target, agentSession, baselineSequence, complete,
            bounded }
    else if 0 < turn then .error "prompt baseline sequence must not be negative"
    else .error "prompt turn must be positive"
  else .error "prompt identity fields must not be empty"

inductive PromptOperation
  | idle
  | planned (identity : PromptIdentity)
  | submitting (identity : PromptIdentity)
  | submitted (identity : PromptIdentity)
  | observed (identity : PromptIdentity)
  | ambiguous (identity : PromptIdentity)
  | resolved (identity : PromptIdentity)
  deriving DecidableEq

/-- `load_prompt_operation`. -/
def loadPromptOperation (state : OperationLabel) (jobId : String) (phase : Option WorkflowPhase)
    (turn : ℤ) (turnToken target agentSession : Option String)
    (baselineSequence : Option ℤ) : Checked PromptOperation :=
  let identity := PromptIdentity.make jobId ((phase.map WorkflowPhase.value).getD "") turn
    (turnToken.getD "") (target.getD "") (agentSession.getD "") (baselineSequence.getD (-1))
  match state with
  | .none => .ok .idle
  | .planned => .planned <$> identity
  | .submitting => .submitting <$> identity
  | .submitted => .submitted <$> identity
  | .observed => .observed <$> identity
  | .ambiguous => .ambiguous <$> identity
  | .resolved => .resolved <$> identity
  | state => .error s!"invalid prompt operation state '{state.value}'"

end VoiceHarness
