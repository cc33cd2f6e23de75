import VoiceHarness.Question.Answer

/-!
# Confirmations

Before an external write the worker asks for a confirmation, and the handler of the owner of the
question sets a flag on the job where the user says yes. A handler reads two texts: the trusted words
of the user, and the text of the reply. All handlers but two refuse a reply without trusted words;
those of a fork and of a clone read the text instead.
-/

set_option autoImplicit false
set_option relaxedAutoImplicit false

namespace VoiceHarness

structure AnswerContext where
  now : Time
  foregroundUntil : Time
  text : String
  trustedText : Option String

/-- The part of an `AnswerTransition` that these handlers use; they neither cancel nor complete. -/
structure AnswerTransition where
  job : Option AgentJob := none
  launch : Bool := false
  message : Option String := none

/-! ### A queued answer -/

/-- The flags `_queue_answer` takes. -/
def queuedFlags : List BoolField :=
  [.forkConfirmed, .cloneConfirmed, .githubIssueCreateConfirmed, .githubIssueCreateRequested,
    .githubPrCreateConfirmed, .githubPrMergeConfirmed, .githubRepoCreateConfirmed,
    .githubRepoCreateContinueWorkflow, .githubRepoCreateRequested, .linearTicketCreateConfirmed,
    .githubIssueUpdateConfirmed, .linearTicketUpdateConfirmed, .githubIssueCloseConfirmed,
    .linearTicketCloseConfirmed, .ticketSplitConfirmed, .ticketMergeConfirmed]

/-- The texts `_queue_answer` takes. -/
def queuedTexts : List TextField :=
  [.repositoryHint, .githubRepository, .githubPrMergeUrl, .githubRepoCreateOwner,
    .linearTicketCreateTeam]

/-- The keyword arguments of `_queue_answer`. -/
structure QueuedAnswer where
  continuation : Bool := false
  continuationAnswer : Option String := none
  flags : List (BoolField × Bool) := []
  texts : List (TextField × String) := []
  githubPrMergeNumber : Option ℤ := none
  clearTarget : Bool := false
  clearIssueCreateDraft : Bool := false

/-- The argument for a field, where it is given. -/
def given {field value : Type} [DecidableEq field] (arguments : List (field × value))
    (name : field) : Option value :=
  (arguments.find? fun argument ↦ argument.1 = name).map Prod.snd

namespace AgentJob

variable (job : AgentJob)

/-- `clarifications`. -/
def clarifications : List Json :=
  match job.values.get (.structured .clarifications) with
  | some (.arr items) => items.filter fun item ↦
    match item with
    | .obj _ => true
    | _ => false
  | _ => []

/-- `_clarification_record`. -/
def clarificationRecord (question : VoiceQuestion) (resolution : AnswerResolution) (now : Time) :
    Json :=
  let text := fun value : Option String ↦ (value.map Json.str).getD .null
  .obj
    [("question_id", .str question.id), ("question", .str question.text),
      ("answer", text resolution.answer), ("trusted_answer", text resolution.trustedAnswer),
      ("choice_label", text resolution.choiceLabel), ("owner", .str question.owner),
      ("turn_token", .str question.origin.turnToken),
      ("workflow_phase", .str job.values.workflowPhase.value), ("answered_at", .float now)]

/-- The worker fields of an answered question. -/
def workerCleared : List Change :=
  [.put (.int .workerPid) none, .put (.text .workerBootId) none,
    .put (.text .workerProcessStart) none, .put (.text .workerToken) none]

/-- The fields of a draft that is given up. -/
def issueCreateDraft : List Change :=
  [.put (.text .githubIssueCreateTitle) none, .put (.text .githubIssueCreateBody) none,
    .put (.text .githubIssueCreateMarker) none,
    .put (.operation .githubIssueCreateOperationState) none]

/-- What `_queue_answer` changes. -/
def queuedChanges (question : VoiceQuestion) (resolution : AnswerResolution) (context : AnswerContext)
    (answer : QueuedAnswer) (envelope : Json) : List Change :=
  [.put (.text .question) none, .put (.text .clarificationKind) none,
    .put (.float .queuedAt) (some context.now), .put (.float .updatedAt) (some context.now),
    .put (.float .foregroundUntil) (some context.foregroundUntil)] ++ workerCleared ++
  queuedFlags.map (fun flag ↦
    .put (.bool flag) (some ((given answer.flags flag).getD (job.values.bool flag)))) ++
  queuedTexts.map (fun text ↦
    .put (.text text) ((given answer.texts text).or (job.values.text text))) ++
  [.put (.int .githubPrMergeNumber)
      (answer.githubPrMergeNumber.or (job.values.int .githubPrMergeNumber)),
    .put (.text .herdrTarget) (if answer.clearTarget then none else job.values.text .herdrTarget),
    .put (.bool .continuation) (some answer.continuation),
    .put (.text .continuationAnswer) answer.continuationAnswer,
    .put (.structured .clarifications)
      (some (.arr (job.clarifications ++
        [job.clarificationRecord question resolution context.now]))),
    .put (.structured .voiceQuestion) (some envelope)] ++
  if answer.clearIssueCreateDraft then issueCreateDraft else []

variable [TextLibrary]

/-- `_queue_answer`. -/
def queueAnswer (question : VoiceQuestion) (resolution : AnswerResolution) (context : AnswerContext)
    (answer : QueuedAnswer) : Checked AgentJob := do
  let envelope ← question.envelope .answered job.values.jobId
    (VoiceQuestion.answered resolution.answer resolution.trustedAnswer context.now)
  job.markDelivered none (some .queued)
    (job.queuedChanges question resolution context answer envelope)

/-- What a job that is not to go on is completed with. -/
def declinedChanges (result : String) (envelope : Json) (now : Time) : List Change :=
  [.put (.text .question) none, .put (.text .clarificationKind) none,
    .put (.text .result) (some result), .put (.float .completedAt) (some now)] ++ workerCleared ++
  [.put (.structured .voiceQuestion) (some envelope)]

/-- A handler that completes the job for the answer no. -/
def declineAnswer (question : VoiceQuestion) (context : AnswerContext) (trustedAnswer result : String) :
    Checked AgentJob := do
  let envelope ← question.envelope .resolved job.values.jobId
    (VoiceQuestion.answered (some "no") (some trustedAnswer) context.now)
  job.evolveForDelivery context.now (some .completed) [] (declinedChanges result envelope context.now)

end AgentJob

/-! ### Yes and no -/

/-- `_FORK_CONFIRMATIONS`. -/
def forkConfirmations : List String :=
  ["yes", "yes please", "confirm", "confirmed", "do it", "go ahead", "create it", "create the fork",
    "fork it"]

/-- `_FORK_REJECTIONS`. -/
def forkRejections : List String := ["no", "no thanks", "do not", "don't", "cancel", "stop"]

section Handlers

variable [SpeechLibrary]

/-- `_confirmation`. -/
def confirmation (value : String) (confirmations rejections : List String) : Option Bool :=
  let kept := (TextLibrary.casefold value).toList.filter fun c ↦
    SpeechLibrary.isWord c || isSpace c || c = apostrophe || c = closingQuote
  let straight := kept.map fun c ↦ if c = closingQuote then apostrophe else c
  let normalized := String.ofList (joinWords straight)
  if normalized ∈ confirmations then some true
  else if normalized ∈ rejections then some false
  else none

/-- An `AnswerHandler`. -/
abbrev AnswerHandler :=
  AgentJob → VoiceQuestion → AnswerResolution → AnswerContext → Checked AnswerTransition

/-- The answer of a user who was asked for a yes or a no. -/
def confirmed (said : String) (confirmations : List String) (again : String)
    (yes no : Checked AnswerTransition) : Checked AnswerTransition :=
  match confirmation said confirmations forkRejections with
  | none => .ok { message := some again }
  | some true => yes
  | some false => no

/-- A confirmation that is queued with its flag, or completes the job with a result. -/
def flagAnswer (said : String) (confirmations : List String) (again : String) (flag : BoolField)
    (declined : String) : AnswerHandler := fun job question resolution context ↦
  confirmed said confirmations again
    (do
      let queued ← job.queueAnswer question resolution context
        { flags := [(flag, true)], clearTarget := true }
      .ok { job := some queued, launch := true })
    (do
      let completed ← job.declineAnswer question context said declined
      .ok { job := some completed })

/-- A confirmation that takes the trusted words only. -/
def trustedAnswer (direct : String) (confirmations : List String) (again : String) (flag : BoolField)
    (declined : String) : AnswerHandler := fun job question resolution context ↦
  match context.trustedText with
  | none => .ok { message := some direct }
  | some said => flagAnswer said confirmations again flag declined job question resolution context

/-- A confirmation that takes the text where there are no trusted words. -/
def spokenAnswer (confirmations : List String) (again : String) (flag : BoolField)
    (declined : String) : AnswerHandler := fun job question resolution context ↦
  flagAnswer (orElse context.trustedText context.text) confirmations again flag declined job question
    resolution context

/-- `_fork_confirmation_answer`. -/
def forkConfirmationAnswer : AnswerHandler :=
  spokenAnswer forkConfirmations "Please answer yes or no. Should I create the GitHub fork?"
    .forkConfirmed "Okay, I did not create a GitHub fork."

/-- `_clone_confirmation_answer`. -/
def cloneConfirmationAnswer : AnswerHandler :=
  spokenAnswer (forkConfirmations ++ ["clone it", "clone the repository"])
    "Please answer yes or no. Should I clone this repository?" .cloneConfirmed
    "Okay, I did not clone the repository."

/-- `_github_issue_file_as_one_answer`: both answers are queued. -/
def githubIssueFileAsOneAnswer : AnswerHandler := fun job question resolution context ↦
  match context.trustedText with
  | none => .ok { message := some "Please answer directly. File this as issue 1?" }
  | some said =>
    confirmed said (forkConfirmations ++ ["create the issue", "file it"])
      "Please answer yes or no. File this as issue 1?"
      (do
        let queued ← job.queueAnswer question resolution context
          { flags := [(.githubIssueCreateRequested, true), (.githubIssueCreateConfirmed, true)]
            clearTarget := true }
        .ok { job := some queued, launch := true })
      (do
        let queued ← job.queueAnswer question resolution context
          { flags := [(.githubIssueCreateRequested, false), (.githubIssueCreateConfirmed, false)]
            clearTarget := true, clearIssueCreateDraft := true }
        .ok { job := some queued, launch := true })

/-- `_github_issue_create_confirmation_answer`. -/
def githubIssueCreateConfirmationAnswer : AnswerHandler :=
  trustedAnswer "Please confirm directly. Should I create this GitHub issue?"
    (forkConfirmations ++ ["create the issue"])
    "Please answer yes or no. Should I create this GitHub issue?" .githubIssueCreateConfirmed
    "Okay, I did not create the GitHub issue."

/-- `_github_pr_create_confirmation_answer`. -/
def githubPrCreateConfirmationAnswer : AnswerHandler :=
  trustedAnswer "Please confirm directly. Should I open this pull request?"
    (forkConfirmations ++ ["open the pull request", "create the pull request", "open it"])
    "Please answer yes or no. Should I open this pull request?" .githubPrCreateConfirmed
    "Okay, I did not open a pull request."

/-- `_github_pr_merge_confirmation_answer`. -/
def githubPrMergeConfirmationAnswer : AnswerHandler :=
  trustedAnswer "Please confirm directly. Should I merge this pull request?"
    (forkConfirmations ++ ["merge the pull request", "merge it", "merge this pull request"])
    "Please answer yes or no. Should I merge this pull request?" .githubPrMergeConfirmed
    "Okay, I did not merge that pull request."

/-- `_github_repo_create_confirmation_answer`. -/
def githubRepoCreateConfirmationAnswer : AnswerHandler :=
  trustedAnswer "Please confirm directly. Should I create this GitHub repository?"
    (forkConfirmations ++ ["create the repository", "create the repo"])
    "Please answer yes or no. Should I create this GitHub repository?" .githubRepoCreateConfirmed
    "Okay, I did not create the GitHub repository."

/-- `_linear_ticket_create_confirmation_answer`. -/
def linearTicketCreateConfirmationAnswer : AnswerHandler :=
  trustedAnswer "Please confirm directly. Should I create this Linear ticket?"
    (forkConfirmations ++ ["create the ticket"])
    "Please answer yes or no. Should I create this Linear ticket?" .linearTicketCreateConfirmed
    "Okay, I did not create the Linear ticket."

/-- `_github_issue_update_confirmation_answer`. -/
def githubIssueUpdateConfirmationAnswer : AnswerHandler :=
  trustedAnswer "Please confirm directly. Should I update this GitHub issue?"
    (forkConfirmations ++ ["update the issue", "update it"])
    "Please answer yes or no. Should I update this GitHub issue?" .githubIssueUpdateConfirmed
    "Okay, I did not update the GitHub issue."

/-- `_linear_ticket_update_confirmation_answer`. -/
def linearTicketUpdateConfirmationAnswer : AnswerHandler :=
  trustedAnswer "Please confirm directly. Should I update this Linear ticket?"
    (forkConfirmations ++ ["update the ticket", "update it"])
    "Please answer yes or no. Should I update this Linear ticket?" .linearTicketUpdateConfirmed
    "Okay, I did not update the Linear ticket."

/-- `_github_issue_close_confirmation_answer`. -/
def githubIssueCloseConfirmationAnswer : AnswerHandler :=
  trustedAnswer "Please confirm directly. Should I close this GitHub issue?"
    (forkConfirmations ++ ["close the issue", "close it"])
    "Please answer yes or no. Should I close this GitHub issue?" .githubIssueCloseConfirmed
    "Okay, I did not close the GitHub issue."

/-- `_linear_ticket_close_confirmation_answer`. -/
def linearTicketCloseConfirmationAnswer : AnswerHandler :=
  trustedAnswer "Please confirm directly. Should I close this Linear ticket?"
    (forkConfirmations ++ ["close the ticket", "close it"])
    "Please answer yes or no. Should I close this Linear ticket?" .linearTicketCloseConfirmed
    "Okay, I did not close the Linear ticket."

/-- `_github_issue_merge_confirmation_answer`. -/
def githubIssueMergeConfirmationAnswer : AnswerHandler :=
  trustedAnswer "Please confirm directly. Should I merge these GitHub issues?"
    (forkConfirmations ++ ["merge the issues", "merge them"])
    "Please answer yes or no. Should I merge these GitHub issues?" .ticketMergeConfirmed
    "Okay, I did not merge the GitHub issues."

/-- `_linear_ticket_merge_confirmation_answer`. -/
def linearTicketMergeConfirmationAnswer : AnswerHandler :=
  trustedAnswer "Please confirm directly. Should I merge these Linear tickets?"
    (forkConfirmations ++ ["merge the tickets", "merge them"])
    "Please answer yes or no. Should I merge these Linear tickets?" .ticketMergeConfirmed
    "Okay, I did not merge the Linear tickets."

/-- `_github_issue_split_confirmation_answer`. -/
def githubIssueSplitConfirmationAnswer : AnswerHandler :=
  trustedAnswer "Please confirm directly. Should I split this GitHub issue?"
    (forkConfirmations ++ ["split the issue", "split it"])
    "Please answer yes or no. Should I split this GitHub issue?" .ticketSplitConfirmed
    "Okay, I did not split the GitHub issue."

/-- `_linear_ticket_split_confirmation_answer`. -/
def linearTicketSplitConfirmationAnswer : AnswerHandler :=
  trustedAnswer "Please confirm directly. Should I split this Linear ticket?"
    (forkConfirmations ++ ["split the ticket", "split it"])
    "Please answer yes or no. Should I split this Linear ticket?" .ticketSplitConfirmed
    "Okay, I did not split the Linear ticket."

end Handlers

/-- The owners of a question that asks for a confirmation of an external write. -/
inductive ConfirmationOwner
  | forkConfirmation | cloneConfirmation | githubIssueCreateConfirmation | githubIssueFileAsOne
  | githubPrCreateConfirmation | githubPrMergeConfirmation | githubRepoCreateConfirmation
  | githubIssueUpdateConfirmation | githubIssueCloseConfirmation | githubIssueSplitConfirmation
  | githubIssueMergeConfirmation | linearTicketCreateConfirmation | linearTicketUpdateConfirmation
  | linearTicketCloseConfirmation | linearTicketSplitConfirmation | linearTicketMergeConfirmation
  deriving DecidableEq, Repr

namespace ConfirmationOwner

/-- The key of the owner in `_ANSWER_HANDLERS`. -/
def value : ConfirmationOwner → String
  | forkConfirmation => "fork_confirmation"
  | cloneConfirmation => "clone_confirmation"
  | githubIssueCreateConfirmation => "github_issue_create_confirmation"
  | githubIssueFileAsOne => "github_issue_file_as_one"
  | githubPrCreateConfirmation => "github_pr_create_confirmation"
  | githubPrMergeConfirmation => "github_pr_merge_confirmation"
  | githubRepoCreateConfirmation => "github_repo_create_confirmation"
  | githubIssueUpdateConfirmation => "github_issue_update_confirmation"
  | githubIssueCloseConfirmation => "github_issue_close_confirmation"
  | githubIssueSplitConfirmation => "github_issue_split_confirmation"
  | githubIssueMergeConfirmation => "github_issue_merge_confirmation"
  | linearTicketCreateConfirmation => "linear_ticket_create_confirmation"
  | linearTicketUpdateConfirmation => "linear_ticket_update_confirmation"
  | linearTicketCloseConfirmation => "linear_ticket_close_confirmation"
  | linearTicketSplitConfirmation => "linear_ticket_split_confirmation"
  | linearTicketMergeConfirmation => "linear_ticket_merge_confirmation"

/-- The flag a yes sets. -/
def flag : ConfirmationOwner → BoolField
  | forkConfirmation => .forkConfirmed
  | cloneConfirmation => .cloneConfirmed
  | githubIssueCreateConfirmation | githubIssueFileAsOne => .githubIssueCreateConfirmed
  | githubPrCreateConfirmation => .githubPrCreateConfirmed
  | githubPrMergeConfirmation => .githubPrMergeConfirmed
  | githubRepoCreateConfirmation => .githubRepoCreateConfirmed
  | githubIssueUpdateConfirmation => .githubIssueUpdateConfirmed
  | githubIssueCloseConfirmation => .githubIssueCloseConfirmed
  | githubIssueSplitConfirmation | linearTicketSplitConfirmation => .ticketSplitConfirmed
  | githubIssueMergeConfirmation | linearTicketMergeConfirmation => .ticketMergeConfirmed
  | linearTicketCreateConfirmation => .linearTicketCreateConfirmed
  | linearTicketUpdateConfirmation => .linearTicketUpdateConfirmed
  | linearTicketCloseConfirmation => .linearTicketCloseConfirmed

/-- `answer_handler` of the owner. -/
def handler [SpeechLibrary] : ConfirmationOwner → AnswerHandler
  | forkConfirmation => forkConfirmationAnswer
  | cloneConfirmation => cloneConfirmationAnswer
  | githubIssueCreateConfirmation => githubIssueCreateConfirmationAnswer
  | githubIssueFileAsOne => githubIssueFileAsOneAnswer
  | githubPrCreateConfirmation => githubPrCreateConfirmationAnswer
  | githubPrMergeConfirmation => githubPrMergeConfirmationAnswer
  | githubRepoCreateConfirmation => githubRepoCreateConfirmationAnswer
  | githubIssueUpdateConfirmation => githubIssueUpdateConfirmationAnswer
  | githubIssueCloseConfirmation => githubIssueCloseConfirmationAnswer
  | githubIssueSplitConfirmation => githubIssueSplitConfirmationAnswer
  | githubIssueMergeConfirmation => githubIssueMergeConfirmationAnswer
  | linearTicketCreateConfirmation => linearTicketCreateConfirmationAnswer
  | linearTicketUpdateConfirmation => linearTicketUpdateConfirmationAnswer
  | linearTicketCloseConfirmation => linearTicketCloseConfirmationAnswer
  | linearTicketSplitConfirmation => linearTicketSplitConfirmationAnswer
  | linearTicketMergeConfirmation => linearTicketMergeConfirmationAnswer

/-- The handler reads the text of a reply without trusted words. -/
def ReadsText (owner : ConfirmationOwner) : Prop :=
  owner = forkConfirmation ∨ owner = cloneConfirmation

end ConfirmationOwner

/-! ### A reply -/

/-- The arguments of `reply_job` that reach the update of the job. -/
structure Reply where
  text : String
  trustedUtterance : Option String
  expectedQuestionId : Option String
  expectedQuestionTurn : Option String
  provenance : AnswerProvenance
  now : Time
  foregroundUntil : Time

def Reply.context (reply : Reply) : AnswerContext :=
  { now := reply.now, foregroundUntil := reply.foregroundUntil, text := reply.text
    trustedText := reply.trustedUtterance }

section

variable [SpeechLibrary]

/-- What the broker does with a resolution that no handler is called for. -/
def withoutHandler (job : AgentJob) (question : VoiceQuestion) (now : Time) :
    AnswerOutcome → Option (Checked AnswerTransition)
  | .again => some (.ok { message := some (questionPrompt question) })
  | .deferred => some do
    let envelope ← question.envelope .deferred job.values.jobId id
    let kept ← job.markDelivered none none
      [.put (.float .updatedAt) (some now), .put (.structured .voiceQuestion) (some envelope)]
    .ok { job := some kept, message := some "Okay, I'll keep that question for later." }
  | .ambiguous =>
    let message := if question.choices.isEmpty then
      "I could not tell what your answer was. Please answer again."
      else choicesPrompt question
    some (.ok { message := some message })
  | .rejected =>
    let message := "That decision requires a direct user answer, so I did not use " ++
      "an automated response."
    some (.ok { message := some message })
  | .accepted => none

/-- The identity a reply expects of the question. -/
def Reply.expected (reply : Reply) (job : AgentJob) (question : VoiceQuestion) : QuestionIdentity :=
  { jobId := job.values.jobId
    questionId := orElse reply.expectedQuestionId question.id
    turnToken := orElse reply.expectedQuestionTurn question.origin.turnToken }

/-- `reply`, the update of `reply_job`, with the pending question of the job and the handler of its
owner. -/
def replyTo (handler : AnswerHandler) (job : AgentJob) (question : VoiceQuestion) (reply : Reply) :
    Checked AnswerTransition :=
  if job.values.status ≠ .awaitingUser then .ok {}
  else if reply.expected job question ≠ question.identity then
    .ok { message := some "That answer belongs to an older question, so I did not use it." }
  else
    let resolution :=
      resolveAnswer question reply.text reply.trustedUtterance reply.provenance
    (withoutHandler job question reply.now resolution.outcome).getD
      (handler job question resolution reply.context)

end

end VoiceHarness
