import VoiceHarness.Question.Confirmation

/-!
# What a confirmation depends on

Two replies with the same trusted words set the same flag, whatever their texts, where the handler
refuses a reply without trusted words or the trusted words are not empty: then the broker and the
handler read the trusted words only. The handlers of a fork and of a clone read the text otherwise,
and there a text alone sets the flag.
-/

set_option autoImplicit false
set_option relaxedAutoImplicit false

namespace VoiceHarness

/-- The flag of the job after an update; an update that raises or answers no job leaves it. -/
def flagAfter (flag : BoolField) (job : AgentJob) (outcome : Checked AnswerTransition) : Bool :=
  match outcome with
  | .ok transition => (transition.job.getD job).values.bool flag
  | .error _ => job.values.bool flag

/-- The flag after a reply with these texts. -/
def ConfirmationOwner.flagAfterReply [SpeechLibrary] (owner : ConfirmationOwner) (job : AgentJob)
    (question : VoiceQuestion) (reply : Reply) (trusted : Option String) (text : String) : Bool :=
  flagAfter owner.flag job
    (replyTo owner.handler job question { reply with text, trustedUtterance := trusted })

/-- With these trusted words the text of a reply does not matter for the flag, and without trusted
words no reply sets it. -/
def ConfirmationOwner.FollowsTrusted (owner : ConfirmationOwner) (trusted : Option String) : Prop :=
  ∀ library : SpeechLibrary, library.casefold "" = "" →
    ∀ job question reply, question.owner = owner.value →
      (∀ text other, owner.flagAfterReply job question reply trusted text =
        owner.flagAfterReply job question reply trusted other) ∧
      (trusted = none → ∀ text, owner.flagAfterReply job question reply trusted text = true →
        job.values.bool owner.flag = true)

section

variable [SpeechLibrary] {job next : AgentJob} {question : VoiceQuestion}
  {resolution : AnswerResolution} {owner : ConfirmationOwner} {trusted : Option String}

/-! ### The words that are read -/

omit [SpeechLibrary] in
/-- Trusted words that are not empty are what is read. -/
theorem orElse_some {said : String} (h : said ≠ "") (text : String) : orElse (some said) text = said := by
  unfold orElse truthy
  rw [if_pos (by simpa using h)]
  rfl

/-- A handler that reads the text reads it where there are no trusted words. -/
theorem spokenAnswer_congr {confirmations : List String} {again declined : String} {flag : BoolField}
    {context : AnswerContext} {text other : String}
    (h : orElse context.trustedText text = orElse context.trustedText other) :
    spokenAnswer confirmations again flag declined job question resolution
        { context with text := text } =
      spokenAnswer confirmations again flag declined job question resolution
        { context with text := other } := by
  unfold spokenAnswer
  rw [h]
  rfl

theorem handler_congr {context : AnswerContext} {text other : String}
    (h : orElse context.trustedText text = orElse context.trustedText other) :
    owner.handler job question resolution { context with text := text } =
      owner.handler job question resolution { context with text := other } := by
  cases owner with
  | forkConfirmation =>
    simp only [ConfirmationOwner.handler, forkConfirmationAnswer]
    exact spokenAnswer_congr h
  | cloneConfirmation =>
    simp only [ConfirmationOwner.handler, cloneConfirmationAnswer]
    exact spokenAnswer_congr h
  | _ => rfl

/-- What a reply with these texts is. -/
theorem replyTo_with (reply : Reply) (trusted : Option String) (text : String) :
    replyTo owner.handler job question { reply with text, trustedUtterance := trusted } =
      if job.values.status ≠ .awaitingUser then .ok {}
      else if reply.expected job question ≠ question.identity then
        .ok { message := some "That answer belongs to an older question, so I did not use it." }
      else
        (withoutHandler job question reply.now
          (resolveAnswer question text trusted reply.provenance).outcome).getD
        (owner.handler job question (resolveAnswer question text trusted reply.provenance)
          { reply.context with text := text, trustedText := trusted }) := rfl

/-- A reply with trusted words that are not empty does not depend on its text. -/
theorem replyTo_congr {reply : Reply} {said : String} (h : said ≠ "") (text other : String) :
    replyTo owner.handler job question { reply with text, trustedUtterance := some said } =
      replyTo owner.handler job question
        { reply with text := other, trustedUtterance := some said } := by
  have hspoken : orElse (some said) text = orElse (some said) other := by
    rw [orElse_some h, orElse_some h]
  have hresolution : resolveAnswer question text (some said) reply.provenance =
      resolveAnswer question other (some said) reply.provenance := by
    unfold resolveAnswer
    rw [hspoken]
  let context : AnswerContext := { reply.context with trustedText := some said }
  have hhandler : owner.handler job question
      (resolveAnswer question other (some said) reply.provenance) { context with text := text } =
      owner.handler job question
        (resolveAnswer question other (some said) reply.provenance) { context with text := other } :=
    handler_congr hspoken
  rw [replyTo_with, replyTo_with, hresolution]
  split_ifs
  · rfl
  · rfl
  · exact congrArg _ hhandler

/-! ### Replies without trusted words -/

/-- The empty text is no answer. -/
theorem confirmation_empty (hempty : TextLibrary.casefold "" = "") {confirmations : List String}
    (h : "" ∉ confirmations) : confirmation "" confirmations forkRejections = none := by
  have hrejections : "" ∉ forkRejections := by decide
  unfold confirmation
  rw [hempty]
  change (if "" ∈ confirmations then some true
    else if "" ∈ forkRejections then some false else none) = none
  rw [if_neg h, if_neg hrejections]

/-- A handler that does not read the text refuses a reply without trusted words. -/
theorem handler_untrusted (hempty : TextLibrary.casefold "" = "") (howner : ¬ owner.ReadsText)
    {context : AnswerContext} (htrusted : context.trustedText = none ∨ context.trustedText = some "") :
    ∃ message, owner.handler job question resolution context = .ok { message := some message } := by
  have htrustedAnswer : ∀ {direct again declined : String} {confirmations : List String}
      {flag : BoolField}, "" ∉ confirmations →
      ∃ message, trustedAnswer direct confirmations again flag declined job question resolution
        context = .ok { message := some message } := by
    intro direct again declined confirmations flag h
    unfold trustedAnswer
    rcases htrusted with htrusted | htrusted
    · rw [htrusted]
      exact ⟨_, rfl⟩
    · simp only [htrusted, flagAnswer, confirmed, confirmation_empty hempty h]
      exact ⟨_, rfl⟩
  cases owner with
  | forkConfirmation => exact absurd (.inl rfl) howner
  | cloneConfirmation => exact absurd (.inr rfl) howner
  | githubIssueFileAsOne =>
    change ∃ message, githubIssueFileAsOneAnswer job question resolution context = _
    have h : "" ∉ forkConfirmations ++ ["create the issue", "file it"] := by decide
    unfold githubIssueFileAsOneAnswer
    rcases htrusted with htrusted | htrusted
    · rw [htrusted]
      exact ⟨_, rfl⟩
    · simp only [htrusted, confirmed, confirmation_empty hempty h]
      exact ⟨_, rfl⟩
  | _ => exact htrustedAnswer (by decide)

/-- A delivery that is marked keeps the flag. -/
theorem flag_markDelivered {deliveredAt : Option Time} {changes : List Change}
    (hchanges : Field.bool owner.flag ∉ changes.map Sigma.fst)
    (h : job.markDelivered deliveredAt none changes = .ok next) :
    next.values.bool owner.flag = job.values.bool owner.flag := by
  have hflag : ∀ owner : ConfirmationOwner, Field.bool owner.flag ∉ Values.canonicalFields ∧
      Field.bool owner.flag ∉ Values.deliveryFields ∧
      Field.bool owner.flag ∉ Values.workerClaimFields ∧
      Field.bool owner.flag ∉ [Field.int .schemaVersion, .int .revision] := by
    intro owner
    cases owner <;> decide
  obtain ⟨hcanonicalField, hdelivery, hclaim, hstamp⟩ := hflag owner
  obtain ⟨current, -, h⟩ := checked_bind_eq_ok_iff.mp h
  obtain ⟨state, -, h⟩ := checked_bind_eq_ok_iff.mp h
  rw [Option.toList_none, List.map_nil, List.append_nil] at h
  obtain ⟨values, hcanonical, hvalues⟩ := AgentJob.fromDict_ok (AgentJob.updated_ok h).1
  have hfields : Field.bool owner.flag ∉ (changes ++ state.fields).map Sigma.fst := by
    rw [List.map_append, List.mem_append, not_or]
    exact ⟨hchanges, fun hmem ↦ hdelivery (state.fields_subset hmem)⟩
  unfold Values.bool Values.get
  rw [hvalues, Values.agreeOff_canonicalise hcanonical _ hcanonicalField]
  unfold AgentJob.updatedRecord
  rw [Values.update_of_notMem _ hstamp, Values.agreeOff_pairWorkerOwnership _ hclaim,
    Values.update_of_notMem _ hfields]

/-- A reply without trusted words leaves the flag where the handler does not read the text. -/
theorem flagAfterReply_untrusted (hempty : TextLibrary.casefold "" = "") (howner : ¬ owner.ReadsText)
    {reply : Reply} {trusted : Option String} (htrusted : trusted = none ∨ trusted = some "")
    (text : String) :
    owner.flagAfterReply job question reply trusted text = job.values.bool owner.flag := by
  unfold ConfirmationOwner.flagAfterReply
  rw [replyTo_with]
  split_ifs
  · rfl
  · rfl
  · obtain ⟨message, hhandler⟩ : ∃ message, owner.handler job question
        (resolveAnswer question text trusted reply.provenance)
        { reply.context with text := text, trustedText := trusted } =
          .ok { message := some message } := handler_untrusted hempty howner htrusted
    rw [hhandler]
    cases (resolveAnswer question text trusted reply.provenance).outcome with
    | accepted | again | ambiguous | rejected => rfl
    | deferred =>
      unfold withoutHandler
      rw [Option.getD_some]
      rcases question.envelope .deferred job.values.jobId id with error | envelope
      · rfl
      · rcases hkept : job.markDelivered none none [.put (.float .updatedAt) (some reply.now),
          .put (.structured .voiceQuestion) (some envelope)] with error | kept
        · simp only [flagAfter, bind, Except.bind, hkept]
        · simp only [flagAfter, bind, Except.bind, hkept]
          exact flag_markDelivered (by simp) hkept

/-! ### The trusted words decide -/

omit [SpeechLibrary] in
theorem untrusted_of_not_said (h : ¬ ∃ said, trusted = some said ∧ said ≠ "") :
    trusted = none ∨ trusted = some "" := by
  rcases trusted with _ | said
  · exact .inl rfl
  · right
    by_contra hne
    exact h ⟨said, rfl, fun heq ↦ hne (by rw [heq])⟩

omit [SpeechLibrary] in
/-- Every owner follows the trusted words, but those that read the text of a reply without them. -/
theorem followsTrusted (h : ¬ owner.ReadsText ∨ ∃ said, trusted = some said ∧ said ≠ "") :
    owner.FollowsTrusted trusted := by
  intro library hempty job question reply _
  by_cases hsaid : ∃ said, trusted = some said ∧ said ≠ ""
  · obtain ⟨said, rfl, hne⟩ := hsaid
    refine ⟨fun text other ↦ ?_, fun hnone ↦ by cases hnone⟩
    unfold ConfirmationOwner.flagAfterReply
    rw [replyTo_congr hne]
  · have htrusted := untrusted_of_not_said hsaid
    have howner := h.resolve_right hsaid
    refine ⟨fun text other ↦ ?_, fun _ text hflag ↦ ?_⟩
    · rw [flagAfterReply_untrusted hempty howner htrusted,
        flagAfterReply_untrusted hempty howner htrusted]
    · rwa [flagAfterReply_untrusted hempty howner htrusted] at hflag

end

/-! ### A text that confirms -/

section

attribute [local instance] asciiSpeechLibrary

/-- The record of a job that asks for a confirmation. -/
def awaitingRecord (owner : ConfirmationOwner) : Values :=
  let spec : NewAgentJob :=
    { id := "0123456789ab", request := "Fork the parser", createdAt := 0, foregroundUntil := 0
      harnessKind := .cursor, details := .empty }
  spec.record.update
    [.put (.jobStatus .status) (some .awaitingUser),
      .put (.text .question) (some "Please confirm."), .put (.text .result) (some "Please confirm."),
      .put (.text .clarificationKind) (some owner.value)]

/-- The question of that job; a record without an envelope has this one. -/
def awaitingQuestion (owner : ConfirmationOwner) : VoiceQuestion where
  id := "legacy-0123456789ab-0"
  text := "Please confirm."
  kind := .freeText
  sensitivity := .unspecified
  origin :=
    { provider := "cursor", jobId := "0123456789ab", turnToken := "0123456789ab-routing-0" }
  choices := []
  owner := owner.value
  state := .pending
  askedAt := 0
  answer := none
  trustedAnswer := none
  answeredAt := none
  dispatchToken := none
  prompt := ⟨none, none, none, none, none⟩
  promptSubmittedAt := none
  promptAbsentObservations := 0

/-- A reply that was typed. -/
def typedReply : Reply where
  text := ""
  trustedUtterance := none
  expectedQuestionId := none
  expectedQuestionTurn := none
  provenance := .userText
  now := 1
  foregroundUntil := 8

/-- A typed yes sets the flag of a fork and of a clone; the empty text is no answer. -/
theorem exists_typed {owner : ConfirmationOwner} {trusted : Option String}
    (howner : owner.ReadsText) (htrusted : trusted = none ∨ trusted = some "") :
    ∃ job, AgentJob.fromDict (awaitingRecord owner) = .ok job ∧
      owner.flagAfterReply job (awaitingQuestion owner) typedReply trusted "yes" = true ∧
      owner.flagAfterReply job (awaitingQuestion owner) typedReply trusted "" = false := by
  have hrun : (AgentJob.fromDict (awaitingRecord owner)).toOption.any (fun job ↦
      [none, some ""].all fun trusted ↦
        owner.flagAfterReply job (awaitingQuestion owner) typedReply trusted "yes" &&
          !owner.flagAfterReply job (awaitingQuestion owner) typedReply trusted "") = true := by
    rcases howner with rfl | rfl <;> decide +kernel
  simp only [Option.any_eq_true, List.all_eq_true, Bool.and_eq_true, Bool.not_eq_true'] at hrun
  obtain ⟨job, hread, hflags⟩ := hrun
  exact ⟨job, checked_toOption_eq_some_iff.mp hread, hflags trusted (by simpa using htrusted)⟩

/-- The flag follows the trusted words, for every job, question and pair of texts, exactly where the
handler refuses a reply without trusted words, or the trusted words are not empty. -/
theorem confirmation_follows_trusted_iff (owner : ConfirmationOwner) (trusted : Option String) :
    owner.FollowsTrusted trusted ↔
      ¬ owner.ReadsText ∨ ∃ said, trusted = some said ∧ said ≠ "" := by
  refine ⟨fun hfollows ↦ ?_, followsTrusted⟩
  by_contra hneither
  rw [not_or, not_not] at hneither
  obtain ⟨howner, hsaid⟩ := hneither
  have htrusted : trusted = none ∨ trusted = some "" := untrusted_of_not_said hsaid
  obtain ⟨job, -, hyes, hno⟩ := exists_typed howner htrusted
  have hempty : asciiSpeechLibrary.casefold "" = "" := by decide +kernel
  have hsame :=
    (hfollows asciiSpeechLibrary hempty job (awaitingQuestion owner) typedReply rfl).1 "yes" ""
  rw [hyes, hno] at hsame
  cases hsame

/-- A typed yes without trusted words confirms a fork. -/
theorem fork_confirmed_untrusted :
    ∃ job, AgentJob.fromDict (awaitingRecord .forkConfirmation) = .ok job ∧
      job.values.bool .forkConfirmed = false ∧
      (replyTo forkConfirmationAnswer job (awaitingQuestion .forkConfirmation)
        { typedReply with text := "yes" }).toOption.any
          (fun transition ↦ transition.job.any fun next : AgentJob ↦
            next.values.bool .forkConfirmed) = true := by
  have hrun : (AgentJob.fromDict (awaitingRecord .forkConfirmation)).toOption.any (fun job ↦
      !job.values.bool .forkConfirmed &&
        (replyTo forkConfirmationAnswer job (awaitingQuestion .forkConfirmation)
          { typedReply with text := "yes" }).toOption.any
            fun transition ↦ transition.job.any fun next : AgentJob ↦
              next.values.bool .forkConfirmed) = true := by decide +kernel
  simp only [Option.any_eq_true, Bool.and_eq_true, Bool.not_eq_true'] at hrun ⊢
  obtain ⟨job, hread, hflag, hconfirmed⟩ := hrun
  exact ⟨job, checked_toOption_eq_some_iff.mp hread, hflag, hconfirmed⟩

end

end VoiceHarness
