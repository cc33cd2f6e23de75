import VoiceHarness.Delivery.Commands
import VoiceHarness.Question.Prompt
import VoiceHarness.Text

/-!
# Answers

The question broker: what a spoken or typed reply means to a pending question, and the legal changes
of its envelope. A reply comes as a text, which may carry the words of a page or of a model, and as
the trusted words of the user; the broker resolves the trusted words, or the text where there are none.
-/

set_option autoImplicit false
set_option relaxedAutoImplicit false

namespace VoiceHarness

/-- The text library with the word characters of a pattern. -/
class SpeechLibrary extends TextLibrary where
  isWord : Char → Bool

/-- A speech library that is right on ASCII text. -/
@[reducible] def asciiSpeechLibrary : SpeechLibrary where
  toTextLibrary := asciiTextLibrary
  isWord c := c.isAlphanum || c = '_'

/-! ### Text -/

/-- A property of the characters of a text is decided over the text. -/
instance decidableForallMem (text : List Char) (p : Char → Prop) [DecidablePred p] :
    Decidable (∀ c ∈ text, p c) :=
  List.decidableBAll p text

/-- `text.strip()`. -/
def strip (text : String) : String :=
  String.ofList ((text.toList.dropWhile isSpace).reverse.dropWhile isSpace).reverse

theorem strip_eq (text : String) : strip text = String.ofList (stripText text.toList) := rfl

@[simp] theorem strip_strip (text : String) : strip (strip text) = strip text := by
  rw [strip_eq, strip_eq, String.toList_ofList, stripText_stripText]

/-- `" ".join(text.split())`. -/
def joinWords (text : List Char) : List Char := [' '].intercalate (splitWords text)

/-- The apostrophe, and the typographic one. -/
def apostrophe : Char := Char.ofNat 0x27

def closingQuote : Char := Char.ofNat 0x2019

section Patterns

variable [SpeechLibrary]

/-- `\b` between two characters; the ends of a text are no words. -/
def atBoundary (previous : Bool) (rest : List Char) : Bool :=
  previous != rest.head?.any SpeechLibrary.isWord

/-- The rest of a text after a literal. -/
def afterLiteral (literal : String) (text : List Char) : Option (List Char) :=
  if literal.toList.isPrefixOf text then some (text.drop literal.length) else none

/-- `re.sub(r"\bword\b", replacement, text)`; the first argument is what is left of a match. -/
def replaceWord (word replacement : String) : ℕ → Bool → List Char → List Char
  | _, _, [] => []
  | skip + 1, _, c :: rest => replaceWord word replacement skip (SpeechLibrary.isWord c) rest
  | 0, previous, c :: rest =>
    let matched := (afterLiteral word (c :: rest)).filter fun after ↦
      atBoundary previous (c :: rest) &&
        atBoundary (word.toList.getLast?.any SpeechLibrary.isWord) after
    if matched.isSome then
      replacement.toList ++ replaceWord word replacement (word.length - 1) (SpeechLibrary.isWord c) rest
    else c :: replaceWord word replacement 0 (SpeechLibrary.isWord c) rest

/-- `_normalize`. -/
def normalizeAnswer (value : String) : String :=
  let kept := (TextLibrary.casefold value).toList.filter fun c ↦
    SpeechLibrary.isWord c || isSpace c || c = apostrophe || c = '-'
  String.ofList (joinWords (replaceWord "acknowledgement" "acknowledgment" 0 false kept))

/-- `_ORDINALS`. -/
def ordinals : List (String × ℕ) :=
  [("first", 0), ("one", 0), ("1", 0), ("second", 1), ("two", 1), ("2", 1), ("third", 2),
    ("three", 2), ("3", 2), ("fourth", 3), ("four", 3), ("4", 3), ("fifth", 4), ("five", 4), ("5", 4)]

/-- An ordinal that ends at a boundary, and the text after it. No two of them match at one place. -/
def afterLastOrdinal (text : List Char) : Option (ℕ × List Char) :=
  ordinals.findSome? fun (name, ordinal) ↦
    ((afterLiteral name text).filter
      (atBoundary (name.toList.getLast?.any SpeechLibrary.isWord))).map (ordinal, ·)

/-- `(?:option|choice)(?: number)? (?P<ordinal>…)\b`. -/
def optionReference (text : List Char) : Option (ℕ × List Char) := do
  let noun ← (afterLiteral "option" text).or (afterLiteral "choice" text)
  ((afterLiteral " number " noun).bind afterLastOrdinal).or
    ((afterLiteral " " noun).bind afterLastOrdinal)

/-- `(?P<ordinal>…) (?:option|choice|one)\b`. -/
def ordinalReference (text : List Char) : Option (ℕ × List Char) :=
  ordinals.findSome? fun (name, ordinal) ↦ do
    let noun ← (afterLiteral name text).bind (afterLiteral " ")
    ["option", "choice", "one"].findSome? fun word ↦
      ((afterLiteral word noun).filter
        (atBoundary (word.toList.getLast?.any SpeechLibrary.isWord))).map (ordinal, ·)

/-- `finditer` of a pattern that starts at a boundary. -/
def findOrdinals (pattern : List Char → Option (ℕ × List Char)) :
    ℕ → Bool → List Char → List ℕ
  | _, _, [] => []
  | skip + 1, _, c :: rest => findOrdinals pattern skip (SpeechLibrary.isWord c) rest
  | 0, previous, c :: rest =>
    match if atBoundary previous (c :: rest) then pattern (c :: rest) else none with
    | some (ordinal, after) =>
      ordinal :: findOrdinals pattern (rest.length - after.length) (SpeechLibrary.isWord c) rest
    | none => findOrdinals pattern 0 (SpeechLibrary.isWord c) rest

/-- `_choice_ordinals`. -/
def choiceOrdinals (value : String) : List ℕ :=
  match ordinals.find? (·.1 = value) with
  | some (_, ordinal) => [ordinal]
  | none => (findOrdinals optionReference 0 false value.toList ++
      findOrdinals ordinalReference 0 false value.toList).eraseDups

end Patterns

/-! ### The question -/

inductive QuestionKind
  | freeText | multipleChoice
  deriving DecidableEq, Repr

def QuestionKind.value : QuestionKind → String
  | freeText => "free_text"
  | multipleChoice => "multiple_choice"

inductive QuestionSensitivity
  | unspecified | routine | security | destructive | architecture | product
  deriving DecidableEq, Repr

def QuestionSensitivity.value : QuestionSensitivity → String
  | unspecified => "unspecified"
  | routine => "routine"
  | security => "security"
  | destructive => "destructive"
  | architecture => "architecture"
  | product => "product"

inductive QuestionState
  | pending | deferred | answered | dispatching | resolved | cancelled
  deriving DecidableEq, Repr

namespace QuestionState

def value : QuestionState → String
  | pending => "pending"
  | deferred => "deferred"
  | answered => "answered"
  | dispatching => "dispatching"
  | resolved => "resolved"
  | cancelled => "cancelled"

/-- `_LEGAL_QUESTION_TRANSITIONS`. -/
def legalEdges : QuestionState → List QuestionState
  | pending => [deferred, answered, resolved, cancelled]
  | deferred => [deferred, answered, resolved, cancelled]
  | answered => [dispatching, resolved, cancelled]
  | dispatching => [dispatching, resolved, cancelled]
  | resolved => []
  | cancelled => []

end QuestionState

structure QuestionIdentity where
  jobId : String
  questionId : String
  turnToken : String
  deriving DecidableEq

structure Choice where
  id : String
  label : String
  deriving DecidableEq

structure QuestionOrigin where
  provider : String
  jobId : String
  turnToken : String
  deriving DecidableEq

/-- The `Question` of the broker, with its prompt fields in `prompt`. -/
structure VoiceQuestion where
  id : String
  text : String
  kind : QuestionKind
  sensitivity : QuestionSensitivity
  origin : QuestionOrigin
  choices : List Choice
  owner : String
  state : QuestionState
  askedAt : Time
  answer : Option String
  trustedAnswer : Option String
  answeredAt : Option Time
  dispatchToken : Option String
  prompt : Question
  promptSubmittedAt : Option Time
  promptAbsentObservations : ℤ
  deriving DecidableEq

namespace VoiceQuestion

variable (question : VoiceQuestion)

/-- `question_identity`. -/
def identity : QuestionIdentity :=
  { jobId := question.origin.jobId, questionId := question.id
    turnToken := question.origin.turnToken }

/-- `to_dict`. -/
def toDict : Json :=
  let text := fun value : Option String ↦ (value.map Json.str).getD .null
  let number := fun value : Option Time ↦ (value.map Json.float).getD .null
  let integer := fun value : Option ℤ ↦ (value.map Json.int).getD .null
  .obj
    [("version", .int 1), ("id", .str question.id), ("text", .str question.text),
      ("kind", .str question.kind.value), ("sensitivity", .str question.sensitivity.value),
      ("origin", .obj [("provider", .str question.origin.provider),
        ("job_id", .str question.origin.jobId), ("turn_token", .str question.origin.turnToken)]),
      ("choices", .arr (question.choices.map fun choice ↦
        .obj [("id", .str choice.id), ("label", .str choice.label)])),
      ("owner", .str question.owner), ("state", .str question.state.value),
      ("asked_at", .float question.askedAt), ("answer", text question.answer),
      ("trusted_answer", text question.trustedAnswer), ("answered_at", number question.answeredAt),
      ("dispatch_token", text question.dispatchToken),
      ("prompt_state", text (question.prompt.promptState.map PromptOperationState.value)),
      ("prompt_turn", integer question.prompt.promptTurn),
      ("prompt_target", text question.prompt.promptTarget),
      ("prompt_agent_session", text question.prompt.promptAgentSession),
      ("prompt_baseline_seq", integer question.prompt.promptBaselineSeq),
      ("prompt_submitted_at", number question.promptSubmittedAt),
      ("prompt_absent_observations", .int question.promptAbsentObservations)]

/-- `_validate_spec`. -/
def specGuards [TextLibrary] : List Guard :=
  let ids := question.choices.map fun choice ↦ TextLibrary.casefold (strip choice.id)
  [(isBlank question.text || 500 < question.text.length,
      "question text must contain 1 to 500 characters"),
    (question.kind = .multipleChoice && question.choices.length < 2,
      "multiple-choice question requires at least two choices"),
    (10 < question.choices.length, "question must not define more than ten choices"),
    (question.kind = .freeText && !question.choices.isEmpty,
      "free-text question must not define choices")] ++
  question.choices.flatMap (fun choice ↦
    [(isBlank choice.id || 80 < (strip choice.id).length,
        "question choice id must contain 1 to 80 characters"),
      (isBlank choice.label || 200 < (strip choice.label).length,
        "question choice label must contain 1 to 200 characters")]) ++
  [(!decide ids.Nodup, "question choice ids must be unique")]

/-- `_validate_question`. -/
def guards [TextLibrary] : List Guard :=
  let named := [question.id, question.owner, question.origin.provider, question.origin.jobId,
    question.origin.turnToken]
  let prompt := [question.prompt.promptTurn.isSome, question.prompt.promptTarget.isSome,
    question.prompt.promptAgentSession.isSome]
  question.specGuards ++
  [(named.any isBlank, "question identity fields must not be empty"),
    (question.promptAbsentObservations < 0, "prompt absent observations must not be negative"),
    (prompt.any (·) && !prompt.all (·), "question prompt identity is incomplete"),
    (question.state = .answered && (!truthy question.answer || question.answeredAt.isNone),
      question.state.value ++ " question requires an answer and answered_at"),
    (question.state = .dispatching &&
        (!truthy question.dispatchToken || question.prompt.promptState.isNone),
      "dispatching question requires a token and prompt operation state"),
    (question.state = .dispatching && question.prompt.promptState ∉
        [some .planned, some .submitted, some .observed, some .resolved],
      "dispatching question has an invalid prompt operation state")]

/-- `transition_question`, which checks the identity and the edge before it replaces the fields. -/
def transition [TextLibrary] (state : QuestionState) (identity : QuestionIdentity)
    (change : VoiceQuestion → VoiceQuestion) : Checked VoiceQuestion := do
  runGuards
    [(identity ≠ question.identity, "stale question identity"),
      (state ∉ question.state.legalEdges,
        s!"illegal question transition {question.state.value} -> {state.value}"),
      (state = .dispatching && (!truthy question.answer || question.answeredAt.isNone),
        "dispatching question requires an answer and answered_at")]
  let replaced := { change question with state := state }
  runGuards replaced.guards
  .ok replaced

/-- `envelope` of a job. -/
def envelope [TextLibrary] (state : QuestionState) (jobId : String)
    (change : VoiceQuestion → VoiceQuestion) : Checked Json :=
  toDict <$> question.transition state { question.identity with jobId } change

/-- The fields of an answer. -/
def answered (answer trustedAnswer : Option String) (now : Time) (question : VoiceQuestion) :
    VoiceQuestion :=
  { question with answer, trustedAnswer, answeredAt := some now }

end VoiceQuestion

/-! ### What a reply means -/

inductive AnswerOutcome
  | accepted | rejected | ambiguous | again | deferred
  deriving DecidableEq, Repr

inductive AnswerProvenance
  | userVoice | userText | automation
  deriving DecidableEq, Repr

structure AnswerResolution where
  outcome : AnswerOutcome
  answer : Option String := none
  trustedAnswer : Option String := none
  choiceLabel : Option String := none
  deriving DecidableEq

section Resolution

variable [SpeechLibrary]

/-- `question_control`. -/
def questionControl (value : String) : Option AnswerOutcome :=
  let normalized := normalizeAnswer value
  if normalized ∈ ["repeat", "repeat that", "say that again", "what was that"] then some .again
  else if normalized ∈ ["answer later", "i'll answer later", "ill answer later", "ask me later",
      "later"] then some .deferred
  else none

/-- The choices a reply matches: those it names, and the one its only ordinal refers to; none where
the ordinal is no choice, or there are several. -/
def matchedChoices (question : VoiceQuestion) (normalized : String) : Option (List Choice) :=
  let named := question.choices.filter fun choice ↦
    normalized = normalizeAnswer choice.id || normalized = normalizeAnswer choice.label
  match choiceOrdinals normalized with
  | [] => some named
  | [ordinal] =>
    question.choices[ordinal]?.map fun choice ↦
      if choice ∈ named then named else named ++ [choice]
  | _ => none

/-- `resolve_answer`. -/
def resolveAnswer (question : VoiceQuestion) (answer : String) (trustedAnswer : Option String)
    (provenance : AnswerProvenance) : AnswerResolution :=
  let said := orElse trustedAnswer answer
  match questionControl said with
  | some control => { outcome := control }
  | none =>
    if question.sensitivity ≠ .routine ∧ provenance = .automation then { outcome := .rejected }
    else
      match question.kind with
      | .freeText =>
        if strip said = "" then { outcome := .ambiguous }
        else
          { outcome := .accepted, answer := some (strip said), trustedAnswer := some (strip said) }
      | .multipleChoice =>
        match matchedChoices question (normalizeAnswer said) with
        | some [choice] =>
          { outcome := .accepted, answer := some choice.id, trustedAnswer := some (strip said)
            choiceLabel := some choice.label }
        | _ => { outcome := .ambiguous }

/-- `choices_prompt`. -/
def choicesPrompt (question : VoiceQuestion) : String :=
  " ".intercalate (question.choices.mapIdx fun index choice ↦
    s!"Option {index + 1} is {choice.label}.") ++ " Please choose one."

/-- `question_prompt`. -/
def questionPrompt (question : VoiceQuestion) : String :=
  if question.choices.isEmpty then question.text
  else question.text ++ " " ++ choicesPrompt question

end Resolution

end VoiceHarness
