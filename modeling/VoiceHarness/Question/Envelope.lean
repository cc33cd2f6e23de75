import VoiceHarness.Turn.Markers
import Mathlib.Logic.Relation

/-!
# The stored question

`Question.from_dict`, the inverse of `to_dict`, and the steps of `transition_question` with whatever changes
their callers pass. Loading strips the texts that a question is required to have, while construction takes them
as they are: what comes back is `VoiceQuestion.stripped`, and it is the question itself exactly where no text has
white space around it.
-/

set_option autoImplicit false
set_option relaxedAutoImplicit false

namespace VoiceHarness

/-! ### Fields of an envelope -/

/-- `_optional_string`. -/
def optionalString (raw : Option Json) (field : String) : Except QuestionError (Option String) :=
  match raw.getD .null with
  | .null => .ok none
  | .str value => .ok (some value)
  | _ => .error (.message s!"question {field} must be text")

/-- `_number`. -/
def questionNumber (raw : Json) (field : String) : Except QuestionError Time :=
  match raw with
  | .bool value => .ok (if value then 1 else 0)
  | .int value => .ok value
  | .float value => .ok value
  | _ => .error (.message s!"question {field} must be a number")

/-- `_optional_number`. -/
def optionalNumber (raw : Option Json) (field : String) : Except QuestionError (Option Time) :=
  match raw.getD .null with
  | .null => .ok none
  | given => some <$> questionNumber given field

/-- `_integer`. -/
def questionInteger (raw : Json) (field : String) : Except QuestionError ℤ :=
  match raw with
  | .int value => .ok value
  | _ => .error (.message s!"question {field} must be an integer")

/-- `_optional_int`. -/
def optionalInteger (raw : Option Json) (field : String) : Except QuestionError (Option ℤ) :=
  match raw.getD .null with
  | .null => .ok none
  | given => some <$> questionInteger given field

/-- `value or ""`. -/
def orEmpty (raw : Json) : Json := if jsonTruthy raw then raw else .str ""

/-- A member of an enumeration, or the `ValueError` of its constructor. -/
def requiredMember {α : Type} (enumeration : String) (members : List α) (value : α → String) (raw : Json) :
    Except QuestionError α :=
  match enumMember members value raw with
  | some found => .ok found
  | none => .error (.notOf enumeration raw)

namespace QuestionKind

def all : List QuestionKind := [freeText, multipleChoice]

end QuestionKind

namespace QuestionSensitivity

def all : List QuestionSensitivity :=
  [unspecified, routine, security, destructive, architecture, product]

end QuestionSensitivity

namespace QuestionState

def all : List QuestionState := [pending, deferred, answered, dispatching, resolved, cancelled]

end QuestionState

namespace PromptOperationState

def all : List PromptOperationState :=
  [idle, planned, submitting, submitted, observed, ambiguous, resolved]

end PromptOperationState

/-- A choice of the list; what is no object is left out. -/
def storedChoices : List Json → Except QuestionError (List Choice)
  | [] => .ok []
  | .obj values :: rest => do
    let id ← requiredString values "id"
    let label ← requiredString values "label"
    let choices ← storedChoices rest
    .ok (⟨id, label⟩ :: choices)
  | _ :: rest => storedChoices rest

/-- The choices of an envelope. -/
def loadChoices (raw : Json) : Except QuestionError (List Choice) :=
  match raw with
  | .arr items => do
    let choices ← storedChoices items
    if choices.length ≠ items.length then .error (.message "question choice must be an object")
    else .ok choices
  | _ => .error (.message "question choices must be a list")

/-- The sensitivity of an envelope. -/
def loadSensitivity (raw : Json) : Except QuestionError QuestionSensitivity :=
  if jsonTruthy raw then
    requiredMember "QuestionSensitivity" QuestionSensitivity.all QuestionSensitivity.value raw
  else .ok .unspecified

/-- The prompt state of an envelope. -/
def loadPromptState (raw : Json) : Except QuestionError (Option PromptOperationState) :=
  match raw with
  | .null => .ok none
  | given =>
    some <$> requiredMember "PromptOperationState" PromptOperationState.all PromptOperationState.value given

namespace VoiceQuestion

/-- The construction of a question, which validates itself. -/
def checked [TextLibrary] (question : VoiceQuestion) : Except QuestionError VoiceQuestion :=
  match runGuards question.guards with
  | .ok () => .ok question
  | .error text => .error (.message text)

/-- The fields of an envelope with its origin. -/
def load [TextLibrary] (raw origin : Dict) : Except QuestionError VoiceQuestion := do
  let provider ← requiredString origin "provider"
  let jobId ← requiredString origin "job_id"
  let turnToken ← requiredString origin "turn_token"
  let choices ← loadChoices ((raw.get? "choices").getD (.arr []))
  let id ← requiredString raw "id"
  let text ← requiredString raw "text"
  let kind ← requiredMember "QuestionKind" QuestionKind.all QuestionKind.value
    (orEmpty ((raw.get? "kind").getD .null))
  let sensitivity ← loadSensitivity ((raw.get? "sensitivity").getD .null)
  let owner ← requiredString raw "owner"
  let state ← requiredMember "QuestionState" QuestionState.all QuestionState.value
    (orEmpty ((raw.get? "state").getD .null))
  let askedAt ← questionNumber ((raw.get? "asked_at").getD .null) "asked_at"
  let answer ← optionalString (raw.get? "answer") "answer"
  let trustedAnswer ← optionalString (raw.get? "trusted_answer") "trusted_answer"
  let answeredAt ← optionalNumber (raw.get? "answered_at") "answered_at"
  let dispatchToken ← optionalString (raw.get? "dispatch_token") "dispatch_token"
  let promptState ← loadPromptState ((raw.get? "prompt_state").getD .null)
  let promptTurn ← optionalInteger (raw.get? "prompt_turn") "prompt_turn"
  let promptTarget ← optionalString (raw.get? "prompt_target") "prompt_target"
  let promptAgentSession ← optionalString (raw.get? "prompt_agent_session") "prompt_agent_session"
  let promptBaselineSeq ← optionalInteger (raw.get? "prompt_baseline_seq") "prompt_baseline_seq"
  let promptSubmittedAt ← optionalNumber (raw.get? "prompt_submitted_at") "prompt_submitted_at"
  let promptAbsentObservations ← questionInteger
    ((raw.get? "prompt_absent_observations").getD (.int 0)) "prompt_absent_observations"
  checked
    { id, text, kind, sensitivity, origin := { provider, jobId, turnToken }, choices, owner, state, askedAt
      answer, trustedAnswer, answeredAt, dispatchToken
      prompt := { promptState, promptTurn, promptTarget, promptAgentSession, promptBaselineSeq }
      promptSubmittedAt, promptAbsentObservations }

/-- `from_dict`. -/
def fromDict [TextLibrary] : Json → Except QuestionError VoiceQuestion
  | .obj raw =>
    if !(Dict.get? raw "version").any jsonIsOne then .error (.message "unsupported question envelope")
    else
      match Dict.get? raw "origin" with
      | some (.obj origin) => load raw origin
      | _ => .error (.message "question requires an origin")
  | _ => .error (.message "unsupported question envelope")

/-- `validate_question_identity`. -/
def validateIdentity (question : VoiceQuestion) (identity : QuestionIdentity) : Except QuestionError Unit :=
  if identity ≠ question.identity then .error (.message "stale question identity") else .ok ()

/-! ### The question that comes back -/

/-- The question with the texts that loading strips. -/
def stripped (question : VoiceQuestion) : VoiceQuestion :=
  { question with
    id := strip question.id
    text := strip question.text
    origin := ⟨strip question.origin.provider, strip question.origin.jobId, strip question.origin.turnToken⟩
    choices := question.choices.map fun choice ↦ ⟨strip choice.id, strip choice.label⟩
    owner := strip question.owner }

/-- No text that a question is required to have has white space around it. -/
def Trimmed (question : VoiceQuestion) : Prop :=
  (∀ text ∈ [question.id, question.text, question.origin.provider, question.origin.jobId,
      question.origin.turnToken, question.owner], strip text = text) ∧
    ∀ choice ∈ question.choices, strip choice.id = choice.id ∧ strip choice.label = choice.label

instance (question : VoiceQuestion) : Decidable question.Trimmed :=
  inferInstanceAs (Decidable (_ ∧ _))

theorem stripped_eq_iff (question : VoiceQuestion) : question.stripped = question ↔ question.Trimmed := by
  have hchoices : question.choices.map (fun choice ↦ (⟨strip choice.id, strip choice.label⟩ : Choice)) =
      question.choices ↔
        ∀ choice ∈ question.choices, strip choice.id = choice.id ∧ strip choice.label = choice.label := by
    constructor
    · intro h choice hchoice
      have heq := List.map_inj_left.mp (h.trans (List.map_id _).symm) choice hchoice
      exact ⟨congrArg Choice.id heq, congrArg Choice.label heq⟩
    · intro h
      have hself : ∀ choice ∈ question.choices, (⟨strip choice.id, strip choice.label⟩ : Choice) = choice := by
        intro choice hchoice
        obtain ⟨hid, hlabel⟩ := h choice hchoice
        rw [hid, hlabel]
      exact (List.map_congr_left hself).trans (List.map_id' _)
  rw [Trimmed, ← hchoices]
  constructor
  · intro h
    refine ⟨?_, congrArg choices h⟩
    simp only [List.forall_mem_cons, List.not_mem_nil, false_implies, implies_true, and_true]
    exact ⟨congrArg id h, congrArg text h, congrArg (·.origin.provider) h, congrArg (·.origin.jobId) h,
      congrArg (·.origin.turnToken) h, congrArg owner h⟩
  · rintro ⟨htexts, hmap⟩
    simp only [List.forall_mem_cons, List.not_mem_nil, false_implies, implies_true, and_true] at htexts
    obtain ⟨hid, htext, hprovider, hjob, htoken, howner⟩ := htexts
    rw [stripped, hid, htext, hprovider, hjob, htoken, howner, hmap]

end VoiceQuestion

/-! ### Stripped texts -/

theorem isBlank_iff (text : String) : isBlank text = true ↔ solidText text.toList = [] := by
  rw [isBlank, List.all_eq_true, solidText_eq_nil_iff]

@[simp] theorem isBlank_strip (text : String) : isBlank (strip text) = isBlank text := by
  rw [Bool.eq_iff_iff, isBlank_iff, isBlank_iff, strip_eq, String.toList_ofList, solidText_stripText]

theorem length_strip_le (text : String) : (strip text).length ≤ text.length := by
  have hdrop := List.length_dropWhile_le isSpace text.toList
  have hend := List.length_dropWhile_le isSpace (text.toList.dropWhile isSpace).reverse
  rw [List.length_reverse] at hend
  rw [strip_eq, String.length_ofList, stripText, List.length_reverse, ← String.length_toList]
  exact hend.trans hdrop

namespace VoiceQuestion

variable [TextLibrary] {question : VoiceQuestion}

/-- What validation says of the texts. -/
structure Named (question : VoiceQuestion) : Prop where
  texts : ∀ text ∈ [question.id, question.text, question.origin.provider, question.origin.jobId,
    question.origin.turnToken, question.owner], isBlank text = false
  choices : ∀ choice ∈ question.choices, isBlank choice.id = false ∧ isBlank choice.label = false

theorem named_of_runGuards (h : runGuards question.guards = .ok ()) : question.Named := by
  rw [runGuards_eq_ok_iff] at h
  have hspec : ∀ guard ∈ question.specGuards, guard.1 = false := by
    intro guard hguard
    exact h guard (List.mem_append_left _ hguard)
  have hnames := h _ (List.mem_append_right _ List.mem_cons_self)
  have htext := hspec _ (List.mem_append_left _ (List.mem_append_left _ List.mem_cons_self))
  rw [Bool.or_eq_false_iff] at htext
  constructor
  · simp only [List.any_cons, List.any_nil, Bool.or_false, Bool.or_eq_false_iff] at hnames
    obtain ⟨hid, howner, hprovider, hjob, htoken⟩ := hnames
    simp only [List.forall_mem_cons, List.not_mem_nil, false_implies, implies_true, and_true]
    exact ⟨hid, htext.1, hprovider, hjob, htoken, howner⟩
  · intro choice hchoice
    have hmem : ∀ guard ∈ [(isBlank choice.id || 80 < (strip choice.id).length,
          "question choice id must contain 1 to 80 characters"),
        (isBlank choice.label || 200 < (strip choice.label).length,
          "question choice label must contain 1 to 200 characters")], guard.1 = false := by
      intro guard hguard
      refine hspec guard (List.mem_append_left _ (List.mem_append_right _ ?_))
      exact List.mem_flatMap.mpr ⟨choice, hchoice, hguard⟩
    have hid := hmem _ List.mem_cons_self
    have hlabel := hmem _ (List.mem_cons_of_mem _ List.mem_cons_self)
    rw [Bool.or_eq_false_iff] at hid hlabel
    exact ⟨hid.1, hlabel.1⟩

/-- Stripping shortens the text and leaves every other guard as it is. -/
theorem guards_stripped (question : VoiceQuestion) :
    question.stripped.guards = (isBlank question.text || 500 < (strip question.text).length,
      "question text must contain 1 to 500 characters") :: question.guards.tail := by
  simp only [guards, specGuards, stripped, List.map_map, List.length_map, List.flatMap_map,
    List.isEmpty_map, Function.comp_def, isBlank_strip, strip_strip, List.any_cons, List.any_nil,
    List.cons_append, List.tail_cons]
  rfl

/-- A question that is accepted is accepted stripped. -/
theorem runGuards_stripped (h : runGuards question.guards = .ok ()) :
    runGuards question.stripped.guards = .ok () := by
  rw [runGuards_eq_ok_iff] at h ⊢
  have htext := h _ (List.mem_append_left _ (List.mem_append_left _ (List.mem_append_left _
    List.mem_cons_self)))
  rw [Bool.or_eq_false_iff, decide_eq_false_iff_not] at htext
  rw [guards_stripped, List.forall_mem_cons]
  constructor
  · have hlength := length_strip_le question.text
    rw [Bool.or_eq_false_iff, decide_eq_false_iff_not]
    exact ⟨htext.1, by omega⟩
  · intro guard hguard
    exact h guard (List.mem_of_mem_tail hguard)

end VoiceQuestion

/-! ### Loading what was stored -/

theorem get?_cons (key : String) (value : Json) (mapping : Dict) (field : String) :
    Dict.get? ((key, value) :: mapping) field =
      if key = field then some value else Dict.get? mapping field := by
  rw [Dict.get?, List.find?_cons]
  by_cases h : key = field
  · rw [if_pos h, decide_eq_true h]
    rfl
  · rw [if_neg h, decide_eq_false h]
    rfl

theorem requiredString_of_get? {values : Dict} {field text : String} (h : values.get? field = some (.str text))
    (hblank : isBlank text = false) : requiredString values field = .ok (strip text) := by
  rw [requiredString, h]
  simp only [hblank]
  rfl

theorem storedChoices_toDict {choices : List Choice}
    (h : ∀ choice ∈ choices, isBlank choice.id = false ∧ isBlank choice.label = false) :
    storedChoices (choices.map fun choice ↦ .obj [("id", .str choice.id), ("label", .str choice.label)]) =
      .ok (choices.map fun choice ↦ ⟨strip choice.id, strip choice.label⟩) := by
  induction choices with
  | nil => rfl
  | cons choice choices ih =>
    obtain ⟨⟨hid, hlabel⟩, hrest⟩ := List.forall_mem_cons.mp h
    rw [List.map_cons, storedChoices, requiredString_of_get? rfl hid, requiredString_of_get? rfl hlabel,
      ih hrest]
    rfl

theorem loadChoices_toDict {choices : List Choice}
    (h : ∀ choice ∈ choices, isBlank choice.id = false ∧ isBlank choice.label = false) :
    loadChoices (.arr (choices.map fun choice ↦
        .obj [("id", .str choice.id), ("label", .str choice.label)])) =
      .ok (choices.map fun choice ↦ ⟨strip choice.id, strip choice.label⟩) := by
  rw [loadChoices, storedChoices_toDict h]
  simp [bind, Except.bind]

theorem requiredMember_kind (kind : QuestionKind) :
    requiredMember "QuestionKind" QuestionKind.all QuestionKind.value (orEmpty (.str kind.value)) =
      .ok kind := by
  cases kind <;> rfl

theorem loadSensitivity_value (sensitivity : QuestionSensitivity) :
    loadSensitivity (.str sensitivity.value) = .ok sensitivity := by
  cases sensitivity <;> rfl

theorem requiredMember_state (state : QuestionState) :
    requiredMember "QuestionState" QuestionState.all QuestionState.value (orEmpty (.str state.value)) =
      .ok state := by
  cases state <;> rfl

theorem loadPromptState_value (state : Option PromptOperationState) :
    loadPromptState (((state.map PromptOperationState.value).map Json.str).getD .null) = .ok state := by
  cases state with
  | none => rfl
  | some state => cases state <;> rfl

theorem optionalString_value (value : Option String) (field : String) :
    optionalString (some ((value.map Json.str).getD .null)) field = .ok value := by
  cases value <;> rfl

theorem optionalNumber_value (value : Option Time) (field : String) :
    optionalNumber (some ((value.map Json.float).getD .null)) field = .ok value := by
  cases value <;> rfl

theorem optionalInteger_value (value : Option ℤ) (field : String) :
    optionalInteger (some ((value.map Json.int).getD .null)) field = .ok value := by
  cases value <;> rfl

namespace VoiceQuestion

variable [TextLibrary] {question : VoiceQuestion}

theorem checked_of_runGuards (h : runGuards question.guards = .ok ()) : question.checked = .ok question := by
  rw [checked, h]

/-- A question that is accepted comes back stripped. -/
theorem fromDict_toDict (h : runGuards question.guards = .ok ()) :
    fromDict question.toDict = .ok question.stripped := by
  have hnamed := named_of_runGuards h
  have htexts := hnamed.texts
  simp only [List.forall_mem_cons, List.not_mem_nil, false_implies, implies_true, and_true] at htexts
  obtain ⟨hid, htext, hprovider, hjob, htoken, howner⟩ := htexts
  have hload : fromDict question.toDict = load question.toDict.asDict
      [("provider", .str question.origin.provider), ("job_id", .str question.origin.jobId),
        ("turn_token", .str question.origin.turnToken)] := by
    simp only [toDict, fromDict, Json.asDict, get?_cons, String.reduceEq, if_true, if_false]
    rfl
  rw [hload, load, requiredString_of_get? rfl hprovider, requiredString_of_get? rfl hjob,
    requiredString_of_get? rfl htoken, requiredString_of_get? rfl hid, requiredString_of_get? rfl htext,
    requiredString_of_get? rfl howner]
  simp only [toDict, Json.asDict, get?_cons, String.reduceEq, if_true, if_false, Option.getD_some,
    loadChoices_toDict hnamed.choices, requiredMember_kind, loadSensitivity_value, requiredMember_state,
    loadPromptState_value, optionalString_value, optionalNumber_value, optionalInteger_value, questionNumber,
    questionInteger]
  -- every field is read, and what is constructed is the stripped question
  simp only [bind, Except.bind]
  exact checked_of_runGuards (runGuards_stripped h)

end VoiceQuestion

/-! ### Transitions with any changes -/

/-- `_IMMUTABLE_QUESTION_FIELDS`. -/
inductive FixedField
  | id | text | kind | sensitivity | origin | choices | owner | askedAt
  deriving DecidableEq

def FixedField.name : FixedField → String
  | id => "id"
  | text => "text"
  | kind => "kind"
  | sensitivity => "sensitivity"
  | origin => "origin"
  | choices => "choices"
  | owner => "owner"
  | askedAt => "asked_at"

/-- A keyword of `changes`: a field that may change with its value, one that may not, or no field of a question
other than its state. -/
inductive QuestionChange
  | answer (value : Option String)
  | trustedAnswer (value : Option String)
  | answeredAt (value : Option Time)
  | dispatchToken (value : Option String)
  | promptState (value : Option PromptOperationState)
  | promptTurn (value : Option ℤ)
  | promptTarget (value : Option String)
  | promptAgentSession (value : Option String)
  | promptBaselineSeq (value : Option ℤ)
  | promptSubmittedAt (value : Option Time)
  | promptAbsentObservations (value : ℤ)
  | fixed (field : FixedField)
  | other (name : String)

namespace QuestionChange

/-- The field of a question with its new value. -/
def apply (question : VoiceQuestion) : QuestionChange → VoiceQuestion
  | answer value => { question with answer := value }
  | trustedAnswer value => { question with trustedAnswer := value }
  | answeredAt value => { question with answeredAt := value }
  | dispatchToken value => { question with dispatchToken := value }
  | promptState value => { question with prompt := { question.prompt with promptState := value } }
  | promptTurn value => { question with prompt := { question.prompt with promptTurn := value } }
  | promptTarget value => { question with prompt := { question.prompt with promptTarget := value } }
  | promptAgentSession value =>
    { question with prompt := { question.prompt with promptAgentSession := value } }
  | promptBaselineSeq value =>
    { question with prompt := { question.prompt with promptBaselineSeq := value } }
  | promptSubmittedAt value => { question with promptSubmittedAt := value }
  | promptAbsentObservations value => { question with promptAbsentObservations := value }
  | fixed _ | other _ => question

def fixedName? : QuestionChange → Option String
  | fixed field => some field.name
  | _ => none

def otherName? : QuestionChange → Option String
  | other name => some name
  | _ => none

end QuestionChange

/-- The parameters of `transition_question` that are no changes. -/
def transitionParameters : List String := ["question", "state", "identity"]

namespace VoiceQuestion

/-- `transition_question`, with the `TypeError` of a keyword that it takes already, and the one of `replace`
for a keyword that is no field. -/
def transitionQuestion [TextLibrary] (question : VoiceQuestion) (state : QuestionState)
    (identity : QuestionIdentity) (changes : List QuestionChange) : Checked VoiceQuestion := do
  let others := changes.filterMap QuestionChange.otherName?
  let immutableChanges := changes.filterMap QuestionChange.fixedName?
  runGuards (transitionParameters.map fun name ↦
    (name ∈ others, s!"transition_question() got multiple values for argument '{name}'"))
  runGuards
    [(identity ≠ question.identity, "stale question identity"),
      (!immutableChanges.isEmpty, "question transition cannot change identity fields: " ++
        ", ".intercalate (immutableChanges.mergeSort fun first second ↦ decide (first ≤ second))),
      (state ∉ question.state.legalEdges,
        s!"illegal question transition {question.state.value} -> {state.value}"),
      (state = .dispatching && (!truthy question.answer || question.answeredAt.isNone),
        "dispatching question requires an answer and answered_at")]
  runGuards (others.map fun name ↦
    (true, s!"Question.__init__() got an unexpected keyword argument '{name}'"))
  let replaced := { changes.foldl QuestionChange.apply question with state := state }
  runGuards replaced.guards
  .ok replaced

/-- The fields that no transition may change. -/
def fixedFields (question : VoiceQuestion) :
    String × String × QuestionKind × QuestionSensitivity × QuestionOrigin × List Choice × String × Time :=
  (question.id, question.text, question.kind, question.sensitivity, question.origin, question.choices,
    question.owner, question.askedAt)

/-- A transition that is accepted. -/
def Transitions [TextLibrary] (question next : VoiceQuestion) : Prop :=
  ∃ state identity changes, question.transitionQuestion state identity changes = .ok next

/-- A question comes back from storage as it was, and its identity is still valid. -/
def SurvivesStorage [TextLibrary] (question : VoiceQuestion) : Prop :=
  ∃ loaded, fromDict question.toDict = .ok loaded ∧ loaded = question ∧
    loaded.validateIdentity question.identity = .ok ()

/-- Over every run of transitions the fixed fields stay, every edge is legal, and a question that is resolved or
cancelled takes no further step. -/
def KeepsIdentity [TextLibrary] (question : VoiceQuestion) : Prop :=
  ∀ reached, Relation.ReflTransGen Transitions question reached →
    reached.fixedFields = question.fixedFields ∧ reached.identity = question.identity ∧
      (∀ next, Transitions reached next → next.state ∈ reached.state.legalEdges) ∧
      (reached.state = .resolved ∨ reached.state = .cancelled → ∀ next, ¬Transitions reached next)

theorem fixedFields_apply (question : VoiceQuestion) (change : QuestionChange) :
    (change.apply question).fixedFields = question.fixedFields := by
  cases change <;> rfl

theorem fixedFields_foldl (changes : List QuestionChange) :
    ∀ question : VoiceQuestion, (changes.foldl QuestionChange.apply question).fixedFields =
      question.fixedFields := by
  induction changes with
  | nil =>
    intro question
    rfl
  | cons change changes ih =>
    intro question
    rw [List.foldl_cons, ih, fixedFields_apply]

variable [TextLibrary] {question next : VoiceQuestion}

/-- What a transition that is accepted does. -/
theorem transitions_spec (h : Transitions question next) :
    next.fixedFields = question.fixedFields ∧ next.state ∈ question.state.legalEdges := by
  obtain ⟨state, identity, changes, h⟩ := h
  rw [transitionQuestion] at h
  obtain ⟨-, -, h⟩ := checked_bind_eq_ok_iff.mp h
  obtain ⟨_, hguards, h⟩ := checked_bind_eq_ok_iff.mp h
  obtain ⟨-, -, h⟩ := checked_bind_eq_ok_iff.mp h
  obtain ⟨-, -, h⟩ := checked_bind_eq_ok_iff.mp h
  have hlegal := runGuards_eq_ok_iff.mp hguards _
    (List.mem_cons_of_mem _ (List.mem_cons_of_mem _ List.mem_cons_self))
  rw [decide_eq_false_iff_not, not_not] at hlegal
  cases h
  exact ⟨fixedFields_foldl changes question, hlegal⟩

/-- No transition of any kind touches what a question is about. -/
theorem keepsIdentity (question : VoiceQuestion) : question.KeepsIdentity := by
  intro reached hrun
  have hfixed : reached.fixedFields = question.fixedFields := by
    induction hrun with
    | refl => rfl
    | tail _ hstep ih => rw [(transitions_spec hstep).1, ih]
  refine ⟨hfixed, ?_, fun next hstep ↦ (transitions_spec hstep).2, ?_⟩
  · have horigin : reached.origin = question.origin :=
      congrArg (fun fields ↦ fields.2.2.2.2.1) hfixed
    have hid : reached.id = question.id := congrArg Prod.fst hfixed
    rw [identity, identity, horigin, hid]
  · intro hfinal next hstep
    have hlegal := (transitions_spec hstep).2
    obtain hstate | hstate := hfinal
    all_goals
      rw [hstate] at hlegal
      cases hlegal

/-- A valid question survives storage and keeps its identity over every run if and only if none of its texts has
white space around it. -/
theorem survives_iff_trimmed (question : VoiceQuestion) (h : runGuards question.guards = .ok ()) :
    question.SurvivesStorage ∧ question.KeepsIdentity ↔ question.Trimmed := by
  rw [← stripped_eq_iff]
  constructor
  · rintro ⟨⟨loaded, hloaded, rfl, -⟩, -⟩
    rw [fromDict_toDict h] at hloaded
    exact Except.ok.inj hloaded
  · intro hstripped
    have hloaded := fromDict_toDict h
    rw [hstripped] at hloaded
    refine ⟨⟨question, hloaded, rfl, ?_⟩, question.keepsIdentity⟩
    rw [validateIdentity, if_neg (not_not.mpr rfl)]

end VoiceQuestion

/-! ### A padded question -/

section Example

attribute [local instance] asciiTextLibrary

/-- A question about which branch to push. -/
def branchQuestion (id : String) : VoiceQuestion where
  id := id
  text := "Which branch?"
  kind := .freeText
  sensitivity := .routine
  origin := ⟨"cursor", "j1", "t1"⟩
  choices := []
  owner := "agent"
  state := .pending
  askedAt := 0
  answer := none
  trustedAnswer := none
  answeredAt := none
  dispatchToken := none
  prompt := ⟨none, none, none, none, none⟩
  promptSubmittedAt := none
  promptAbsentObservations := 0

theorem survives_branchQuestion :
    runGuards (branchQuestion "q1").guards = .ok () ∧
      ((branchQuestion "q1").SurvivesStorage ∧ (branchQuestion "q1").KeepsIdentity ↔
        (branchQuestion "q1").Trimmed) :=
  ⟨by decide +kernel, (branchQuestion "q1").survives_iff_trimmed (by decide +kernel)⟩

/-- Stored with a space before its id it comes back as another question, for which its identity is stale. -/
theorem padded_branchQuestion :
    runGuards (branchQuestion " q1").guards = .ok () ∧ ¬(branchQuestion " q1").SurvivesStorage ∧
      ∃ loaded, VoiceQuestion.fromDict (branchQuestion " q1").toDict = .ok loaded ∧
        loaded.validateIdentity (branchQuestion " q1").identity =
          .error (.message "stale question identity") := by
  have hvalid : runGuards (branchQuestion " q1").guards = .ok () := by decide +kernel
  have hloaded := VoiceQuestion.fromDict_toDict hvalid
  have hchanged : (branchQuestion " q1").stripped ≠ branchQuestion " q1" := by decide +kernel
  refine ⟨hvalid, ?_, (branchQuestion " q1").stripped, hloaded, ?_⟩
  · rintro ⟨loaded, hsame, rfl, -⟩
    rw [hloaded] at hsame
    exact hchanged (Except.ok.inj hsame)
  · have hstale : (branchQuestion " q1").identity ≠ (branchQuestion " q1").stripped.identity := by
      decide +kernel
    rw [VoiceQuestion.validateIdentity, if_pos hstale]

end Example

end VoiceHarness
