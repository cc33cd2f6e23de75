import VoiceHarness.Question.Answer
import VoiceHarness.JsonText
import VoiceHarness.Text

/-!
# Turn markers

The lines by which an agent ends its turn: `extract_marker` of `herdr/types.py`, the question that a marker may
carry, and what `complete_from_output` of `cursor/provisioning.py` makes of them.
-/

set_option autoImplicit false
set_option relaxedAutoImplicit false

namespace VoiceHarness

/-! ### Lines -/

/-- The line boundaries of `str.splitlines`. -/
def isLineBreak (c : Char) : Bool :=
  c.val ∈ [0xa, 0xb, 0xc, 0xd, 0x1c, 0x1d, 0x1e, 0x85, 0x2028, 0x2029]

/-- The lines, where the first one goes on with what is read of it. -/
def linesAfter (read : List Char) : List Char → List (List Char)
  | [] => if read.isEmpty then [] else [read.reverse]
  | '\r' :: '\n' :: text => read.reverse :: linesAfter [] text
  | c :: text => if isLineBreak c then read.reverse :: linesAfter [] text else linesAfter (c :: read) text

/-- `text.splitlines()`. -/
def splitLines (text : List Char) : List (List Char) := linesAfter [] text

/-! ### Markers -/

inductive MarkerKind
  | summary | question
  deriving DecidableEq

def MarkerKind.name : MarkerKind → String
  | summary => "VOICE_SUMMARY"
  | question => "VOICE_QUESTION"

def maxMarkerBytes : ℕ := 64 * 1024

/-- The text of a marker up to its bracket. -/
def markerText (kind : MarkerKind) (token : String) : List Char :=
  kind.name.toList ++ '[' :: token.toList ++ [']']

/-- `^(?:VOICE_|ROUTE_|WORKFLOW_)[A-Z_]+\[`. -/
def startsMarker (line : List Char) : Bool :=
  ["VOICE_", "ROUTE_", "WORKFLOW_"].any fun name ↦
    (afterLiteral name line).any fun rest ↦
      let after := rest.dropWhile fun c ↦ c.isUpper || c = '_'
      decide (after.length < rest.length) && after.head? = some '['

/-- The value of a marker in the first of these lines and those it goes on in. -/
def markerValue (kind : MarkerKind) (token : String) : List (List Char) → Option (List Char)
  | [] => none
  | line :: lines =>
    let start := markerText kind token ++ [':']
    let text := line.dropWhile isSpace
    if start.isPrefixOf text then
      let continued := (lines.map stripText).takeWhile fun line ↦ !line.isEmpty && !startsMarker line
      let parts := stripText (text.drop start.length) :: continued
      some (stripText ([' '].intercalate (parts.filter (!·.isEmpty))))
    else none

/-- A value that is no placeholder. -/
def isMarkerValue (value : List Char) : Bool :=
  !value.isEmpty && value.head? ≠ some '<' && (value.map Char.utf8Size).sum ≤ maxMarkerBytes

/-- The valid marker in the first of these lines. -/
def markerAt (kind : MarkerKind) (token : String) (lines : List (List Char)) : Option (List Char) :=
  (markerValue kind token lines).filter isMarkerValue

/-- `extract_marker`. -/
def extractMarker (output : List Char) (kind : MarkerKind) (token : String) : Option (List Char) :=
  ((splitLines output).tails.filterMap (markerAt kind token)).getLast?

/-- `text.rfind(part)`. -/
def rfind (part : List Char) : List Char → ℤ
  | [] => if part.isEmpty then 0 else -1
  | c :: text =>
    if 0 ≤ rfind part text then rfind part text + 1
    else if part.isPrefixOf (c :: text) then 0
    else -1

/-! ### Questions -/

/-- `QuestionSpec`. -/
structure QuestionSpec where
  text : String
  kind : QuestionKind := .freeText
  choices : List Choice := []
  sensitivity : QuestionSensitivity := .unspecified
  deriving DecidableEq

/-- `QuestionError`; the message about a value that is none of an enumeration names the value. -/
inductive QuestionError
  | message (text : String)
  | notOf (enumeration : String) (value : Json)

/-- `bool` of a JSON value. -/
def jsonTruthy : Json → Bool
  | .null => false
  | .bool value => value
  | .int value => value ≠ 0
  | .float value => value ≠ 0
  | .str value => value ≠ ""
  | .arr items => !items.isEmpty
  | .obj fields => !fields.isEmpty

/-- `value == 1`. -/
def jsonIsOne : Json → Bool
  | .bool value => value
  | .int value => value = 1
  | .float value => value = 1
  | _ => false

/-- A member of an enumeration by its value; the text of a value that is no string is none of them. -/
def enumMember {α : Type} (members : List α) (value : α → String) (raw : Json) : Option α :=
  match raw with
  | .str text => members.find? fun member ↦ value member = text
  | _ => none

/-- `_required_string`. -/
def requiredString (values : Dict) (field : String) : Except QuestionError String :=
  match values.get? field with
  | some (.str value) =>
    if isBlank value then .error (.message s!"question {field} must be non-empty text") else .ok (strip value)
  | _ => .error (.message s!"question {field} must be non-empty text")

/-- The choices of a structured question; `index` is the number of the first one. -/
def parseChoices : ℕ → List Json → Except QuestionError (List Choice)
  | _, [] => .ok []
  | index, .str label :: choices => do
    let others ← parseChoices (index + 1) choices
    .ok (⟨toString index, strip label⟩ :: others)
  | index, .obj values :: choices => do
    let id ← requiredString values "id"
    let label ← requiredString values "label"
    let others ← parseChoices (index + 1) choices
    .ok (⟨id, label⟩ :: others)
  | _, _ :: _ => .error (.message "question choice must be text or an object")

section

variable [TextLibrary]

/-- The question that a spec asks, of nobody yet. -/
def QuestionSpec.toQuestion (spec : QuestionSpec) : VoiceQuestion where
  id := ""
  text := spec.text
  kind := spec.kind
  sensitivity := spec.sensitivity
  origin := ⟨"", "", ""⟩
  choices := spec.choices
  owner := ""
  state := .pending
  askedAt := 0
  answer := none
  trustedAnswer := none
  answeredAt := none
  dispatchToken := none
  prompt := ⟨none, none, none, none, none⟩
  promptSubmittedAt := none
  promptAbsentObservations := 0

/-- `QuestionSpec(...)`, which validates itself. -/
def QuestionSpec.checked (spec : QuestionSpec) : Except QuestionError QuestionSpec :=
  match runGuards spec.toQuestion.specGuards with
  | .ok () => .ok spec
  | .error text => .error (.message text)

/-- The fields of a structured question. -/
def parseStructuredQuestion (raw : Dict) : Except QuestionError QuestionSpec := do
  let questionText ← requiredString raw "text"
  let givenKind := (raw.get? "kind").getD .null
  let kind ← match if jsonTruthy givenKind then
      enumMember [QuestionKind.freeText, .multipleChoice] QuestionKind.value givenKind
    else some .freeText with
    | some kind => .ok kind
    | none => .error (.notOf "QuestionKind" givenKind)
  let sensitivity ← match raw.get? "sensitivity" with
    | none => .error (.message "structured question requires sensitivity")
    | some given =>
      match enumMember
          [QuestionSensitivity.unspecified, .routine, .security, .destructive, .architecture, .product]
          QuestionSensitivity.value given with
      | some sensitivity => .ok sensitivity
      | none => .error (.notOf "QuestionSensitivity" given)
  let choices ← match (raw.get? "choices").getD (.arr []) with
    | .arr items => parseChoices 1 items
    | _ => .error (.message "question choices must be a list")
  QuestionSpec.checked { text := questionText, kind, choices, sensitivity }

/-- `parse_question_spec`. -/
def parseQuestionSpec (value : List Char) : Except QuestionError QuestionSpec :=
  let text := stripText value
  if text.isEmpty then .error (.message "question text must not be empty")
  else if text.head? ≠ some '\x7b' then QuestionSpec.checked { text := String.ofList text }
  else
    match JsonText.loads text with
    | none => .error (.message "structured question is invalid JSON")
    | some loaded =>
      if (Dict.get? loaded.asDict "version").any jsonIsOne then parseStructuredQuestion loaded.asDict
      else .error (.message "structured question requires version 1")

/-! ### The end of a turn -/

/-- `SETTLED`. -/
def settledStatuses : List String := ["idle", "done"]

/-- What is done with a job at the end of a turn. -/
inductive Completion
  | ask (spec : QuestionSpec)
  | invalidQuestion (error : QuestionError)
  | stageCompleted (summary : List Char)
  | completed (summary : List Char)
  | blocked (result : String)

/-- The result of a turn without a summary. -/
def missingSummary (job : AgentJob) (agentStatus : String) : String :=
  let target := orElse (job.values.text .herdrTarget) "Cursor"
  s!"Herdr agent {target} needs attention; it settled as {agentStatus} without a voice summary."

/-- What a question does. -/
def askQuestion (value : List Char) : Completion :=
  match parseQuestionSpec value with
  | .ok spec => .ask spec
  | .error error => .invalidQuestion error

/-- What a summary does. -/
def finishWith (job : AgentJob) (stageTerminal : Bool) (summary : List Char) : Completion :=
  if stageTerminal || (job.values.text .herdrTarget).isSome then .stageCompleted summary
  else .completed summary

/-- `complete_from_output`; a marker that is found has a value. -/
def completeFromOutput (job : AgentJob) (output : List Char) (agentStatus : String) (stageTerminal : Bool) :
    Completion :=
  let token := job.values.textOrEmpty .turnToken
  let settled := decide (agentStatus ∈ settledStatuses)
  let summary := if settled then extractMarker output .summary token else none
  let question := if settled then extractMarker output .question token else none
  let summaryPosition := rfind (markerText .summary token) output
  let questionPosition := rfind (markerText .question token) output
  match question.filter fun _ ↦ questionPosition > summaryPosition with
  | some value => askQuestion value
  | none =>
    match summary.filter fun _ ↦ summaryPosition > questionPosition with
    | some value => finishWith job stageTerminal value
    | none => .blocked (missingSummary job agentStatus)

end

end VoiceHarness
