import VoiceHarness.Llm.Chunker
import VoiceHarness.JsonText
import Mathlib.Data.Finset.Sort

/-!
# Streamed replies

`streamed_message` of `llm_transport.py`: the lines of a response as deltas, and the loop that collects their
text and the pieces of their tool calls and feeds the chunker.
-/

set_option autoImplicit false
set_option relaxedAutoImplicit false

namespace VoiceHarness.Llm

/-! ### Lines -/

/-- `str` of a value that is no text, `int` of a text and `redact_diagnostic`. -/
class TransportText where
  str : Json → String
  int : String → Option ℤ
  redactDiagnostic : Json → String

/-- A piece of a tool call. -/
structure ToolDelta where
  index : ℤ
  id : Option (List Char)
  type : Option (List Char)
  name : Option (List Char)
  arguments : Option (List Char)
  deriving DecidableEq, Repr

/-- The delta of an event; a null value and a missing one are the same. -/
structure Delta where
  toolCalls : Option (List ToolDelta)
  content : Option (List Char)
  deriving DecidableEq, Repr

/-- What a line of the response is. -/
inductive StreamLine
  | skipped
  | done
  | delta (delta : Delta)
  deriving DecidableEq, Repr

/-- `bool(value)`. -/
def isTruthy : Json → Bool
  | .null => false
  | .bool value => value
  | .int value => value ≠ 0
  | .float value => value ≠ 0
  | .str value => value ≠ ""
  | .arr items => !items.isEmpty
  | .obj fields => !fields.isEmpty

/-- `mapping.get(key)`, where null counts as missing. -/
def field? (mapping : Dict) (key : String) : Option Json :=
  (mapping.get? key).filter fun value ↦ value ≠ .null

def malformedCalls : String := "LLM returned malformed streaming tool calls"

def malformedEvent : String := "LLM returned a malformed streaming event"

section

variable [TransportText]

/-- `str(value)`. -/
def toText : Json → List Char
  | .str value => value.toList
  | value => (TransportText.str value).toList

/-- `int(value)`. -/
def toInt? : Json → Option ℤ
  | .int value => some value
  | .bool value => some (if value then 1 else 0)
  | .float value => some (value.num.tdiv value.den)
  | .str value => TransportText.int value
  | _ => none

/-- An entry of `tool_calls`. -/
def readToolDelta : Json → Except String ToolDelta
  | .obj call =>
    match toInt? ((Dict.get? call "index").getD (.int 0)), (field? call "function").getD (.obj []) with
    | some index, .obj function =>
      .ok
        { index
          id := (field? call "id").map toText
          type := (field? call "type").map toText
          name := (field? function "name").map toText
          arguments := (field? function "arguments").map toText }
    | _, _ => .error malformedCalls
  | _ => .error malformedCalls

/-- The `tool_calls` of a delta. -/
def readToolDeltas : Option Json → Except String (Option (List ToolDelta))
  | none => .ok none
  | some (.arr calls) => (calls.mapM readToolDelta).map some
  | some _ => .error malformedCalls

def readDelta (delta : Dict) : Except String Delta :=
  (readToolDeltas (field? delta "tool_calls")).map fun toolCalls ↦
    { toolCalls, content := (field? delta "content").map toText }

/-- An event of the response. -/
def readEvent (event : Dict) : Except String StreamLine :=
  if isTruthy ((event.get? "error").getD .null) then
    .error ("LLM streaming request failed: " ++
      TransportText.redactDiagnostic ((event.get? "error").getD .null))
  else
    match event.get? "choices" with
    | some (.arr (.obj choice :: _)) =>
      match Dict.get? choice "delta" with
      | some (.obj delta) => (readDelta delta).map .delta
      | _ => .ok .skipped
    | some (.arr (_ :: _)) => .error malformedEvent
    | _ => .ok .skipped

/-- A decoded line of the response. -/
def readLine (line : List Char) : Except String StreamLine :=
  let text := stripText line
  if "data:".toList.isPrefixOf text then
    let data := stripText (text.drop 5)
    if data = "[DONE]".toList then .ok .done
    else
      match JsonText.loads data with
      | none => .error "JSONDecodeError"
      | some (.obj event) => readEvent event
      | some _ => .error malformedEvent
  else .ok .skipped

/-- A line with the text of an event is that event. -/
theorem readLine_of_loads {line : List Char} {event : Dict}
    (hdata : "data:".toList.isPrefixOf (stripText line) = true)
    (hdone : stripText ((stripText line).drop 5) ≠ "[DONE]".toList)
    (hloads : JsonText.loads (stripText ((stripText line).drop 5)) = some (.obj event)) :
    readLine line = readEvent event := by
  unfold readLine
  simp only [hdata, if_true, if_neg hdone, hloads]

end

/-! ### Tool calls -/

/-- A tool call of the message. -/
structure ToolCall where
  id : List Char
  type : List Char
  name : List Char
  arguments : List Char
  deriving DecidableEq, Repr

/-- The call that `setdefault` puts in. -/
def ToolCall.new : ToolCall where
  id := []
  type := "function".toList
  name := []
  arguments := []

def ToolCall.extend (call : ToolCall) (delta : ToolDelta) : ToolCall where
  id := call.id ++ delta.id.getD []
  type := delta.type.getD call.type
  name := call.name ++ delta.name.getD []
  arguments := call.arguments ++ delta.arguments.getD []

/-- The calls by their index, in the order in which they came up. -/
abbrev ToolCalls := List (ℤ × ToolCall)

/-- The step of the loop over `tool_calls`. -/
def extendCalls (calls : ToolCalls) (delta : ToolDelta) : ToolCalls :=
  if calls.any fun entry ↦ entry.1 = delta.index then
    calls.map fun entry ↦
      if entry.1 = delta.index then (entry.1, entry.2.extend delta) else entry
  else calls ++ [(delta.index, ToolCall.new.extend delta)]

/-- `[tool_calls[index] for index in sorted(tool_calls)]`. -/
def sortedCalls (calls : ToolCalls) : List ToolCall :=
  ((calls.map Prod.fst).mergeSort (· ≤ ·)).filterMap fun index ↦
    (calls.find? fun entry ↦ entry.1 = index).map Prod.snd

/-! ### The loop -/

structure StreamState where
  content : List Char
  toolCalls : ToolCalls
  chunker : TextChunker
  receivedEvent : Bool
  cancelled : Bool
  streamDone : Bool
  deriving DecidableEq, Repr

namespace StreamState

def new (settings : StreamSettings) : StreamState where
  content := []
  toolCalls := []
  chunker := .new settings
  receivedEvent := false
  cancelled := false
  streamDone := false

/-- The loop over the tool calls of a delta, and the end of the chunks. -/
def takeCalls (state : StreamState) (toolCalls : Option (List ToolDelta)) : StreamState :=
  match toolCalls with
  | none => { state with receivedEvent := true }
  | some deltas =>
    { state with
      receivedEvent := true
      toolCalls := deltas.foldl extendCalls state.toolCalls
      chunker := state.chunker.discard }

/-- The content of a delta. A callback that answers `False` ends the loop. -/
def takeContent (settings : StreamSettings) (state : StreamState) : Option (List Char) → StreamState
  | none => state
  | some text =>
    if state.toolCalls = [] then
      let fed := state.chunker.feed settings text
      { state with content := state.content ++ text, chunker := fed.1, cancelled := !fed.2 }
    else { state with content := state.content ++ text }

def takeDelta (settings : StreamSettings) (state : StreamState) (delta : Delta) : StreamState :=
  (state.takeCalls delta.toolCalls).takeContent settings delta.content

@[simp] theorem takeCalls_streamDone (state : StreamState) (toolCalls : Option (List ToolDelta)) :
    (state.takeCalls toolCalls).streamDone = state.streamDone := by
  cases toolCalls <;> rfl

@[simp] theorem takeContent_streamDone (settings : StreamSettings) (state : StreamState)
    (content : Option (List Char)) :
    (state.takeContent settings content).streamDone = state.streamDone := by
  cases content with
  | none => rfl
  | some text =>
    rw [takeContent]
    by_cases hnone : state.toolCalls = []
    · rw [if_pos hnone]
    · rw [if_neg hnone]

@[simp] theorem takeDelta_streamDone (settings : StreamSettings) (state : StreamState) (delta : Delta) :
    (state.takeDelta settings delta).streamDone = state.streamDone := by
  simp [takeDelta]

variable [TransportText]

/-- The loop over the lines of the response, with the number of the next line: the state at its end and the lines
that it has not read. -/
def readResponse (settings : StreamSettings) :
    ℕ → StreamState → List (List Char) → Except String (StreamState × List (List Char))
  | _, state, [] => .ok (state, [])
  | number, state, line :: lines =>
    if settings.shouldCancel number then .ok ({ state with cancelled := true }, line :: lines)
    else if state.streamDone then readResponse settings (number + 1) state lines
    else
      match readLine line with
      | .error error => .error error
      | .ok .skipped => readResponse settings (number + 1) state lines
      | .ok .done => readResponse settings (number + 1) { state with streamDone := true } lines
      | .ok (.delta delta) =>
        if (state.takeDelta settings delta).cancelled then .ok (state.takeDelta settings delta, lines)
        else readResponse settings (number + 1) (state.takeDelta settings delta) lines

end StreamState

/-- The message of a response, the chunks that the callback was given and the lines that were not read. -/
structure Streamed where
  content : Option (List Char)
  toolCalls : Option (List ToolCall)
  passed : List (List Char)
  unread : List (List Char)
  deriving DecidableEq, Repr

/-- There is an answer to say, and no tool call. -/
def StreamState.IsAnswer (state : StreamState) : Prop := state.content ≠ [] ∧ state.toolCalls = []

instance (state : StreamState) : Decidable state.IsAnswer := inferInstanceAs (Decidable (_ ∧ _))

/-- The answer of the message. -/
def StreamState.answer (settings : StreamSettings) (state : StreamState) : List Char :=
  if state.IsAnswer then
    (settings.contentFilter.map fun filter ↦ filter state.content).getD state.content
  else state.content

/-- The chunker at the end of the function. -/
def StreamState.lastChunker (settings : StreamSettings) (state : StreamState) : TextChunker :=
  if state.IsAnswer ∧ state.cancelled = false then (state.chunker.flush settings).1 else state.chunker

/-- What `streamed_message` does behind its loop. -/
def StreamState.message (settings : StreamSettings) (state : StreamState) (unread : List (List Char)) :
    Except String Streamed :=
  if !state.receivedEvent then .error "LLM returned an empty streaming response"
  else
    .ok
      { content := if state.answer settings = [] then none else some (state.answer settings)
        toolCalls := if state.toolCalls = [] then none else some (sortedCalls state.toolCalls)
        passed := (state.lastChunker settings).passed
        unread }

/-- `streamed_message`. -/
def streamedMessage [TransportText] (settings : StreamSettings) (response : List (List Char)) :
    Except String Streamed :=
  match (StreamState.new settings).readResponse settings 0 response with
  | .error error => .error error
  | .ok (state, unread) => state.message settings unread

end VoiceHarness.Llm
