import VoiceHarness.Json
import VoiceHarness.Library.Lines

/-!
# The parser of a speech stream

`TTSStreamParser.feed` takes bytes as the socket gives them, cuts them into lines and checks each event
against the ones before it. A client that gets an exception closes the stream, so the parser of the model
ends there.
-/

set_option autoImplicit false
set_option relaxedAutoImplicit false

namespace VoiceHarness.Tts

open Library

/-- `json.dumps`, `json.loads` and `str` on decoded values. -/
class JsonText where
  dumps : Json → List Char
  loads : List Char → Option Json
  str : Json → String

/-- The text of the event is one line and gives the event back, as the text of any `dict` of scalars
does. -/
def IsReadBack [JsonText] (event : Dict) : Prop :=
  '\n' ∉ JsonText.dumps (.obj event) ∧ JsonText.dumps (.obj event) ≠ [] ∧
    JsonText.loads (JsonText.dumps (.obj event)) = some (.obj event)

instance (json : JsonText) (event : Dict) : Decidable (@IsReadBack json event) :=
  inferInstanceAs (Decidable (_ ∧ _ ∧ _))

variable [JsonText]

/-- `_integer`. -/
def integer (value : Option Json) (field : String) (positive : Bool) : Except String ℤ :=
  match value with
  | some (.int number) =>
    if positive = true ∧ number ≤ 0 then .error ("TTS stream " ++ field ++ " must be positive")
    else if positive = false ∧ number < 0 then
      .error ("TTS stream " ++ field ++ " must not be negative")
    else .ok number
  | _ => .error ("TTS stream " ++ field ++ " must be an integer")

/-- What the parser has seen of its stream. -/
structure StreamProgress where
  started : Bool
  done : Bool
  sampleRate : ℤ
  expectedChunks : ℤ
  chunks : ℤ
  doneEvent : Option Dict
  deriving DecidableEq, Repr

namespace StreamProgress

/-- The progress of a new parser. -/
def initial : StreamProgress where
  started := false
  done := false
  sampleRate := 0
  expectedChunks := 0
  chunks := 0
  doneEvent := none

/-- `_start`. -/
def start (progress : StreamProgress) (event : Dict) : Except String StreamProgress :=
  if progress.started then .error "TTS stream returned duplicate start events"
  else
    match integer (event.get? "sample_rate") "start.sample_rate" true with
    | .error error => .error error
    | .ok sampleRate =>
      match integer (event.get? "chunks") "start.chunks" true with
      | .error error => .error error
      | .ok expectedChunks => .ok { progress with sampleRate, expectedChunks, started := true }

/-- `_chunk`. -/
def chunk (progress : StreamProgress) (event : Dict) : Except String StreamProgress :=
  if !progress.started then .error "TTS stream returned a chunk before start"
  else
    match integer (event.get? "index") "chunk.index" false with
    | .error error => .error error
    | .ok index =>
      if index ≠ progress.chunks then
        .error ("TTS stream chunk index " ++ toString index ++ " did not match " ++
          toString progress.chunks)
      else
        match event.get? "output" with
        | some (.str output) =>
          if output = "" then .error "TTS stream chunk.output must be a non-empty string"
          else
            match event.get? "text" with
            | some (.str _) => .ok { progress with chunks := progress.chunks + 1 }
            | _ => .error "TTS stream chunk.text must be a string"
        | _ => .error "TTS stream chunk.output must be a non-empty string"

/-- `_complete`. -/
def complete (progress : StreamProgress) (event : Dict) : Except String StreamProgress :=
  if !progress.started then .error "TTS stream completed before start"
  else
    match event.get? "cancelled" with
    | some (.bool cancelled) =>
      match integer (event.get? "chunks") "done.chunks" false with
      | .error error => .error error
      | .ok chunks =>
        if chunks ≠ progress.chunks then
          .error ("TTS stream completion count " ++ toString chunks ++ " did not match " ++
            toString progress.chunks)
        else if cancelled = false ∧ chunks ≠ progress.expectedChunks then
          .error "TTS stream completion count did not match the start event"
        else .ok { progress with done := true, doneEvent := some event }
    | _ => .error "TTS stream done.cancelled must be a boolean"

/-- The dispatch of `_validate_event` on the kind of an event. -/
def validateKind (progress : StreamProgress) (event : Dict) : Except String StreamProgress :=
  match event.get? "event" with
  | some (.str "start") => progress.start event
  | some (.str "chunk") => progress.chunk event
  | some (.str "done") => progress.complete event
  | kind => .error ("unknown TTS stream event: " ++ JsonText.str (kind.getD .null))

/-- `_validate_event`. -/
def validateEvent (requestId : String) (progress : StreamProgress) (event : Dict) :
    Except String StreamProgress :=
  if event.get? "ok" ≠ some (.bool true) then
    .error ("TTS backend failed: " ++
      JsonText.str ((event.get? "error").getD (.str "unknown error")))
  else if progress.done then .error "TTS stream returned an event after completion"
  else if event.get? "request_id" ≠ some (.str requestId) then
    .error "TTS stream request_id did not match the request"
  else progress.validateKind event

/-- The events of a stream one after the other. -/
def validateAll (requestId : String) (progress : StreamProgress) :
    List Dict → Except String StreamProgress
  | [] => .ok progress
  | event :: events =>
    match progress.validateEvent requestId event with
    | .error error => .error error
    | .ok next => next.validateAll requestId events

theorem validateAll_append (requestId : String) (progress : StreamProgress)
    (first second : List Dict) :
    progress.validateAll requestId (first ++ second) =
      match progress.validateAll requestId first with
      | .error error => .error error
      | .ok next => next.validateAll requestId second := by
  induction first generalizing progress with
  | nil => rfl
  | cons event first ih =>
    rw [List.cons_append, validateAll, validateAll]
    cases progress.validateEvent requestId event with
    | error error => rfl
    | ok middle => exact ih middle

end StreamProgress

/-- `TTSStreamParser`. -/
structure Parser where
  requestId : String
  buffer : List Char
  progress : StreamProgress
  deriving DecidableEq, Repr

namespace Parser

/-- `TTSStreamParser(request_id)`. -/
def new (requestId : String) : Parser where
  requestId
  buffer := []
  progress := .initial

/-- A complete line as an event. -/
def decodeLine (line : List Char) : Except String Dict :=
  if line = [] then .error "TTS backend returned an empty stream event"
  else
    match JsonText.loads line with
    | none => .error "TTS backend returned an invalid stream event"
    | some (.obj event) => .ok event
    | some _ => .error "TTS backend returned a non-object stream event"

/-- The loop of `feed`, which runs once for each newline of the buffer. -/
def takeLines (parser : Parser) : ℕ → Except String (List Dict × Parser)
  | 0 => .ok ([], parser)
  | lines + 1 =>
    let (line, remainder) := partitionLine '\n' parser.buffer
    match decodeLine line with
    | .error error => .error error
    | .ok event =>
      match parser.progress.validateEvent parser.requestId event with
      | .error error => .error error
      | .ok progress =>
        match ({ parser with buffer := remainder, progress } : Parser).takeLines lines with
        | .error error => .error error
        | .ok (events, final) => .ok (event :: events, final)

/-- `feed`. -/
def feed (parser : Parser) (data : List Char) : Except String (List Dict × Parser) :=
  let buffer := parser.buffer ++ data
  ({ parser with buffer } : Parser).takeLines (buffer.count '\n')

/-- The fragments that the socket gives, fed as they come. -/
def feedAll (parser : Parser) : List (List Char) → Except String (List Dict × Parser)
  | [] => .ok ([], parser)
  | fragment :: fragments =>
    match parser.feed fragment with
    | .error error => .error error
    | .ok (events, next) =>
      match next.feedAll fragments with
      | .error error => .error error
      | .ok (later, final) => .ok (events ++ later, final)

/-- `finish`. -/
def finish (parser : Parser) : Except String Dict :=
  if parser.buffer ≠ [] then .error "TTS backend returned an incomplete stream event"
  else if !parser.progress.done then .error "TTS stream ended before completion"
  else
    match parser.progress.doneEvent with
    | none => .error "TTS stream ended before completion"
    | some event =>
      if event.get? "cancelled" = some (.bool true) then .error "TTS stream was cancelled"
      else .ok event

/-- What a client does with the fragments of a stream that it reads to its end. -/
def readStream (parser : Parser) (fragments : List (List Char)) :
    Except String (List Dict × Dict) :=
  match parser.feedAll fragments with
  | .error error => .error error
  | .ok (events, final) =>
    match final.finish with
    | .error error => .error error
    | .ok event => .ok (events, event)

/-! ### The parser does not see the fragments -/

/-- The text of events, one line each. -/
def encode (events : List Dict) : List Char :=
  encodeLines '\n' (events.map fun event ↦ JsonText.dumps (.obj event))

theorem newline_notMem_of_mem_lines {events : List Dict}
    (hread : ∀ event ∈ events, IsReadBack event) :
    ∀ line ∈ events.map fun event ↦ JsonText.dumps (.obj event), '\n' ∉ line := by
  intro line hline
  obtain ⟨event, hevent, rfl⟩ := List.mem_map.mp hline
  exact (hread event hevent).1

theorem decodeLine_dumps {event : Dict} (h : IsReadBack event) :
    decodeLine (JsonText.dumps (.obj event)) = .ok event := by
  unfold decodeLine
  rw [if_neg h.2.1, h.2.2]

/-- Complete lines in the buffer are the events they encode. -/
theorem takeLines_encode {parser : Parser} {events : List Dict}
    (hread : ∀ event ∈ events, IsReadBack event) {rest : List Char}
    (hbuffer : parser.buffer = encode events ++ rest) :
    parser.takeLines events.length =
      (parser.progress.validateAll parser.requestId events).map fun progress ↦
        (events, { parser with buffer := rest, progress }) := by
  induction events generalizing parser with
  | nil =>
    have hrest : parser.buffer = rest := hbuffer
    subst hrest
    rfl
  | cons event events ih =>
    have hevent := hread event List.mem_cons_self
    have hline : partitionLine '\n' parser.buffer =
        (JsonText.dumps (.obj event), encode events ++ rest) := by
      rw [hbuffer, encode, List.map_cons, encodeLines_cons, List.append_assoc, List.cons_append]
      exact partitionLine_append hevent.1 _
    rw [List.length_cons, takeLines, hline, StreamProgress.validateAll]
    simp only [decodeLine_dumps hevent]
    cases parser.progress.validateEvent parser.requestId event with
    | error error => rfl
    | ok progress =>
      have hrest : ({ parser with buffer := encode events ++ rest, progress } :
          Parser).takeLines events.length = _ :=
        ih (fun other hother ↦ hread other (List.mem_cons_of_mem _ hother)) rfl
      simp only [hrest]
      cases progress.validateAll parser.requestId events with
      | error error => rfl
      | ok final => rfl

/-- Data that completes some lines reports their events and keeps the rest. -/
theorem feed_encode {parser : Parser} {data : List Char} {events : List Dict}
    (hread : ∀ event ∈ events, IsReadBack event) {rest : List Char} (hrest : '\n' ∉ rest)
    (hdata : parser.buffer ++ data = encode events ++ rest) :
    parser.feed data =
      (parser.progress.validateAll parser.requestId events).map fun progress ↦
        (events, { parser with buffer := rest, progress }) := by
  have hcount : (parser.buffer ++ data).count '\n' = events.length := by
    rw [hdata, encode, count_encodeLines (newline_notMem_of_mem_lines hread) hrest, List.length_map]
  unfold feed
  simp only [hcount]
  exact takeLines_encode hread hdata

/-- The fragments of a stream report the events of the stream, wherever it is cut. -/
theorem feedAll_encode {parser : Parser} {fragments : List (List Char)} {events : List Dict}
    (hread : ∀ event ∈ events, IsReadBack event) (hbuffer : '\n' ∉ parser.buffer)
    (hstream : parser.buffer ++ fragments.flatten = encode events) :
    parser.feedAll fragments =
      (parser.progress.validateAll parser.requestId events).map fun progress ↦
        (events, { parser with buffer := [], progress }) := by
  induction fragments generalizing parser events with
  | nil =>
    have hend : parser.buffer = encode events := by simpa using hstream
    cases events with
    | nil =>
      have hempty : parser.buffer = [] := hend
      simp only [feedAll, StreamProgress.validateAll, Except.map, ← hempty]
    | cons event events =>
      rw [hend, encode, List.map_cons, encodeLines_cons] at hbuffer
      exact absurd (List.mem_append_right _ List.mem_cons_self) hbuffer
  | cons fragment fragments ih =>
    rw [List.flatten_cons, ← List.append_assoc] at hstream
    obtain ⟨firstLines, secondLines, rest, hlines, hrest, hfirst, hsecond⟩ :=
      exists_lines_of_append (newline_notMem_of_mem_lines hread) hstream
    obtain ⟨first, second, rfl, rfl, rfl⟩ := List.map_eq_append_iff.mp hlines
    have hfed := feed_encode (fun event hevent ↦ hread event (List.mem_append_left _ hevent))
      hrest hfirst
    rw [feedAll, hfed, StreamProgress.validateAll_append]
    cases parser.progress.validateAll parser.requestId first with
    | error error => rfl
    | ok progress =>
      have hlater : ({ parser with buffer := rest, progress } : Parser).feedAll fragments = _ :=
        ih (fun event hevent ↦ hread event (List.mem_append_right _ hevent)) hrest hsecond
      simp only [Except.map, hlater]
      cases progress.validateAll parser.requestId second with
      | error error => rfl
      | ok final => rfl

/-- A stream that is read to its end, wherever it is cut. -/
theorem readStream_encode {requestId : String} {fragments : List (List Char)} {events : List Dict}
    (hread : ∀ event ∈ events, IsReadBack event) (hstream : fragments.flatten = encode events) :
    (new requestId).readStream fragments =
      match StreamProgress.initial.validateAll requestId events with
      | .error error => .error error
      | .ok progress =>
        ({ requestId, buffer := [], progress } : Parser).finish.map fun event ↦
          (events, event) := by
  have hfed : (new requestId).feedAll fragments = _ :=
    feedAll_encode hread List.not_mem_nil hstream
  rw [readStream, hfed]
  simp only [new]
  cases StreamProgress.initial.validateAll requestId events with
  | error error => rfl
  | ok progress =>
    simp only [Except.map]
    cases ({ requestId, buffer := [], progress } : Parser).finish with
    | error error => rfl
    | ok event => rfl

end Parser

end VoiceHarness.Tts
