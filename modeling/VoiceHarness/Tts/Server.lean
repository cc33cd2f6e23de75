import VoiceHarness.Json
import Mathlib.Algebra.Order.Floor.Ring
import Mathlib.Data.Rat.Floor

/-!
# Speech streams on the server

`_stream_response` synthesises one chunk after the other and writes an event for each, while
`_cancel_stream` runs on the threads of other connections. The stream looks at its `cancelled` event
before and after each synthesis and once more for its last event, so a run is given by the cancellations
that come before each look.
-/

set_option autoImplicit false
set_option relaxedAutoImplicit false

namespace VoiceHarness.Tts

/-- `PENDING_CANCELLATION_SECONDS`. -/
def pendingCancellationSeconds : Time := 120

/-- `MAX_PENDING_CANCELLATIONS`. -/
def maxPendingCancellations : ℕ := 1024

/-- `REQUEST_ID.fullmatch`. -/
def isRequestId (text : String) : Bool :=
  1 ≤ text.toList.length && text.toList.length ≤ 64 && text.toList.all fun c ↦
    ('A' ≤ c && c ≤ 'Z') || ('a' ≤ c && c ≤ 'z') || ('0' ≤ c && c ≤ '9') || c == '_' || c == '-'

/-- `round(value, 3)`: the nearest thousandth, the even one of two. -/
def round3 (value : Time) : Time :=
  let below := ⌊value * 1000⌋
  let rest := value * 1000 - below
  if 1 / 2 < rest ∨ (rest = 1 / 2 ∧ below % 2 = 1) then (below + 1) / 1000 else below / 1000

/-! ### Cancellations -/

/-- `ACTIVE_STREAMS`, with whether each event is set, and `PENDING_CANCELLATIONS`, with their expiries. -/
structure Streams where
  active : List (String × Bool)
  pending : List (String × Time)
  deriving DecidableEq, Repr

/-- A call `_cancel_stream(request_id)` at the time `now`. -/
structure CancelCall where
  requestId : String
  now : Time
  deriving DecidableEq, Repr

/-- `min(pending, key=pending.__getitem__)`: the first of the entries that expire soonest. -/
def oldest? : List (String × Time) → Option (String × Time)
  | [] => none
  | entry :: entries =>
    match oldest? entries with
    | none => some entry
    | some other => if other.2 < entry.2 then some other else some entry

namespace Streams

/-- `PENDING_CANCELLATIONS[request_id] = expires_at`: an existing key keeps its place. -/
def setPending (pending : List (String × Time)) (requestId : String) (expiresAt : Time) :
    List (String × Time) :=
  if pending.any fun entry ↦ entry.1 = requestId then
    pending.map fun entry ↦ if entry.1 = requestId then (requestId, expiresAt) else entry
  else pending ++ [(requestId, expiresAt)]

/-- `PENDING_CANCELLATIONS.pop(request_id, None)`. -/
def popPending (pending : List (String × Time)) (requestId : String) : List (String × Time) :=
  pending.filter fun entry ↦ entry.1 ≠ requestId

/-- `PENDING_CANCELLATIONS` below its limit. -/
def evict (pending : List (String × Time)) : List (String × Time) :=
  if maxPendingCancellations ≤ pending.length then
    match oldest? pending with
    | none => pending
    | some oldest => popPending pending oldest.1
  else pending

/-- `ACTIVE_STREAMS[request_id].set()`. -/
def setEvent (active : List (String × Bool)) (requestId : String) : List (String × Bool) :=
  active.map fun entry ↦ if entry.1 = requestId then (entry.1, true) else entry

/-- `_cancel_stream`. -/
def cancel (streams : Streams) (call : CancelCall) : Streams :=
  let pending := streams.pending.filter fun entry ↦ call.now < entry.2
  match streams.active.lookup call.requestId with
  | none =>
    { streams with
      pending := setPending (evict pending) call.requestId (call.now + pendingCancellationSeconds) }
  | some _ => { active := setEvent streams.active call.requestId, pending }

/-- Cancellations in their order. -/
def cancelAll (streams : Streams) (calls : List CancelCall) : Streams := calls.foldl cancel streams

/-- `cancelled.is_set()` for the event of an active stream. -/
def isSet (streams : Streams) (requestId : String) : Bool :=
  streams.active.lookup requestId = some true

/-- A pending cancellation of the request that has not expired. -/
def inForce (streams : Streams) (requestId : String) (now : Time) : Bool :=
  match streams.pending.lookup requestId with
  | none => false
  | some expiresAt => now < expiresAt

/-- The registration of a stream: a pending cancellation is taken, and counts unless it has expired. -/
def register (streams : Streams) (requestId : String) (now : Time) : Streams where
  active := (requestId, streams.inForce requestId now) :: streams.active
  pending := popPending streams.pending requestId

end Streams

/-! ### The stream -/

/-- What `_synthesize` returns. -/
structure Synthesis where
  rate : ℤ
  duration : Time
  elapsed : Time
  deriving DecidableEq, Repr

/-- A stream request, with its text split into chunks. -/
structure StreamRequest where
  requestId : String
  chunks : List String
  deriving DecidableEq, Repr

/-- What a stream meets: whether the text, the voice, the flags and the output directory are accepted,
what each synthesis does, the streams of the server, and the cancellations in between. An error is the
text of the exception. -/
structure StreamWorld where
  outputRoot : String
  redactDiagnostic : String → String
  textAndVoice : Except String Unit
  flagsAndDirectory : Except String Unit
  synthesize : ℕ → Except String Synthesis
  streams : Streams
  beforeRegistration : List CancelCall
  now : Time
  beforeChunk : ℕ → List CancelCall
  afterSynthesis : ℕ → List CancelCall
  beforeDone : List CancelCall

/-- What a stream has written so far. -/
structure Emission where
  streams : Streams
  sampleRate : Option ℤ
  lines : List Dict
  emitted : ℕ
  audioSeconds : Time
  generationSeconds : Time
  deriving DecidableEq, Repr

/-- Cancellations that come between two looks at the event. -/
def Emission.receive (emission : Emission) (calls : List CancelCall) : Emission :=
  { emission with streams := emission.streams.cancelAll calls }

/-- The emission with the events of one more chunk. -/
def Emission.add (emission : Emission) (lines : List Dict) (synthesis : Synthesis) : Emission :=
  { emission with
    sampleRate := some synthesis.rate
    lines := emission.lines ++ lines
    audioSeconds := emission.audioSeconds + synthesis.duration
    emitted := emission.emitted + 1 }

namespace StreamRequest

variable (request : StreamRequest) (world : StreamWorld)

/-- `f"{index:04d}"`. -/
def paddedIndex (index : ℕ) : String :=
  let digits := (toString index).toList
  String.ofList (List.replicate (4 - digits.length) '0' ++ digits)

/-- `output_dir / f"{index:04d}.wav"`. -/
def outputPath (index : ℕ) : String :=
  world.outputRoot ++ "/stream-" ++ request.requestId ++ "/" ++ paddedIndex index ++ ".wav"

def startLine (sampleRate : ℤ) : Dict :=
  [("ok", .bool true), ("event", .str "start"), ("request_id", .str request.requestId),
    ("sample_rate", .int sampleRate), ("chunks", .int request.chunks.length)]

def chunkLine (index : ℕ) (chunk : String) (synthesis : Synthesis) : Dict :=
  [("ok", .bool true), ("event", .str "chunk"), ("request_id", .str request.requestId),
    ("index", .int index), ("text", .str chunk), ("output", .str (request.outputPath world index)),
    ("audio_seconds", .float (round3 synthesis.duration)),
    ("generation_seconds", .float (round3 synthesis.elapsed))]

def doneLine (emission : Emission) : Dict :=
  [("ok", .bool true), ("event", .str "done"), ("request_id", .str request.requestId),
    ("cancelled", .bool (emission.streams.isSet request.requestId)),
    ("chunks", .int emission.emitted),
    ("audio_seconds", .float (round3 emission.audioSeconds)),
    ("generation_seconds", .float (round3 emission.generationSeconds)),
    ("realtime_factor",
      if emission.audioSeconds ≠ 0 then
        .float (round3 (emission.generationSeconds / emission.audioSeconds))
      else .null)]

/-- The answer of `RequestHandler.handle` to an exception. -/
def errorLine (error : String) : Dict :=
  [("ok", .bool false), ("error", .str (world.redactDiagnostic error))]

/-- How the body of the loop ends for one chunk. -/
inductive ChunkOutcome
  | emitted (emission : Emission)
  | cancelled (emission : Emission)
  | failed (emission : Emission) (error : String)
  deriving DecidableEq, Repr

/-- The events of a chunk: the first one starts the stream, and each has the sample rate of the first. -/
def writeChunk (index : ℕ) (chunk : String) (synthesis : Synthesis) (emission : Emission) :
    ChunkOutcome :=
  let line := request.chunkLine world index chunk synthesis
  match emission.sampleRate with
  | none => .emitted (emission.add [request.startLine synthesis.rate, line] synthesis)
  | some sampleRate =>
    if synthesis.rate ≠ sampleRate then
      .failed emission "RuntimeError: TTS backend changed sample rate during one response"
    else .emitted (emission.add [line] synthesis)

/-- The body of the loop of `_stream_response`. -/
def emitChunk (index : ℕ) (chunk : String) (emission : Emission) : ChunkOutcome :=
  let emission := emission.receive (world.beforeChunk index)
  if emission.streams.isSet request.requestId then .cancelled emission
  else
    match world.synthesize index with
    | .error error => .failed emission error
    | .ok synthesis =>
      let generationSeconds := emission.generationSeconds + synthesis.elapsed
      let emission := { emission with generationSeconds }.receive (world.afterSynthesis index)
      if emission.streams.isSet request.requestId then .cancelled emission
      else request.writeChunk world index chunk synthesis emission

/-- The loop of `_stream_response` from a chunk on, with the exception that ends it. -/
def emitChunks : List String → ℕ → Emission → Emission × Option String
  | [], _, emission => (emission, none)
  | chunk :: chunks, index, emission =>
    match request.emitChunk world index chunk emission with
    | .emitted emission => emitChunks chunks (index + 1) emission
    | .cancelled emission => (emission, none)
    | .failed emission error => (emission, some error)

/-- What a connection got: the lines before the last one, the last one and the number of chunks. -/
structure Served where
  written : List Dict
  last : Dict
  emitted : ℕ
  deriving DecidableEq, Repr

/-- The answer to a request that fails before its stream is active. -/
def refused (error : String) : Served :=
  { written := [], last := errorLine world error, emitted := 0 }

/-- The stream after its registration. -/
def stream (streams : Streams) : Served :=
  let emission : Emission := {
    streams
    sampleRate := none
    lines := []
    emitted := 0
    audioSeconds := 0
    generationSeconds := 0 }
  match request.emitChunks world request.chunks 0 emission with
  | (emission, some error) =>
    { written := emission.lines, last := errorLine world error, emitted := emission.emitted }
  | (emission, none) =>
    let emission := emission.receive world.beforeDone
    { written := emission.lines, last := request.doneLine emission, emitted := emission.emitted }

/-- `_stream_response`, with the line that `RequestHandler.handle` writes for its exception. -/
def streamResponse : Served :=
  match world.textAndVoice with
  | .error error => refused world error
  | .ok () =>
    if !isRequestId request.requestId then
      refused world "ValueError: request_id must contain 1-64 letters, numbers, '_' or '-'"
    else
      match world.flagsAndDirectory with
      | .error error => refused world error
      | .ok () =>
        let streams := world.streams.cancelAll world.beforeRegistration
        match streams.active.lookup request.requestId with
        | some _ => refused world "ValueError: request_id is already active"
        | none => request.stream world (streams.register request.requestId world.now)

end StreamRequest

end VoiceHarness.Tts
