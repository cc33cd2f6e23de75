import VoiceHarness.Library.Triple
import VoiceHarness.Playback.Queue
import VoiceHarness.Text

/-!
# Draining the playback queue

`drain` as a process. It shares the queue with the other threads, so each of its steps under the lock is one request;
so are its calls of the callbacks and what it asks of the player, the chunk files and the clock.

The loops of the source have no bound of their own. Here a loop has `rounds` rounds and is left by `exhausted` where
they do not suffice, which is no exception of the source: no handler takes it, and the process ends there.
-/

set_option autoImplicit false
set_option relaxedAutoImplicit false

namespace VoiceHarness.Playback

open Library

/-- Why a step raises: `_PlaybackFailure`, or any other exception. -/
inductive Failure where
  | playback (message : String)
  | other (message : String)
  | exhausted
  deriving DecidableEq

abbrev Attempt (α : Type) := Except Failure α

inductive WriteOutcome where
  | wrote (count : ℕ)
  | wouldBlock
  | brokenPipe
  | failed (message : String)

/-! ### What the drain asks -/

inductive Request where
  | begin
  | slot
  | startPrefetch (limit : ℕ)
  | takeHead
  | poll
  | shouldInterrupt
  | look (handle seen : ℕ)
  | timedOut
  | cancel (handle : ℕ)
  | discard (handle : ℕ)
  | doneMeta (handle : ℕ)
  | openPlayback (sampleRate : ℕ)
  | playbackFd
  | openWave (output : String)
  | readFrames
  | playerEnded
  | select
  | write (pending : List UInt8)
  | terminate
  | cleanup (outputs : List String)
  | popHead (request : PlaybackRequest)
  | closeStdin
  | waitPlayer
  | readStderr
  | onPlayed (report : Report)
  | finish

@[reducible] def Answer : Request → Type
  | .takeHead => Option (PlaybackRequest × ℕ)
  | .shouldInterrupt | .select => Attempt Bool
  | .look _ _ => PrefetchHandle.Look
  | .timedOut | .playerEnded => Bool
  | .doneMeta _ => Dict
  | .openWave _ => Attempt Wave
  | .write _ => WriteOutcome
  | .waitPlayer => Option ℤ
  | .readStderr => Attempt String
  | .begin | .startPrefetch _ | .cleanup _ | .popHead _ | .finish => Unit
  | .slot | .poll | .cancel _ | .discard _ | .openPlayback _ | .playbackFd | .readFrames | .terminate | .closeStdin
    | .onPlayed _ => Attempt Unit

/-- What the world answers to the next request where the queue does not decide it. -/
structure Oracle where
  /-- What a step comes to that returns nothing. -/
  attempt : Attempt Unit := .ok ()
  interrupt : Attempt Bool := .ok false
  timedOut : Bool := false
  /-- Whether a cancelled worker stops in time. -/
  joins : Bool := true
  openWave : Attempt Unit := .ok ()
  select : Attempt Bool := .ok true
  write : WriteOutcome := .wrote 65536
  /-- How the player ends that is terminated, if it ends in time. -/
  terminated : Option ℤ := some (-15)
  stderr : Attempt String := .ok ""

/-- The changes of the player that the drain makes. -/
def World.mapPlayer (world : World) (f : Player → Player) : World :=
  { world with batch := { world.batch with player := world.batch.player.map f } }

/-- What the world answers to a file that is opened for playing. -/
def World.openWave (world : World) (output : String) : Attempt Wave × World :=
  match world.files output with
  | none => (.error (.other s!"No such file or directory: {output}"), world)
  | some (_, wave) =>
    (.ok wave, { world with batch := { world.batch with opened := world.batch.opened ++ [(output, wave)] } })

/-- What a request answers, and what it leaves. A drain asks for a player where it has none. -/
def perform (oracle : Oracle) : (request : Request) → World → Answer request × World
  | .begin, world => ((), { world with draining := true, drains := world.drains + 1, batch := {} })
  | .slot, world => (oracle.attempt, world)
  | .startPrefetch limit, world => ((), world.startPrefetch limit)
  | .takeHead, world => world.takeHead
  | .poll, world => (oracle.attempt, world)
  | .shouldInterrupt, world =>
    (oracle.interrupt, match oracle.interrupt with
      | .ok true => { world with batch := { world.batch with interrupts := true } }
      | _ => world)
  | .look handle seen, world => ((world.handles.get handle).look seen, world)
  | .timedOut, world => (oracle.timedOut, world)
  | .cancel handle, world =>
    (oracle.attempt, { world with handles := world.handles.update handle PrefetchHandle.cancel })
  | .discard handle, world =>
    ((world.discard handle oracle.joins).1.mapError .other, (world.discard handle oracle.joins).2)
  | .doneMeta handle, world => ((world.handles.get handle).doneMeta, world)
  | .openPlayback sampleRate, world =>
    (oracle.attempt, match oracle.attempt, world.batch.player with
      | .ok (), none => { world with batch := { world.batch with player := some { rate := sampleRate } } }
      | _, _ => world)
  | .playbackFd, world => (oracle.attempt, world)
  | .openWave output, world =>
    match oracle.openWave with
    | .ok () => world.openWave output
    | .error failure => (.error failure, world)
  | .readFrames, world => (oracle.attempt, world)
  | .playerEnded, world => (world.batch.player.any fun player ↦ player.returncode.isSome, world)
  | .select, world => (oracle.select, world)
  | .write pending, world =>
    match oracle.write with
    | .wrote count => (.wrote (min count pending.length),
        world.mapPlayer fun player ↦ { player with written := player.written ++ pending.take count })
    | outcome => (outcome, world)
  | .terminate, world =>
    if world.batch.player.any fun player ↦ player.returncode.isNone then
      match oracle.terminated with
      | some returncode => (.ok (), world.endPlayer returncode)
      | none => (.error (.other "timed out"), world)
    else (.ok (), world)
  | .cleanup outputs, world => ((), world.cleanup outputs)
  | .popHead request, world => ((), world.popHead request)
  | .closeStdin, world => (oracle.attempt, world.mapPlayer fun player ↦ { player with stdinOpen := false })
  | .waitPlayer, world => (world.batch.player.bind Player.returncode, world)
  | .readStderr, world => (oracle.stderr, world)
  | .onPlayed report, world =>
    (oracle.attempt, { world with batch := { world.batch with reports := world.batch.reports ++ [report] } })
  | .finish, world => ((), { world with draining := false })

/-! ### Waiting, writing and terminating -/

abbrev Steps (ε α : Type) := Process Request Answer ε α

variable {ε α : Type}

def ask (request : Request) : Steps ε (Answer request) := Process.request request

/-- `on_poll()` -/
def poll : Steps Failure Unit := do Process.ofExcept (← ask .poll)

/-- `should_interrupt()` -/
def shouldInterrupt : Steps Failure Bool := do Process.ofExcept (← ask .shouldInterrupt)

def discardHandle (handle : ℕ) : Steps Failure Unit := do Process.ofExcept (← ask (.discard handle))

def cancelHandle (handle : ℕ) : Steps Failure Unit := do Process.ofExcept (← ask (.cancel handle))

/-- What `wait_progress` returns where it is not interrupted. -/
structure Progress where
  sampleRate : ℕ
  chunks : List Chunk
  done : Bool

def waitProgressRound (handle seen : ℕ) (_ : Unit) : Steps Failure (Unit ⊕ Option Progress) := do
  match ← ask (.look handle seen) with
  | .failed error => .throw (.other s!"TTS prefetch failed: {error}")
  | .progress sampleRate chunks done => pure (.inr (some { sampleRate, chunks, done }))
  | .nothing =>
    if ← ask .timedOut then do
      discardHandle handle
      .throw (.other "TTS prefetch timed out")
    else do
      poll
      if ← shouldInterrupt then do
        cancelHandle handle
        pure (.inr none)
      else pure (.inl ())

def waitProgress (rounds handle seen : ℕ) : Steps Failure (Option Progress) := do
  poll
  Process.loop .exhausted (waitProgressRound handle seen) rounds ()

/-- The exception of a `select` that fails. -/
def selectFailed (failure : Failure) : Steps Failure (List UInt8 ⊕ Bool) := do
  if ← ask .playerEnded then .throw (.playback "pw-play exited before playback completed")
  else .throw failure

/-- What a call of `os.write` leaves to be written. -/
def afterWrite (pending : List UInt8) : WriteOutcome → Steps Failure (List UInt8 ⊕ Bool)
  | .wouldBlock => pure (.inl pending)
  | .brokenPipe => .throw (.playback "pw-play closed stdin before playback completed")
  | .failed message => .throw (.other message)
  | .wrote count =>
    if count = 0 then .throw (.playback "pw-play made no write progress") else pure (.inl (pending.drop count))

def writePlaybackRound (pending : List UInt8) : Steps Failure (List UInt8 ⊕ Bool) :=
  if pending = [] then pure (.inr false)
  else do
    poll
    if ← shouldInterrupt then pure (.inr true)
    else if ← ask .playerEnded then .throw (.playback "pw-play exited before playback completed")
    else if ← ask .timedOut then .throw (.playback "pw-play write stalled")
    else
      match ← ask .select with
      | .error failure => selectFailed failure
      | .ok false => pure (.inl pending)
      | .ok true => do afterWrite pending (← ask (.write pending))

/-- `_write_playback`: whether it was interrupted. -/
def writePlayback (rounds : ℕ) (audio : List UInt8) : Steps Failure Bool :=
  Process.loop .exhausted writePlaybackRound rounds audio

def waitForProcessRound (_ : Unit) : Steps Failure (Unit ⊕ Option ℤ) := do
  poll
  if ← shouldInterrupt then pure (.inr none)
  else
    match ← ask .waitPlayer with
    | some returncode => pure (.inr (some returncode))
    | none => if ← ask .timedOut then .throw (.other "pw-play completion stalled") else pure (.inl ())

/-- `_wait_for_process` -/
def waitForProcess (rounds : ℕ) : Steps Failure (Option ℤ) :=
  Process.loop .exhausted waitForProcessRound rounds ()

/-- `_terminate_process` -/
def terminateProcess : Steps Failure Unit := do Process.ofExcept (← ask .terminate)

/-- `if process is not None and process.poll() is None: _terminate_process(process)` -/
def terminateRunning (opened : Bool) : Steps Failure Unit :=
  if opened = true then do
    if ← ask .playerEnded then pure () else terminateProcess
  else pure ()

/-! ### One request -/

/-- The frames of one call of `readframes(4096)`, of two bytes each. -/
def framesRead : ℕ := 2 * 4096

def playFramesRound (rounds : ℕ) (audio : List UInt8) : Steps Failure (List UInt8 ⊕ Bool) := do
  poll
  if ← shouldInterrupt then pure (.inr true)
  else do
    Process.ofExcept (← ask .readFrames)
    if audio = [] then pure (.inr false)
    else if ← writePlayback rounds (audio.take framesRead) then pure (.inr true)
    else pure (.inl (audio.drop framesRead))

def openWave (output : String) : Steps Failure Wave := do Process.ofExcept (← ask (.openWave output))

/-- One chunk file: whether it was interrupted. -/
def playChunk (rounds sampleRate : ℕ) (chunk : Chunk) : Steps Failure Bool := do
  poll
  if ← shouldInterrupt then pure true
  else do
    let wave ← openWave chunk.output
    if wave.channels ≠ 1 ∨ wave.sampleWidth ≠ 2 ∨ wave.frameRate ≠ sampleRate then
      .throw (.other s!"unexpected streaming WAV format: {chunk.output}")
    else Process.loop .exhausted (playFramesRound rounds) rounds wave.audio

def openPlayback (sampleRate : ℕ) : Steps Failure Unit := do Process.ofExcept (← ask (.openPlayback sampleRate))

def playbackFd : Steps Failure Unit := do Process.ofExcept (← ask .playbackFd)

/-- The variables of `drain` while it plays a request. The source's `have` is the length of `chunk_texts`. -/
structure Playing where
  opened : Bool
  sampleRate : ℕ
  interrupted : Bool := false
  finished : Bool := false
  deferredError : Option Failure := none
  chunkTexts : List String := []
  chunksSeen : List Chunk := []

namespace Playing

def seen (playing : Playing) : ℕ := playing.chunkTexts.length

/-- A step that raises leaves the variables as they were. -/
def attempting (playing : Playing) (program : Steps Failure α) : Steps (Playing × Failure) α :=
  program.mapError (playing, ·)

/-- The first chunk opens the player, at the rate of the stream. -/
def openPlayer (playing : Playing) (sampleRate : ℕ) : Steps (Playing × Failure) Playing :=
  if playing.opened = false ∧ playing.seen < playing.chunksSeen.length then do
    let next := { playing with sampleRate }
    next.attempting (openPlayback sampleRate)
    let next := { next with opened := true }
    next.attempting playbackFd
    pure next
  else pure playing

def playChunks (rounds : ℕ) : List Chunk → Playing → Steps (Playing × Failure) Playing
  | [], playing => pure playing
  | chunk :: chunks, playing => do
    if ← playing.attempting (playChunk rounds playing.sampleRate chunk) then
      pure { playing with interrupted := true }
    else do
      ask (.startPrefetch prefetchLimit)
      playChunks rounds chunks { playing with chunkTexts := playing.chunkTexts ++ [chunk.text] }

/-- The chunks that have come since the last look. -/
def play (rounds : ℕ) (playing : Playing) (progress : Progress) : Steps (Playing × Failure) Playing := do
  let playing ← openPlayer { playing with chunksSeen := progress.chunks, finished := progress.done } progress.sampleRate
  playChunks rounds (playing.chunksSeen.drop playing.seen) playing

def round (rounds handle : ℕ) (playing : Playing) : Steps (Playing × Failure) (Playing ⊕ Playing) := do
  ask (.startPrefetch prefetchLimit)
  match ← (waitProgress rounds handle playing.seen).attempt with
  | .error .exhausted => .throw (playing, .exhausted)
  | .error failure => pure (.inr { playing with deferredError := some failure })
  | .ok none => pure (.inr { playing with interrupted := true })
  | .ok (some progress) => do
    let playing ← playing.play rounds progress
    if playing.interrupted = true ∨ playing.finished = true then pure (.inr playing) else pure (.inl playing)

end Playing

/-- The `finally` of a request. -/
def releaseItem (request : PlaybackRequest) (handle : ℕ) (playing : Playing) : Steps Failure Unit := do
  terminateRunning (playing.interrupted && playing.opened)
  discardHandle handle
  ask (.cleanup (playing.chunksSeen.map Chunk.output))
  ask (.popHead request)

/-! ### The whole batch -/

/-- The variables of `drain` between two requests. -/
structure Draining where
  opened : Bool := false
  sampleRate : ℕ := 0
  interrupted : Bool := false
  deferredError : Option Failure := none
  playbackFailed : Bool := false
  played : List Report := []

namespace Draining

/-- The variables after the `except` clauses of a request. -/
def caught (draining : Draining) : Except (Playing × Failure) Playing → Draining × Playing
  | .ok playing =>
    ({ draining with
        opened := playing.opened, sampleRate := playing.sampleRate, interrupted := playing.interrupted
        deferredError := playing.deferredError }, playing)
  | .error (playing, failure) =>
    ({ draining with
        opened := playing.opened, sampleRate := playing.sampleRate, interrupted := playing.interrupted
        deferredError := some failure
        playbackFailed := match failure with
          | .playback _ => true
          | _ => draining.playbackFailed }, playing)

/-- `" ".join(chunk_texts).strip()` -/
def joinTexts (texts : List String) : String := String.ofList (stripText (" ".intercalate texts).toList)

/-- What is reported of a request that has been played in part or as a whole. -/
def report (draining : Draining) (request : PlaybackRequest) (playing : Playing) (doneMeta : Dict) : Report where
  request
  interrupted := draining.interrupted || draining.deferredError.isSome
  playedText := joinTexts playing.chunkTexts
  doneMeta

/-- What is reported of a request that is interrupted before its first chunk has been played. -/
def unplayed (request : PlaybackRequest) : Report where
  request
  interrupted := true
  playedText := ""
  doneMeta := []

/-- What follows a request that has been released. -/
def afterItem (draining : Draining) (request : PlaybackRequest) (handle : ℕ) (playing : Playing) :
    Steps (Draining × Failure) (Draining ⊕ Draining) :=
  if draining.interrupted = true ∧ playing.chunkTexts = [] ∧ draining.deferredError = none then
    pure (.inr { draining with played := draining.played ++ [unplayed request] })
  else if draining.deferredError ≠ none ∧ playing.chunkTexts = [] then pure (.inr draining)
  else do
    let doneMeta ← ask (.doneMeta handle)
    let next := { draining with played := draining.played ++ [draining.report request playing doneMeta] }
    if draining.deferredError ≠ none ∨ draining.interrupted = true then pure (.inr next) else pure (.inl next)

def playItem (rounds : ℕ) (draining : Draining) (request : PlaybackRequest) (handle : ℕ) :
    Steps (Draining × Failure) (Draining ⊕ Draining) := do
  let playing : Playing := { opened := draining.opened, sampleRate := draining.sampleRate }
  match ← (Process.loop (playing, .exhausted) (Playing.round rounds handle) rounds playing).attempt with
  | .error (_, .exhausted) => .throw (draining, .exhausted)
  | outcome => do
    let next := (draining.caught outcome).1
    (releaseItem request handle (draining.caught outcome).2).mapError (next, ·)
    next.afterItem request handle (draining.caught outcome).2

def round (rounds : ℕ) (draining : Draining) : Steps (Draining × Failure) (Draining ⊕ Draining) := do
  ask (.startPrefetch prefetchLimit)
  match ← ask .takeHead with
  | none => pure (.inr draining)
  | some (request, handle) => draining.playItem rounds request handle

/-- `pw-play` has ended with another code than zero. -/
def playerFailed (returncode : ℤ) : Steps Failure Bool := do
  let detail ← Process.ofExcept (← ask .readStderr)
  .throw (.other ("pw-play failed: " ++ if detail = "" then toString returncode else detail))

/-- The end of the player: whether the batch is invalidated. -/
def closePlayer (rounds : ℕ) (draining : Draining) : Steps Failure Bool :=
  if draining.opened = false then pure false
  else if draining.interrupted = true ∨ draining.playbackFailed = true then do
    terminateProcess
    pure draining.playbackFailed
  else do
    Process.ofExcept (← ask .closeStdin)
    match ← waitForProcess rounds with
    | none => do
      terminateProcess
      pure true
    | some returncode => if returncode = 0 then pure false else playerFailed returncode

/-- The reports of the batch. -/
def reports (draining : Draining) (invalidate : Bool) : List Report :=
  if invalidate = true then draining.played.map ({ · with interrupted := true }) else draining.played

end Draining

/-- The `try` of `drain`; an exception carries whether the player has been opened. -/
def drainBatch (rounds : ℕ) : Steps (Bool × Failure) (Draining × Bool) := do
  let draining ← (Process.loop ({}, .exhausted) (Draining.round rounds) rounds {}).mapError
    fun raised ↦ (raised.1.opened, raised.2)
  let invalidate ← (draining.closePlayer rounds).mapError (draining.opened, ·)
  pure (draining, invalidate)

/-- The calls of `on_played`. -/
def deliver : List Report → Steps Failure Unit
  | [] => pure ()
  | report :: reports => do
    Process.ofExcept (← ask (.onPlayed report))
    deliver reports

/-- What follows the playback: the callbacks, and the error that was deferred. -/
def reportBatch (draining : Draining) (invalidate : Bool) : Steps Failure (List Report) := do
  deliver (draining.reports invalidate)
  match draining.deferredError with
  | some failure => .throw failure
  | none => pure (draining.reports invalidate)

/-- The `finally` of `drain`. -/
def finishDrain (opened : Bool) : Steps Failure Unit := do
  terminateRunning opened
  ask .finish

def drain (rounds : ℕ) : Steps Failure (List Report) := do
  ask .begin
  Process.ofExcept (← ask .slot)
  match ← (drainBatch rounds).attempt with
  | .error (_, .exhausted) => .throw .exhausted
  | .error (opened, failure) => do
    finishDrain opened
    .throw failure
  | .ok (draining, invalidate) => do
    finishDrain draining.opened
    reportBatch draining invalidate

end VoiceHarness.Playback
