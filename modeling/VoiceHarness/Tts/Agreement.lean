import VoiceHarness.Tts.Parser
import VoiceHarness.Tts.Server

/-!
# The server and the parser agree

Whatever ends a stream, the parser takes every line before the last one and reports the chunks that the
server emitted. It finishes when the server emitted all chunks and no cancellation reached the stream.
-/

set_option autoImplicit false
set_option relaxedAutoImplicit false

namespace VoiceHarness.Tts

open Library

theorem integer_of_nonneg {number : ℤ} (h : 0 ≤ number) (field : String) :
    integer (some (.int number)) field false = .ok number := by
  have hnot : ¬ number < 0 := Int.not_lt.mpr h
  simp only [integer, Bool.false_eq_true, false_and, if_false, true_and, hnot]

theorem integer_of_pos {number : ℤ} (h : 0 < number) (field : String) :
    integer (some (.int number)) field true = .ok number := by
  have hnot : ¬ number ≤ 0 := Int.not_le.mpr h
  simp only [integer, true_and, hnot, if_false, Bool.true_eq_false, false_and]

/-! ### Cancellations of an active stream -/

namespace Streams

theorem lookup_setEvent (active : List (String × Bool)) (requestId other : String) :
    (setEvent active requestId).lookup other =
      (active.lookup other).map fun set ↦ set || (requestId = other : Bool) := by
  induction active with
  | nil => rfl
  | cons entry active ih =>
    obtain ⟨key, set⟩ := entry
    by_cases hother : other = key
    · subst hother
      by_cases hkey : other = requestId
      · subst hkey
        simp [setEvent]
      · have hne : requestId ≠ other := fun heq ↦ hkey heq.symm
        simp [setEvent, hkey, hne]
    · have hbeq : (other == key) = false := by simpa using hother
      by_cases hkey : key = requestId
      · subst hkey
        simpa [setEvent, hbeq, List.lookup_cons] using ih
      · simpa [setEvent, hbeq, hkey, List.lookup_cons] using ih

/-- A cancellation sets the event of its own stream and no other. -/
theorem lookup_cancel {streams : Streams} {requestId : String} {set : Bool}
    (h : streams.active.lookup requestId = some set) (call : CancelCall) :
    (streams.cancel call).active.lookup requestId =
      some (set || (call.requestId = requestId : Bool)) := by
  unfold cancel
  cases hcall : streams.active.lookup call.requestId with
  | none =>
    have hne : call.requestId ≠ requestId := by
      rintro rfl
      rw [hcall] at h
      cases h
    simp [h, hne]
  | some other => simp only [lookup_setEvent, h, Option.map_some]

/-- The event of an active stream after some cancellations. -/
theorem lookup_cancelAll {streams : Streams} {requestId : String} {set : Bool}
    (h : streams.active.lookup requestId = some set) (calls : List CancelCall) :
    (streams.cancelAll calls).active.lookup requestId =
      some (set || calls.any fun call ↦ call.requestId = requestId) := by
  induction calls generalizing streams set with
  | nil => simpa [cancelAll] using h
  | cons call calls ih =>
    have hrest := ih (lookup_cancel h call)
    rw [List.any_cons, ← Bool.or_assoc]
    exact hrest

/-- The event of a stream that has just been registered. -/
theorem lookup_register (streams : Streams) (requestId : String) (now : Time) :
    (streams.register requestId now).active.lookup requestId =
      some (streams.inForce requestId now) := by
  simp [register]

theorem isSet_of_lookup {streams : Streams} {requestId : String} {set : Bool}
    (h : streams.active.lookup requestId = some set) : streams.isSet requestId = set := by
  unfold isSet
  rw [h]
  cases set <;> rfl

theorem lookup_setPending (pending : List (String × Time)) (requestId : String) (expiresAt : Time) :
    (setPending pending requestId expiresAt).lookup requestId = some expiresAt := by
  unfold setPending
  split_ifs with h
  · induction pending with
    | nil => simp at h
    | cons entry pending ih =>
      by_cases hkey : entry.1 = requestId
      · simp [hkey]
      · have hbeq : (requestId == entry.1) = false := by simpa using fun heq ↦ hkey heq.symm
        have htail : pending.any (fun entry ↦ entry.1 = requestId) = true := by
          simpa [hkey] using h
        rw [List.map_cons, if_neg hkey, List.lookup_cons, hbeq]
        exact ih htail
  · have hnone : pending.lookup requestId = none := by
      rw [List.lookup_eq_none_iff]
      intro entry hentry
      by_contra hfound
      have hkey : entry.1 = requestId := by
        simp only [bne_iff_ne, ne_eq, Decidable.not_not] at hfound
        exact hfound.symm
      exact h (List.any_eq_true.mpr ⟨entry, hentry, decide_eq_true hkey⟩)
    rw [List.lookup_append, hnone]
    simp

/-- A cancellation that comes before the request is pending for two minutes. -/
theorem inForce_cancel {streams : Streams} {call : CancelCall}
    (hinactive : streams.active.lookup call.requestId = none) (now : Time) :
    (streams.cancel call).inForce call.requestId now =
      decide (now < call.now + pendingCancellationSeconds) := by
  unfold cancel inForce
  rw [hinactive]
  simp only [lookup_setPending]

end Streams

namespace StreamRequest

variable (request : StreamRequest) (world : StreamWorld)

/-- One of the calls cancels the stream. -/
def Cancels (calls : List CancelCall) : Prop := ∃ call ∈ calls, call.requestId = request.requestId

/-- Some cancellation reaches the stream before its last event: one that is pending at the registration,
or one that comes while the stream is active. -/
def IsCancelled : Prop :=
  (world.streams.cancelAll world.beforeRegistration).inForce request.requestId world.now = true ∨
  (∃ index < request.chunks.length,
    request.Cancels (world.beforeChunk index) ∨ request.Cancels (world.afterSynthesis index)) ∨
  request.Cancels world.beforeDone

/-- The index, the text and the output of each chunk that the server emitted. -/
def emittedChunks (count : ℕ) : List (ℤ × String × String) :=
  (request.chunks.take count).zipIdx.map fun (chunk, index) ↦
    ((index : ℤ), chunk, request.outputPath world index)

end StreamRequest

/-- The chunks that a client finds in the events of its parser. -/
def chunksOf (events : List Dict) : List (ℤ × String × String) :=
  events.filterMap fun event ↦
    match event.get? "event", event.get? "index", event.get? "text", event.get? "output" with
    | some (.str "chunk"), some (.int index), some (.str text), some (.str output) =>
      some (index, text, output)
    | _, _, _, _ => none

theorem chunksOf_append (first second : List Dict) :
    chunksOf (first ++ second) = chunksOf first ++ chunksOf second :=
  List.filterMap_append

namespace StreamRequest

variable {request : StreamRequest} {world : StreamWorld}

/-! ### The lines of the server -/

theorem outputPath_ne_empty (index : ℕ) : request.outputPath world index ≠ "" := by
  intro h
  have hlength := congrArg String.length h
  simp [outputPath] at hlength

theorem chunksOf_chunkLine (index : ℕ) (chunk : String) (synthesis : Synthesis) :
    chunksOf [request.chunkLine world index chunk synthesis] =
      [((index : ℤ), chunk, request.outputPath world index)] := rfl

theorem emittedChunks_succ {index : ℕ} {chunk : String}
    (hchunk : request.chunks[index]? = some chunk) :
    request.emittedChunks world (index + 1) =
      request.emittedChunks world index ++
        [((index : ℤ), chunk, request.outputPath world index)] := by
  obtain ⟨hlt, rfl⟩ := List.getElem?_eq_some_iff.mp hchunk
  have hlength : (request.chunks.take index).length = index :=
    List.length_take_of_le (Nat.le_of_lt hlt)
  unfold emittedChunks
  rw [List.take_add_one, hchunk, Option.toList_some, List.zipIdx_append, List.map_append, hlength]
  simp

/-- A stream that is cancelled when it is registered emits nothing. -/
theorem emitChunks_of_set {emission : Emission} {index : ℕ} {chunk : String}
    (hset : emission.streams.active.lookup request.requestId = some true)
    (chunks : List String) :
    request.emitChunks world (chunk :: chunks) index emission =
      (emission.receive (world.beforeChunk index), none) := by
  have hlookup := Streams.lookup_cancelAll hset (world.beforeChunk index)
  rw [Bool.true_or] at hlookup
  have hisSet : (emission.receive (world.beforeChunk index)).streams.isSet request.requestId =
      true := Streams.isSet_of_lookup hlookup
  simp only [emitChunks, emitChunk, hisSet, if_true]

/-- The line closes a stream. -/
def IsDone (line : Dict) : Prop :=
  line.get? "ok" = some (.bool true) ∧ line.get? "event" = some (.str "done")

/-- The line reports an exception. -/
def IsError (line : Dict) : Prop := line.get? "ok" = some (.bool false)

theorem isDone_doneLine (emission : Emission) : IsDone (request.doneLine emission) := ⟨rfl, rfl⟩

theorem not_isDone_errorLine (error : String) : ¬ IsDone (errorLine world error) := by
  rintro ⟨hok, -⟩
  have hfalse : (errorLine world error).get? "ok" = some (.bool false) := rfl
  rw [hfalse] at hok
  cases hok

/-- The progress of a parser that has seen the start of the stream and some chunks. -/
def activeProgress (request : StreamRequest) (rate : ℤ) (count : ℕ) : StreamProgress where
  started := true
  done := false
  sampleRate := rate
  expectedChunks := request.chunks.length
  chunks := count
  doneEvent := none

/-- The progress of a parser that has seen the last event. -/
def closedProgress (request : StreamRequest) (rate : ℤ) (emission : Emission) : StreamProgress :=
  { request.activeProgress rate emission.emitted with
    done := true
    doneEvent := some (request.doneLine emission) }

/-- A closed stream finishes unless its last event says that it was cancelled. -/
theorem finish_closedProgress (rate : ℤ) (emission : Emission) :
    ({ requestId := request.requestId
       buffer := []
       progress := request.closedProgress rate emission } : Parser).finish =
      if emission.streams.isSet request.requestId = true then .error "TTS stream was cancelled"
      else .ok (request.doneLine emission) := by
  have hfield : (request.doneLine emission).get? "cancelled" =
      some (.bool (emission.streams.isSet request.requestId)) := rfl
  unfold Parser.finish
  simp only [closedProgress, hfield]
  cases emission.streams.isSet request.requestId <;> rfl

/-- The event of a stream between two looks at it. -/
theorem lookup_receive {emission : Emission}
    (hset : emission.streams.active.lookup request.requestId = some false)
    (calls : List CancelCall) :
    (request.Cancels calls ∧
        (emission.receive calls).streams.active.lookup request.requestId = some true) ∨
      (¬ request.Cancels calls ∧
        (emission.receive calls).streams.active.lookup request.requestId = some false) := by
  have hlookup := Streams.lookup_cancelAll hset calls
  rw [Bool.false_or] at hlookup
  by_cases hcancels : request.Cancels calls
  · have hany : calls.any (fun call ↦ call.requestId = request.requestId) = true := by
      obtain ⟨call, hcall, hid⟩ := hcancels
      exact List.any_eq_true.mpr ⟨call, hcall, decide_eq_true hid⟩
    rw [hany] at hlookup
    exact .inl ⟨hcancels, hlookup⟩
  · have hany : calls.any (fun call ↦ call.requestId = request.requestId) = false := by
      rw [List.any_eq_false]
      intro call hcall hid
      exact hcancels ⟨call, hcall, of_decide_eq_true hid⟩
    rw [hany] at hlookup
    exact .inr ⟨hcancels, hlookup⟩

section

variable [JsonText]

/-- An accepted event of an open stream is checked by its kind. -/
theorem validateEvent_of_fields {progress : StreamProgress} {requestId : String} {event : Dict}
    (hdone : progress.done = false) (hok : event.get? "ok" = some (.bool true))
    (hid : event.get? "request_id" = some (.str requestId)) :
    progress.validateEvent requestId event = progress.validateKind event := by
  unfold StreamProgress.validateEvent
  rw [if_neg (fun hne ↦ hne hok), hdone, if_neg Bool.false_ne_true, if_neg (fun hne ↦ hne hid)]

theorem validateEvent_startLine {rate : ℤ} (hrate : 0 < rate) (hchunks : request.chunks ≠ []) :
    StreamProgress.initial.validateEvent request.requestId (request.startLine rate) =
      .ok (request.activeProgress rate 0) := by
  have hlength : (0 : ℤ) < request.chunks.length :=
    Int.natCast_pos.mpr (List.length_pos_iff.mpr hchunks)
  have hok : (request.startLine rate).get? "ok" = some (.bool true) := rfl
  have hid : (request.startLine rate).get? "request_id" = some (.str request.requestId) := rfl
  have hevent : (request.startLine rate).get? "event" = some (.str "start") := rfl
  have hsampleRate : (request.startLine rate).get? "sample_rate" = some (.int rate) := rfl
  have hcount : (request.startLine rate).get? "chunks" =
      some (.int request.chunks.length) := rfl
  rw [validateEvent_of_fields rfl hok hid, StreamProgress.validateKind, hevent]
  show StreamProgress.initial.start (request.startLine rate) = _
  unfold StreamProgress.start
  rw [hsampleRate, hcount]
  simp only [integer_of_pos hrate, integer_of_pos hlength]
  rfl

theorem validateEvent_chunkLine (rate : ℤ) (index : ℕ) (chunk : String) (synthesis : Synthesis) :
    (request.activeProgress rate index).validateEvent request.requestId
        (request.chunkLine world index chunk synthesis) =
      .ok (request.activeProgress rate (index + 1)) := by
  set line := request.chunkLine world index chunk synthesis with hline
  have hok : line.get? "ok" = some (.bool true) := rfl
  have hid : line.get? "request_id" = some (.str request.requestId) := rfl
  have hevent : line.get? "event" = some (.str "chunk") := rfl
  have hindex : line.get? "index" = some (.int index) := rfl
  have houtput : line.get? "output" = some (.str (request.outputPath world index)) := rfl
  have htext : line.get? "text" = some (.str chunk) := rfl
  rw [validateEvent_of_fields rfl hok hid, StreamProgress.validateKind, hevent]
  show (request.activeProgress rate index).chunk line = _
  unfold StreamProgress.chunk
  rw [hindex, houtput, htext]
  simp only [integer_of_nonneg (Int.natCast_nonneg index), outputPath_ne_empty, if_false]
  have hnext : (index : ℤ) = (request.activeProgress rate index).chunks := rfl
  rw [if_neg (by simp [activeProgress]), if_neg (fun hne ↦ hne hnext)]
  rfl

/-- The last event closes the stream when it is cancelled or complete. -/
theorem validateEvent_doneLine {rate : ℤ} {emission : Emission}
    (hcomplete : emission.streams.isSet request.requestId = false →
      emission.emitted = request.chunks.length) :
    (request.activeProgress rate emission.emitted).validateEvent request.requestId
        (request.doneLine emission) =
      .ok (request.closedProgress rate emission) := by
  have hok : (request.doneLine emission).get? "ok" = some (.bool true) := rfl
  have hid : (request.doneLine emission).get? "request_id" = some (.str request.requestId) := rfl
  have hevent : (request.doneLine emission).get? "event" = some (.str "done") := rfl
  have hcancelled : (request.doneLine emission).get? "cancelled" =
      some (.bool (emission.streams.isSet request.requestId)) := rfl
  have hchunks : (request.doneLine emission).get? "chunks" = some (.int emission.emitted) := rfl
  have hcount : ¬ (emission.streams.isSet request.requestId = false ∧
      (emission.emitted : ℤ) ≠
        (request.activeProgress rate emission.emitted).expectedChunks) := by
    rintro ⟨hset, hne⟩
    exact hne (congrArg Nat.cast (hcomplete hset))
  rw [validateEvent_of_fields rfl hok hid, StreamProgress.validateKind, hevent]
  show (request.activeProgress rate emission.emitted).complete (request.doneLine emission) = _
  unfold StreamProgress.complete
  rw [hcancelled, hchunks]
  simp only [integer_of_nonneg (Int.natCast_nonneg emission.emitted)]
  have hnext : (emission.emitted : ℤ) =
    (request.activeProgress rate emission.emitted).chunks := rfl
  rw [if_neg (by simp [activeProgress]), if_neg (fun hne ↦ hne hnext), if_neg hcount]
  rfl

/-- Before its first chunk a stream has not started, and its last event is refused. -/
theorem validateEvent_doneLine_initial (emission : Emission) :
    StreamProgress.initial.validateEvent request.requestId (request.doneLine emission) =
      .error "TTS stream completed before start" := by
  have hok : (request.doneLine emission).get? "ok" = some (.bool true) := rfl
  have hid : (request.doneLine emission).get? "request_id" = some (.str request.requestId) := rfl
  have hevent : (request.doneLine emission).get? "event" = some (.str "done") := rfl
  rw [validateEvent_of_fields rfl hok hid, StreamProgress.validateKind, hevent]
  rfl

theorem validateEvent_errorLine (progress : StreamProgress) (requestId error : String) :
    progress.validateEvent requestId (errorLine world error) =
      .error ("TTS backend failed: " ++
        JsonText.str (.str (world.redactDiagnostic error))) := by
  have hok : (errorLine world error).get? "ok" = some (.bool false) := rfl
  have herror : (errorLine world error).get? "error" =
      some (.str (world.redactDiagnostic error)) := rfl
  unfold StreamProgress.validateEvent
  rw [if_pos, herror]
  · rfl
  · rw [hok]
    simp

/-! ### The loop -/

/-- The progress of the parser when the server has emitted `count` chunks. -/
def progressAt (request : StreamRequest) (rate : ℤ) (count : ℕ) : StreamProgress :=
  if count = 0 then .initial else request.activeProgress rate count

/-- What the lines of an emission are to the parser. -/
structure Follows (request : StreamRequest) (world : StreamWorld) (rate : ℤ)
    (emission : Emission) : Prop where
  count_le : emission.emitted ≤ request.chunks.length
  sampleRate : emission.sampleRate = if emission.emitted = 0 then none else some rate
  accepted : StreamProgress.initial.validateAll request.requestId emission.lines =
    .ok (request.progressAt rate emission.emitted)
  reported : chunksOf emission.lines = request.emittedChunks world emission.emitted

variable {rate : ℤ} {emission : Emission} {index : ℕ} {chunk : String}

/-- The figures and the streams of an emission are not in its lines. -/
theorem Follows.congr {other : Emission} (h : Follows request world rate emission)
    (hlines : other.lines = emission.lines) (hemitted : other.emitted = emission.emitted)
    (hrate : other.sampleRate = emission.sampleRate) : Follows request world rate other where
  count_le := by rw [hemitted]; exact h.count_le
  sampleRate := by rw [hrate, hemitted]; exact h.sampleRate
  accepted := by rw [hlines, hemitted]; exact h.accepted
  reported := by rw [hlines, hemitted]; exact h.reported

/-- Events that the parser takes for the next chunk. -/
theorem Follows.add (h : Follows request world rate emission) (hindex : emission.emitted = index)
    (hchunk : request.chunks[index]? = some chunk) {synthesis : Synthesis}
    (hsynthesis : synthesis.rate = rate) {lines : List Dict}
    (haccepted : (request.progressAt rate index).validateAll request.requestId lines =
      .ok (request.activeProgress rate (index + 1)))
    (hreported : chunksOf lines = [((index : ℤ), chunk, request.outputPath world index)]) :
    Follows request world rate (emission.add lines synthesis) := by
  obtain ⟨hlt, -⟩ := List.getElem?_eq_some_iff.mp hchunk
  have hbefore := h.accepted
  have hchunks := h.reported
  rw [hindex] at hbefore hchunks
  have hnext : (emission.add lines synthesis).emitted = index + 1 := congrArg (· + 1) hindex
  refine ⟨?_, ?_, ?_, ?_⟩
  · rw [hnext]
    exact hlt
  · rw [hnext, if_neg (Nat.succ_ne_zero index), ← hsynthesis]
    rfl
  · rw [hnext, progressAt, if_neg (Nat.succ_ne_zero index)]
    show StreamProgress.initial.validateAll request.requestId (emission.lines ++ lines) = _
    rw [StreamProgress.validateAll_append, hbefore]
    exact haccepted
  · rw [hnext, emittedChunks_succ hchunk]
    show chunksOf (emission.lines ++ lines) = _
    rw [chunksOf_append, hchunks, hreported]

/-- The events of a chunk follow those of the chunks before it. -/
theorem writeChunk_spec (hrate : 0 < rate) (h : Follows request world rate emission)
    (hindex : emission.emitted = index) (hchunk : request.chunks[index]? = some chunk)
    {synthesis : Synthesis} (hsynthesis : synthesis.rate = rate) :
    ∃ lines, request.writeChunk world index chunk synthesis emission =
        .emitted (emission.add lines synthesis) ∧
      Follows request world rate (emission.add lines synthesis) := by
  obtain ⟨hlt, -⟩ := List.getElem?_eq_some_iff.mp hchunk
  have hchunks : request.chunks ≠ [] := List.ne_nil_of_length_pos (Nat.zero_lt_of_lt hlt)
  have hsampleRate := h.sampleRate
  rw [hindex] at hsampleRate
  set line := request.chunkLine world index chunk synthesis with hline
  by_cases hfirst : index = 0
  · rw [if_pos hfirst] at hsampleRate
    refine ⟨[request.startLine synthesis.rate, line], ?_, h.add hindex hchunk hsynthesis ?_ ?_⟩
    · simp only [writeChunk, hsampleRate, hline]
    · rw [progressAt, if_pos hfirst, hsynthesis, StreamProgress.validateAll,
        validateEvent_startLine hrate hchunks]
      simp only [StreamProgress.validateAll, hline]
      rw [← hfirst, validateEvent_chunkLine]
    · rw [hline]
      rfl
  · rw [if_neg hfirst] at hsampleRate
    have hsame : ¬ synthesis.rate ≠ rate := fun hne ↦ hne hsynthesis
    refine ⟨[line], ?_, h.add hindex hchunk hsynthesis ?_
      (chunksOf_chunkLine index chunk synthesis)⟩
    · simp only [writeChunk, hsampleRate, if_neg hsame, hline]
    · rw [progressAt, if_neg hfirst, StreamProgress.validateAll, hline, validateEvent_chunkLine]
      rfl

/-- The cancellations that come while a chunk is made. -/
def CancelledAt (request : StreamRequest) (world : StreamWorld) (index : ℕ) : Prop :=
  request.Cancels (world.beforeChunk index) ∨ request.Cancels (world.afterSynthesis index)

/-- One round of the loop emits its chunk, stops at a cancellation or fails. -/
theorem emitChunk_spec (hrate : 0 < rate)
    (hconstant : ∀ index synthesis, world.synthesize index = .ok synthesis → synthesis.rate = rate)
    (h : Follows request world rate emission) (hindex : emission.emitted = index)
    (hchunk : request.chunks[index]? = some chunk)
    (hset : emission.streams.active.lookup request.requestId = some false) :
    (∃ next, request.emitChunk world index chunk emission = .emitted next ∧
      Follows request world rate next ∧ next.emitted = index + 1 ∧
      next.streams.active.lookup request.requestId = some false ∧
      ¬ request.CancelledAt world index) ∨
    (∃ next, request.emitChunk world index chunk emission = .cancelled next ∧
      Follows request world rate next ∧ next.emitted = index ∧
      next.streams.active.lookup request.requestId = some true ∧
      request.CancelledAt world index) ∨
    ∃ next error, request.emitChunk world index chunk emission = .failed next error ∧
      Follows request world rate next ∧ next.emitted = index := by
  have hbefore : Follows request world rate (emission.receive (world.beforeChunk index)) :=
    h.congr rfl rfl rfl
  obtain ⟨hcancels, hevent⟩ | ⟨hbeforeChunk, hevent⟩ :=
    lookup_receive hset (world.beforeChunk index)
  · have hisSet := Streams.isSet_of_lookup hevent
    refine .inr (.inl ⟨_, ?_, hbefore, hindex, hevent, .inl hcancels⟩)
    simp only [emitChunk, hisSet, if_true]
  · have hisSet := Streams.isSet_of_lookup hevent
    cases hresult : world.synthesize index with
    | error error =>
      refine .inr (.inr ⟨_, error, ?_, hbefore, hindex⟩)
      simp only [emitChunk, hisSet, Bool.false_eq_true, if_false, hresult]
    | ok synthesis =>
      set made : Emission := { emission.receive (world.beforeChunk index) with
        generationSeconds := (emission.receive (world.beforeChunk index)).generationSeconds +
          synthesis.elapsed } with hmade
      have hafter : Follows request world rate (made.receive (world.afterSynthesis index)) :=
        hbefore.congr rfl rfl rfl
      have hmadeEvent : made.streams.active.lookup request.requestId = some false := hevent
      obtain ⟨hcancels, hlater⟩ | ⟨hafterSynthesis, hlater⟩ :=
        lookup_receive hmadeEvent (world.afterSynthesis index)
      · have hlaterSet := Streams.isSet_of_lookup hlater
        refine .inr (.inl ⟨_, ?_, hafter, hindex, hlater, .inr hcancels⟩)
        simp only [emitChunk, hisSet, Bool.false_eq_true, if_false, hresult, ← hmade, hlaterSet,
          if_true]
      · have hlaterSet := Streams.isSet_of_lookup hlater
        obtain ⟨lines, hwrite, hfollows⟩ := writeChunk_spec hrate hafter hindex hchunk
          (hconstant index synthesis hresult)
        refine .inl ⟨_, ?_, hfollows, congrArg (· + 1) hindex, hlater, ?_⟩
        · simp only [emitChunk, hisSet, Bool.false_eq_true, if_false, hresult, ← hmade, hlaterSet]
          exact hwrite
        · rintro (hcancels | hcancels)
          · exact hbeforeChunk hcancels
          · exact hafterSynthesis hcancels

/-- The whole loop: it emits every chunk and meets no cancellation, or it stops before. -/
theorem emitChunks_spec (hrate : 0 < rate)
    (hconstant : ∀ index synthesis, world.synthesize index = .ok synthesis → synthesis.rate = rate)
    {chunks : List String} (hchunks : request.chunks.drop index = chunks)
    (h : Follows request world rate emission) (hindex : emission.emitted = index)
    (hset : emission.streams.active.lookup request.requestId = some false) :
    Follows request world rate (request.emitChunks world chunks index emission).1 ∧
    (((request.emitChunks world chunks index emission).2 = none ∧
        (request.emitChunks world chunks index emission).1.emitted = request.chunks.length ∧
        (request.emitChunks world chunks index emission).1.streams.active.lookup
          request.requestId = some false ∧
        ∀ later, index ≤ later → later < request.chunks.length →
          ¬ request.CancelledAt world later) ∨
      ((request.emitChunks world chunks index emission).2 = none ∧
        (request.emitChunks world chunks index emission).1.emitted < request.chunks.length ∧
        (request.emitChunks world chunks index emission).1.streams.active.lookup
          request.requestId = some true) ∨
      ((request.emitChunks world chunks index emission).2.isSome = true ∧
        (request.emitChunks world chunks index emission).1.emitted < request.chunks.length)) := by
  induction chunks generalizing index emission with
  | nil =>
    have hend : request.chunks.length ≤ index := List.drop_eq_nil_iff.mp hchunks
    have hall : emission.emitted = request.chunks.length :=
      Nat.le_antisymm h.count_le (hindex ▸ hend)
    refine ⟨h, .inl ⟨rfl, hall, hset, fun later hlater hlt ↦ ?_⟩⟩
    omega
  | cons chunk chunks ih =>
    have hchunk : request.chunks[index]? = some chunk := by
      have hhead := congrArg List.head? hchunks
      rwa [List.head?_drop] at hhead
    have hlt : index < request.chunks.length := (List.getElem?_eq_some_iff.mp hchunk).1
    have hrest : request.chunks.drop (index + 1) = chunks := by
      have htail := congrArg List.tail hchunks
      rwa [List.tail_drop] at htail
    rw [emitChunks]
    obtain ⟨next, hround, hfollows, hnext, hevent, hquiet⟩ |
      ⟨next, hround, hfollows, hnext, hevent, -⟩ | ⟨next, error, hround, hfollows, hnext⟩ :=
        emitChunk_spec hrate hconstant h hindex hchunk hset
    · simp only [hround]
      obtain ⟨hfinal, hends⟩ := ih hrest hfollows hnext hevent
      refine ⟨hfinal, hends.imp_left ?_⟩
      rintro ⟨hnone, hall, hfalse, hlater⟩
      refine ⟨hnone, hall, hfalse, fun later hle hltLater ↦ ?_⟩
      rcases Nat.eq_or_lt_of_le hle with rfl | hgt
      · exact hquiet
      · exact hlater later hgt hltLater
    · simp only [hround]
      exact ⟨hfollows, .inr (.inl ⟨trivial, hnext ▸ hlt, hevent⟩)⟩
    · simp only [hround]
      exact ⟨hfollows, .inr (.inr ⟨rfl, hnext ▸ hlt⟩)⟩

/-! ### The whole stream -/

/-- How a stream ends: with an exception before its last chunk, or with its last event, which says
whether a cancellation was seen. -/
def Ends (request : StreamRequest) (world : StreamWorld) (served : Served) : Prop :=
  (served.emitted < request.chunks.length ∧ ∃ error, served.last = errorLine world error) ∨
  ∃ emission : Emission, served.last = request.doneLine emission ∧
    emission.emitted = served.emitted ∧
    ((emission.streams.isSet request.requestId = false ∧
        served.emitted = request.chunks.length ∧ ¬ request.IsCancelled world) ∨
      (emission.streams.isSet request.requestId = true ∧
        (served.emitted = request.chunks.length → request.IsCancelled world)))

/-- What the lines of a stream are to the parser. -/
structure Agrees (request : StreamRequest) (world : StreamWorld) (rate : ℤ) (served : Served) :
    Prop where
  accepted : StreamProgress.initial.validateAll request.requestId served.written =
    .ok (request.progressAt rate served.emitted)
  reported : chunksOf served.written = request.emittedChunks world served.emitted
  ends : request.Ends world served

theorem agrees_refused (hchunks : request.chunks ≠ []) (error : String) :
    request.Agrees world rate (refused world error) where
  accepted := rfl
  reported := rfl
  ends := .inl ⟨List.length_pos_iff.mpr hchunks, error, rfl⟩

/-- The emission of a stream that has just been registered. -/
theorem follows_initial (streams : Streams) :
    Follows request world rate {
      streams
      sampleRate := none
      lines := []
      emitted := 0
      audioSeconds := 0
      generationSeconds := 0 } where
  count_le := Nat.zero_le _
  sampleRate := rfl
  accepted := rfl
  reported := rfl

/-- The lines of a registered stream. -/
theorem agrees_stream (hchunks : request.chunks ≠ []) (hrate : 0 < rate)
    (hconstant : ∀ index synthesis, world.synthesize index = .ok synthesis → synthesis.rate = rate) :
    request.Agrees world rate (request.stream world
      ((world.streams.cancelAll world.beforeRegistration).register request.requestId
        world.now)) := by
  set streams := world.streams.cancelAll world.beforeRegistration with hstreams
  set start : Emission := {
    streams := streams.register request.requestId world.now
    sampleRate := none
    lines := []
    emitted := 0
    audioSeconds := 0
    generationSeconds := 0 } with hstart
  have hlength : 0 < request.chunks.length := List.length_pos_iff.mpr hchunks
  have hregistered := streams.lookup_register request.requestId world.now
  have hfollows : Follows request world rate start := follows_initial _
  by_cases hforce : streams.inForce request.requestId world.now = true
  · have hset : start.streams.active.lookup request.requestId = some true := by
      rw [← hforce]
      exact hregistered
    obtain ⟨chunk, chunks, hcons⟩ := List.exists_cons_of_ne_nil hchunks
    have hloop : request.emitChunks world request.chunks 0 start =
        (start.receive (world.beforeChunk 0), none) := by
      rw [hcons]
      exact emitChunks_of_set hset chunks
    have hlast := Streams.lookup_cancelAll (Streams.lookup_cancelAll hset (world.beforeChunk 0))
      world.beforeDone
    rw [Bool.true_or, Bool.true_or] at hlast
    simp only [stream, ← hstart, hloop]
    refine ⟨hfollows.accepted, hfollows.reported, .inr ⟨_, rfl, rfl, .inr
      ⟨Streams.isSet_of_lookup hlast, fun _ ↦ .inl hforce⟩⟩⟩
  · have hset : start.streams.active.lookup request.requestId = some false := by
      rw [← Bool.eq_false_iff.mpr hforce]
      exact hregistered
    obtain ⟨hfinal, hends⟩ := emitChunks_spec hrate hconstant List.drop_zero hfollows rfl hset
    rcases hloop : request.emitChunks world request.chunks 0 start with ⟨final, error⟩
    rw [hloop] at hfinal hends
    obtain ⟨herror, hall, hevent, hquiet⟩ | ⟨herror, hfew, hevent⟩ | ⟨herror, hfew⟩ := hends
    · simp only at herror hall hevent
      subst herror
      simp only [stream, ← hstart, hloop]
      refine ⟨hfinal.accepted, hfinal.reported, .inr ⟨_, rfl, rfl, ?_⟩⟩
      obtain ⟨hcancels, hlast⟩ | ⟨hnot, hlast⟩ := lookup_receive hevent world.beforeDone
      · exact .inr ⟨Streams.isSet_of_lookup hlast, fun _ ↦ .inr (.inr hcancels)⟩
      · refine .inl ⟨Streams.isSet_of_lookup hlast, hall, ?_⟩
        rintro (hpending | ⟨index, hlt, hcancels⟩ | hcancels)
        · exact hforce hpending
        · exact hquiet index (Nat.zero_le index) hlt hcancels
        · exact hnot hcancels
    · simp only at herror hfew hevent
      subst herror
      simp only [stream, ← hstart, hloop]
      have hlast := Streams.lookup_cancelAll hevent world.beforeDone
      rw [Bool.true_or] at hlast
      refine ⟨hfinal.accepted, hfinal.reported, .inr ⟨_, rfl, rfl, .inr
        ⟨Streams.isSet_of_lookup hlast, fun hall ↦ absurd hall (Nat.ne_of_lt hfew)⟩⟩⟩
    · obtain ⟨failure, rfl⟩ := Option.isSome_iff_exists.mp herror
      simp only [stream, ← hstart, hloop]
      exact ⟨hfinal.accepted, hfinal.reported, .inl ⟨hfew, failure, rfl⟩⟩

theorem agrees_streamResponse (hchunks : request.chunks ≠ []) (hrate : 0 < rate)
    (hconstant : ∀ index synthesis, world.synthesize index = .ok synthesis → synthesis.rate = rate) :
    request.Agrees world rate (request.streamResponse world) := by
  unfold streamResponse
  cases world.textAndVoice with
  | error error => exact agrees_refused hchunks error
  | ok accepted =>
    by_cases hid : isRequestId request.requestId = true
    · simp only [hid, Bool.not_true, Bool.false_eq_true, if_false]
      cases world.flagsAndDirectory with
      | error error => exact agrees_refused hchunks error
      | ok prepared =>
        simp only
        cases (world.streams.cancelAll world.beforeRegistration).active.lookup
            request.requestId with
        | some event => exact agrees_refused hchunks _
        | none => exact agrees_stream hchunks hrate hconstant
    · have hnot : isRequestId request.requestId = false := Bool.eq_false_iff.mpr hid
      simp only [hnot, Bool.not_false, if_true]
      exact agrees_refused hchunks _

variable {served : Served}

/-- The parser takes the last event of a stream that has started. -/
theorem Agrees.validate_last (hchunks : request.chunks ≠ [])
    (h : request.Agrees world rate served) :
    (∃ failure, (request.progressAt rate served.emitted).validateEvent request.requestId
        served.last = .error failure ∧ ¬ (IsDone served.last ∧ 0 < served.emitted) ∧
        ¬ (served.emitted = request.chunks.length ∧ ¬ request.IsCancelled world)) ∨
      ∃ progress, (request.progressAt rate served.emitted).validateEvent request.requestId
        served.last = .ok progress ∧ (IsDone served.last ∧ 0 < served.emitted) ∧
        ((∃ event, ({ requestId := request.requestId, buffer := [], progress } :
            Parser).finish = .ok event) ↔
          served.emitted = request.chunks.length ∧ ¬ request.IsCancelled world) := by
  have hlength : 0 < request.chunks.length := List.length_pos_iff.mpr hchunks
  obtain ⟨hfew, error, hlast⟩ | ⟨emission, hlast, hemitted, hflag⟩ := h.ends
  · refine .inl ⟨_, by rw [hlast]; exact validateEvent_errorLine _ _ error, ?_, ?_⟩
    · rintro ⟨hdone, -⟩
      rw [hlast] at hdone
      exact not_isDone_errorLine error hdone
    · rintro ⟨hall, -⟩
      omega
  · by_cases hnone : served.emitted = 0
    · refine .inl ⟨"TTS stream completed before start", ?_, fun hdone ↦ ?_, fun hall ↦ ?_⟩
      · rw [hnone, hlast, progressAt, if_pos rfl]
        exact validateEvent_doneLine_initial emission
      · omega
      · omega
    · have hcomplete : emission.streams.isSet request.requestId = false →
          emission.emitted = request.chunks.length := by
        intro hset
        obtain ⟨-, hall, -⟩ | ⟨htrue, -⟩ := hflag
        · rw [hemitted, hall]
        · rw [hset] at htrue
          cases htrue
      refine .inr ⟨request.closedProgress rate emission, ?_,
        ⟨hlast ▸ isDone_doneLine emission, Nat.pos_of_ne_zero hnone⟩, ?_⟩
      · rw [hlast, progressAt, if_neg hnone, ← hemitted]
        exact validateEvent_doneLine hcomplete
      · rw [finish_closedProgress]
        obtain ⟨hset, hall, hquiet⟩ | ⟨hset, himplies⟩ := hflag
        · rw [hset, if_neg Bool.false_ne_true]
          exact ⟨fun _ ↦ ⟨hall, hquiet⟩, fun _ ↦ ⟨_, rfl⟩⟩
        · rw [hset, if_pos rfl]
          constructor
          · rintro ⟨event, hfinish⟩
            cases hfinish
          · rintro ⟨hall, hquiet⟩
            exact absurd (himplies hall) hquiet

/-- For every stream of chunks at one rate, whatever cancels it or makes it fail and wherever its text is
cut: the parser takes the lines before the last one, which is the last event or an error, and finds in
them the chunks that the server emitted; it takes the last one too if that is the last event of a stream
that has started; and it finishes if all chunks were emitted and nothing cancelled the request. -/
theorem stream_agrees (request : StreamRequest) (world : StreamWorld) (rate : ℤ)
    (hchunks : request.chunks ≠ []) (hrate : 0 < rate)
    (hconstant : ∀ index synthesis, world.synthesize index = .ok synthesis → synthesis.rate = rate)
    (hjson : ∀ line ∈ (request.streamResponse world).written ++
      [(request.streamResponse world).last], IsReadBack line) :
    let served := request.streamResponse world
    let client := Parser.new request.requestId
    (IsDone served.last ∨ IsError served.last) ∧
    (∀ fragments : List (List Char), fragments.flatten = Parser.encode served.written →
      ∃ parser, client.feedAll fragments = .ok (served.written, parser)) ∧
    chunksOf served.written = request.emittedChunks world served.emitted ∧
    ∀ fragments : List (List Char),
      fragments.flatten = Parser.encode (served.written ++ [served.last]) →
        ((∃ parser, client.feedAll fragments = .ok (served.written ++ [served.last], parser)) ↔
          IsDone served.last ∧ 0 < served.emitted) ∧
        ((∃ answer, client.readStream fragments = .ok answer) ↔
          served.emitted = request.chunks.length ∧ ¬ request.IsCancelled world) := by
  intro served client
  have h : request.Agrees world rate served := agrees_streamResponse hchunks hrate hconstant
  refine ⟨?_, fun fragments hfragments ↦ ?_, h.reported, fun fragments hfragments ↦ ?_⟩
  · obtain ⟨-, error, hlast⟩ | ⟨emission, hlast, -⟩ := h.ends
    · right
      rw [hlast]
      rfl
    · left
      rw [hlast]
      exact isDone_doneLine emission
  · have hfed := Parser.feedAll_encode
      (fun line hline ↦ hjson line (List.mem_append_left _ hline)) List.not_mem_nil
      (show client.buffer ++ fragments.flatten = _ from hfragments)
    refine ⟨{ client with progress := request.progressAt rate served.emitted }, ?_⟩
    rw [hfed]
    show (StreamProgress.initial.validateAll request.requestId served.written).map _ = _
    rw [h.accepted]
    rfl
  · have hvalidated : StreamProgress.initial.validateAll request.requestId
        (served.written ++ [served.last]) =
          (request.progressAt rate served.emitted).validateAll request.requestId
            [served.last] := by
      rw [StreamProgress.validateAll_append, h.accepted]
    have hfed := Parser.feedAll_encode hjson List.not_mem_nil
      (show client.buffer ++ fragments.flatten = _ from hfragments)
    have hread : client.readStream fragments = _ := Parser.readStream_encode hjson hfragments
    change client.feedAll fragments =
      (StreamProgress.initial.validateAll request.requestId _).map _ at hfed
    rw [hvalidated, StreamProgress.validateAll] at hfed hread
    obtain ⟨failure, hevent, hnotDone, hnotAll⟩ | ⟨progress, hevent, hdone, hfinish⟩ :=
      h.validate_last hchunks
    · rw [hevent] at hfed hread
      constructor
      · refine ⟨?_, fun hyes ↦ absurd hyes hnotDone⟩
        rintro ⟨parser, hok⟩
        rw [hfed] at hok
        cases hok
      · refine ⟨?_, fun hyes ↦ absurd hyes hnotAll⟩
        rintro ⟨answer, hok⟩
        rw [hread] at hok
        cases hok
    · rw [hevent] at hfed hread
      constructor
      · exact ⟨fun _ ↦ hdone, fun _ ↦ ⟨_, hfed⟩⟩
      · rw [← hfinish, hread]
        constructor
        · rintro ⟨answer, hok⟩
          simp only [StreamProgress.validateAll] at hok
          cases hend : ({ requestId := request.requestId, buffer := [], progress } :
              Parser).finish with
          | error error =>
            rw [hend] at hok
            cases hok
          | ok event => exact ⟨event, rfl⟩
        · rintro ⟨event, hok⟩
          refine ⟨(served.written ++ [served.last], event), ?_⟩
          simp only [StreamProgress.validateAll, hok]
          rfl

end

/-- A positive number of thousandths as `repr` writes it. -/
def thousandths (value : ℚ) : List Char :=
  let count := (value * 1000).num.natAbs
  let digits := (Nat.toDigits 10 (1000 + count % 1000)).drop 1
  Nat.toDigits 10 (count / 1000) ++ '.' :: digits.take 1 ++
    ((digits.drop 1).reverse.dropWhile (· = '0')).reverse

/-- The text of a scalar that is no negative number and has no character to escape. -/
def scalarText : Json → List Char
  | .bool true => ['t', 'r', 'u', 'e']
  | .bool false => ['f', 'a', 'l', 's', 'e']
  | .int value => Nat.toDigits 10 value.natAbs
  | .float value => thousandths value
  | .str text => '"' :: text.toList ++ ['"']
  | _ => ['n', 'u', 'l', 'l']

/-- The text of a record of such scalars. -/
def recordText (fields : Dict) : List Char :=
  let items := fields.map fun entry ↦
    '"' :: entry.1.toList ++ '"' :: ':' :: ' ' :: scalarText entry.2
  '{' :: [',', ' '].intercalate items ++ ['}']

/-- `json` on the text of some records. -/
@[reducible] def recordsText (records : List Dict) : JsonText where
  dumps value := recordText value.asDict
  loads text := (records.find? fun record ↦ recordText record = text).map .obj
  str value := String.ofList (scalarText value)

def greeting : StreamRequest where
  requestId := "reply-1"
  chunks := ["Hello.", "How are you?"]

def quietWorld : StreamWorld where
  outputRoot := "/run/voice-harness"
  redactDiagnostic := id
  textAndVoice := .ok ()
  flagsAndDirectory := .ok ()
  synthesize _ := .ok { rate := 24000, duration := 1 / 2, elapsed := 1 / 4 }
  streams := { active := [], pending := [] }
  beforeRegistration := []
  now := 0
  beforeChunk _ := []
  afterSynthesis _ := []
  beforeDone := []

/-- The lines of a stream that nothing disturbs. -/
def greetingLines : List Dict :=
  (greeting.streamResponse quietWorld).written ++ [(greeting.streamResponse quietWorld).last]

theorem isReadBack_greetingLines :
    ∀ line ∈ greetingLines, @IsReadBack (recordsText greetingLines) line := by
  decide +kernel

theorem not_isCancelled_greeting : ¬ greeting.IsCancelled quietWorld := by
  rintro (hpending | ⟨index, -, ⟨call, hcall, -⟩ | ⟨call, hcall, -⟩⟩ | ⟨call, hcall, -⟩)
  · cases hpending
  · cases hcall
  · cases hcall
  · cases hcall

theorem stream_agrees_greeting :
    letI := recordsText greetingLines
    ∃ answer, (Parser.new greeting.requestId).readStream [Parser.encode greetingLines] =
      .ok answer := by
  have hagrees := @stream_agrees (recordsText greetingLines) greeting quietWorld 24000 (by decide)
    (by decide) (fun index synthesis hsynthesis ↦ by cases hsynthesis; rfl)
    isReadBack_greetingLines
  exact ((hagrees.2.2.2 _ List.flatten_singleton).2).mpr
    ⟨by decide +kernel, not_isCancelled_greeting⟩

end StreamRequest

end VoiceHarness.Tts
