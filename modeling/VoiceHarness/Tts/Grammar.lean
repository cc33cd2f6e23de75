import VoiceHarness.Tts.Delivery

/-!
# The grammar of a speech stream

The streams that a parser takes to the end: a start event with the number of chunks, the chunks in order and
a completion that was not cancelled. The checks of the parser are flags and counters that each event moves.
-/

set_option autoImplicit false
set_option relaxedAutoImplicit false

namespace VoiceHarness.Tts

open Library

/-- The event is a good answer to this request. -/
structure Answers (requestId : String) (event : Dict) : Prop where
  ok : event.get? "ok" = some (.bool true)
  requestId : event.get? "request_id" = some (.str requestId)

/-- The start of a stream of this many chunks. -/
structure IsStart (requestId : String) (count : ℕ) (event : Dict) : Prop where
  answers : Answers requestId event
  kind : event.get? "event" = some (.str "start")
  sampleRate : ∃ rate : ℤ, 0 < rate ∧ event.get? "sample_rate" = some (.int rate)
  chunks : event.get? "chunks" = some (.int count)
  positive : 0 < count

/-- The chunk of this index. -/
structure IsChunk (requestId : String) (index : ℕ) (event : Dict) : Prop where
  answers : Answers requestId event
  kind : event.get? "event" = some (.str "chunk")
  index : event.get? "index" = some (.int index)
  output : ∃ output, output ≠ "" ∧ event.get? "output" = some (.str output)
  text : ∃ text, event.get? "text" = some (.str text)

/-- The completion of a stream of this many chunks. -/
structure IsDone (requestId : String) (count : ℕ) (event : Dict) : Prop where
  answers : Answers requestId event
  kind : event.get? "event" = some (.str "done")
  cancelled : event.get? "cancelled" = some (.bool false)
  chunks : event.get? "chunks" = some (.int count)

/-- One start, the chunks from the first on, one completion, and nothing else. -/
def IsSpeechStream (requestId : String) (events : List Dict) : Prop :=
  ∃ start chunks done, events = start :: (chunks ++ [done]) ∧
    IsStart requestId chunks.length start ∧
    (∀ index (h : index < chunks.length), IsChunk requestId index chunks[index]) ∧
    IsDone requestId chunks.length done

/-! ### What one event does -/

theorem integer_eq_ok_iff (value : Option Json) (field : String) (positive : Bool) (number : ℤ) :
    integer value field positive = .ok number ↔
      value = some (.int number) ∧ (if positive then 0 < number else 0 ≤ number) := by
  constructor
  · intro h
    unfold integer at h
    split at h
    · cases positive with
      | true =>
        split_ifs at h with hzero
        · cases h
          exact ⟨rfl, by simpa using hzero⟩
      | false =>
        rw [if_neg fun hwrong ↦ Bool.false_ne_true hwrong.1] at h
        split_ifs at h with hnegative
        cases h
        exact ⟨rfl, by simpa using hnegative⟩
    · cases h
  · rintro ⟨rfl, hnumber⟩
    cases positive with
    | true =>
      have hnot : ¬ number ≤ 0 := not_le.mpr hnumber
      simp [integer, hnot]
    | false =>
      have hnot : ¬ number < 0 := not_lt.mpr hnumber
      simp [integer, hnot]

namespace StreamProgress

variable {requestId : String} {progress next : StreamProgress} {event : Dict}

theorem start_eq_ok_iff :
    progress.start event = .ok next ↔
      progress.started = false ∧ ∃ rate count : ℤ,
        (event.get? "sample_rate" = some (.int rate) ∧ 0 < rate) ∧
        (event.get? "chunks" = some (.int count) ∧ 0 < count) ∧
        next = { progress with sampleRate := rate, expectedChunks := count, started := true } := by
  have hrate := integer_eq_ok_iff (event.get? "sample_rate") "start.sample_rate" true
  have hcount := integer_eq_ok_iff (event.get? "chunks") "start.chunks" true
  simp only [if_true] at hrate hcount
  simp only [← hrate, ← hcount]
  unfold start
  cases progress.started with
  | true => simp
  | false =>
    cases integer (event.get? "sample_rate") "start.sample_rate" true with
    | error error => simp
    | ok rate =>
      cases integer (event.get? "chunks") "start.chunks" true with
      | error error => simp
      | ok count => simp [eq_comm]

theorem chunk_eq_ok_iff :
    progress.chunk event = .ok next ↔
      progress.started = true ∧ (event.get? "index" = some (.int progress.chunks) ∧ 0 ≤ progress.chunks) ∧
        (∃ output, output ≠ "" ∧ event.get? "output" = some (.str output)) ∧
        (∃ text, event.get? "text" = some (.str text)) ∧
        next = { progress with chunks := progress.chunks + 1 } := by
  have hindex := integer_eq_ok_iff (event.get? "index") "chunk.index" false
  simp only [Bool.false_eq_true, if_false] at hindex
  rw [← hindex]
  unfold chunk
  cases progress.started with
  | false => simp
  | true =>
    cases integer (event.get? "index") "chunk.index" false with
    | error error => simp
    | ok index =>
      by_cases heq : index = progress.chunks
      · subst heq
        rcases event.get? "output" with _ | output
        · simp
        · cases output with
          | str output =>
            by_cases houtput : output = ""
            · simp [houtput]
            · rcases event.get? "text" with _ | text
              · simp [houtput]
              · cases text <;> simp [houtput, eq_comm]
          | _ => simp
      · simp [heq]

theorem complete_eq_ok_iff :
    progress.complete event = .ok next ↔
      progress.started = true ∧ ∃ cancelled, event.get? "cancelled" = some (.bool cancelled) ∧
        (event.get? "chunks" = some (.int progress.chunks) ∧ 0 ≤ progress.chunks) ∧
        (cancelled = false → progress.chunks = progress.expectedChunks) ∧
        next = { progress with done := true, doneEvent := some event } := by
  have hcount := integer_eq_ok_iff (event.get? "chunks") "done.chunks" false
  simp only [Bool.false_eq_true, if_false] at hcount
  rw [← hcount]
  unfold complete
  cases progress.started with
  | false => simp
  | true =>
    rcases event.get? "cancelled" with _ | value
    · simp
    · cases value with
      | bool cancelled =>
        cases integer (event.get? "chunks") "done.chunks" false with
        | error error => simp
        | ok count =>
          by_cases heq : count = progress.chunks
          · subst heq
            cases cancelled <;> by_cases hexpected : progress.chunks = progress.expectedChunks <;>
              simp [hexpected, eq_comm]
          · simp [heq]
      | _ => simp

variable [JsonText]

/-- What a step of the stream checks of every event. -/
theorem validateEvent_eq_ok_iff :
    progress.validateEvent requestId event = .ok next ↔
      Answers requestId event ∧ progress.done = false ∧ progress.validateKind event = .ok next := by
  unfold validateEvent
  constructor
  · intro h
    split_ifs at h with hok hdone hrequest
    exact ⟨⟨not_not.mp hok, not_not.mp hrequest⟩, Bool.eq_false_iff.mpr hdone, h⟩
  · rintro ⟨hanswers, hdone, hkind⟩
    have hrequest : ¬ event.get? "request_id" ≠ some (.str requestId) := not_not.mpr hanswers.requestId
    rw [if_neg (not_not.mpr hanswers.ok), if_neg (by simp [hdone]), if_neg hrequest]
    exact hkind

/-- The three kinds of events, each with its checks. -/
theorem validateKind_eq_ok_iff :
    progress.validateKind event = .ok next ↔
      (event.get? "event" = some (.str "start") ∧ progress.start event = .ok next) ∨
      (event.get? "event" = some (.str "chunk") ∧ progress.chunk event = .ok next) ∨
      (event.get? "event" = some (.str "done") ∧ progress.complete event = .ok next) := by
  constructor
  · intro h
    unfold validateKind at h
    split at h
    next hkind => exact .inl ⟨hkind, h⟩
    next hkind => exact .inr (.inl ⟨hkind, h⟩)
    next hkind => exact .inr (.inr ⟨hkind, h⟩)
    next => cases h
  · rintro (⟨hkind, h⟩ | ⟨hkind, h⟩ | ⟨hkind, h⟩) <;>
    · unfold validateKind
      rw [hkind]
      exact h

/-! ### Streams -/

/-- The stream came to its end, and was not cancelled. -/
def IsFinished (progress : StreamProgress) : Prop :=
  progress.done = true ∧ ∃ event, progress.doneEvent = some event ∧
    event.get? "cancelled" ≠ some (.bool true)

/-- The events from this progress on are read and finish the stream. -/
def Finishes (requestId : String) (progress : StreamProgress) (events : List Dict) : Prop :=
  ∃ final, progress.validateAll requestId events = .ok final ∧ final.IsFinished

theorem finishes_cons_iff {events : List Dict} :
    Finishes requestId progress (event :: events) ↔
      ∃ next, progress.validateEvent requestId event = .ok next ∧ Finishes requestId next events := by
  unfold Finishes
  rw [validateAll]
  cases progress.validateEvent requestId event with
  | error error => simp
  | ok next => simp

/-- A stream that is done takes no event. -/
theorem finishes_done_iff (hdone : progress.done = true) {events : List Dict} :
    Finishes requestId progress events ↔ events = [] ∧ progress.IsFinished := by
  cases events with
  | nil => simp [Finishes, validateAll]
  | cons event events =>
    rw [finishes_cons_iff]
    constructor
    · rintro ⟨next, hnext, -⟩
      rw [validateEvent_eq_ok_iff, hdone] at hnext
      exact absurd hnext.2.1 (by decide)
    · rintro ⟨h, -⟩
      cases h

/-- Behind the start the chunks follow from the next index on, and the completion counts them all. -/
theorem finishes_started_iff {events : List Dict} (count : ℕ) (hstarted : progress.started = true)
    (hdone : progress.done = false) (hcount : progress.chunks = count) :
    Finishes requestId progress events ↔
      ∃ chunks done, events = chunks ++ [done] ∧
        (∀ index (h : index < chunks.length), IsChunk requestId (count + index) chunks[index]) ∧
        IsDone requestId (count + chunks.length) done ∧
        progress.expectedChunks = count + chunks.length := by
  induction events generalizing progress count with
  | nil => simp [Finishes, validateAll, IsFinished, hdone]
  | cons event events ih =>
    rw [finishes_cons_iff]
    constructor
    · rintro ⟨next, hnext, hrest⟩
      obtain ⟨hanswers, -, hkind⟩ := validateEvent_eq_ok_iff.mp hnext
      rcases validateKind_eq_ok_iff.mp hkind with ⟨-, hstart⟩ | ⟨hname, hchunk⟩ | ⟨hname, hcomplete⟩
      · exact absurd (start_eq_ok_iff.mp hstart).1 (by simp [hstarted])
      · obtain ⟨-, ⟨hindex, -⟩, houtput, htext, rfl⟩ := chunk_eq_ok_iff.mp hchunk
        have hnextCount : progress.chunks + 1 = ((count + 1 : ℕ) : ℤ) := by
          rw [hcount]
          rfl
        obtain ⟨chunks, done, rfl, hchunks, hlast, hexpected⟩ :=
          (@ih { progress with chunks := progress.chunks + 1 } (count + 1) hstarted hdone hnextCount).mp hrest
        refine ⟨event :: chunks, done, rfl, fun index hlt ↦ ?_, ?_, ?_⟩
        · cases index with
          | zero => exact ⟨hanswers, hname, hcount ▸ hindex, houtput, htext⟩
          | succ index =>
            have hlater := hchunks index (Nat.lt_of_succ_lt_succ hlt)
            rw [Nat.add_right_comm, Nat.add_assoc] at hlater
            exact hlater
        · rw [List.length_cons, ← Nat.add_assoc, Nat.add_right_comm]
          exact hlast
        · rw [hexpected, List.length_cons]
          push_cast
          ring
      · obtain ⟨-, cancelled, hcancelled, ⟨hchunks, -⟩, hexpected, rfl⟩ := complete_eq_ok_iff.mp hcomplete
        obtain ⟨rfl, -, last, hlast, hnot⟩ := (finishes_done_iff rfl).mp hrest
        obtain rfl := Option.some.inj hlast
        have hfalse : cancelled = false := by
          cases cancelled with
          | false => rfl
          | true => exact absurd hcancelled hnot
        subst hfalse
        refine ⟨[], event, rfl, fun _ hlt ↦ absurd hlt (Nat.not_lt_zero _), ?_, ?_⟩
        · exact ⟨hanswers, hname, hcancelled, hcount ▸ hchunks⟩
        · rw [← hexpected rfl, hcount]
          simp
    · rintro ⟨chunks, done, hevents, hchunks, hlast, hexpected⟩
      cases chunks with
      | nil =>
        obtain ⟨rfl, rfl⟩ := List.cons.inj hevents
        have hnatural : (0 : ℤ) ≤ progress.chunks := hcount ▸ Int.natCast_nonneg count
        have hequal : progress.chunks = progress.expectedChunks := by
          rw [hcount, hexpected]
          simp
        have hcomplete : progress.complete event = .ok _ := complete_eq_ok_iff.mpr
          ⟨hstarted, false, hlast.cancelled, ⟨hcount ▸ hlast.chunks, hnatural⟩, fun _ ↦ hequal, rfl⟩
        refine ⟨_, validateEvent_eq_ok_iff.mpr ⟨hlast.answers, hdone,
          validateKind_eq_ok_iff.mpr (.inr (.inr ⟨hlast.kind, hcomplete⟩))⟩, ?_⟩
        refine (finishes_done_iff rfl).mpr ⟨rfl, rfl, event, rfl, ?_⟩
        rw [hlast.cancelled]
        simp
      | cons chunk chunks =>
        obtain ⟨rfl, hrest⟩ := List.cons.inj hevents
        have hfirst := hchunks 0 (Nat.succ_pos _)
        have hnatural : (0 : ℤ) ≤ progress.chunks := hcount ▸ Int.natCast_nonneg count
        have hstep : progress.chunk event = .ok _ := chunk_eq_ok_iff.mpr
          ⟨hstarted, ⟨hcount ▸ hfirst.index, hnatural⟩, hfirst.output, hfirst.text, rfl⟩
        refine ⟨_, validateEvent_eq_ok_iff.mpr ⟨hfirst.answers, hdone,
          validateKind_eq_ok_iff.mpr (.inr (.inl ⟨hfirst.kind, hstep⟩))⟩, ?_⟩
        have hnextCount : progress.chunks + 1 = ((count + 1 : ℕ) : ℤ) := by
          rw [hcount]
          rfl
        refine (@ih { progress with chunks := progress.chunks + 1 } (count + 1) hstarted hdone
          hnextCount).mpr ⟨chunks, done, hrest, fun index hlt ↦ ?_, ?_, ?_⟩
        · have hlater := hchunks (index + 1) (Nat.succ_lt_succ hlt)
          rw [← Nat.add_assoc, Nat.add_right_comm] at hlater
          exact hlater
        · rw [Nat.add_right_comm, Nat.add_assoc]
          exact hlast
        · rw [hexpected, List.length_cons]
          push_cast
          ring

/-- A new parser takes the streams of the grammar to their end, and no others. -/
theorem finishes_initial_iff {events : List Dict} :
    Finishes requestId .initial events ↔ IsSpeechStream requestId events := by
  cases events with
  | nil => simp [Finishes, validateAll, IsFinished, initial, IsSpeechStream]
  | cons event events =>
    rw [finishes_cons_iff]
    constructor
    · rintro ⟨next, hnext, hrest⟩
      obtain ⟨hanswers, -, hkind⟩ := validateEvent_eq_ok_iff.mp hnext
      rcases validateKind_eq_ok_iff.mp hkind with ⟨hname, hstart⟩ | ⟨-, hchunk⟩ | ⟨-, hcomplete⟩
      · obtain ⟨-, rate, expected, ⟨hrate, hpositive⟩, ⟨hexpected, hmany⟩, rfl⟩ :=
          start_eq_ok_iff.mp hstart
        obtain ⟨chunks, done, rfl, hchunks, hlast, hcount⟩ :=
          (finishes_started_iff 0 rfl rfl rfl).mp hrest
        simp only [Nat.cast_zero, zero_add] at hchunks hlast hcount
        subst hcount
        exact ⟨event, chunks, done, rfl, ⟨hanswers, hname, ⟨rate, hpositive, hrate⟩, hexpected,
          Int.natCast_pos.mp hmany⟩, hchunks, hlast⟩
      · exact absurd (chunk_eq_ok_iff.mp hchunk).1 (by decide)
      · exact absurd (complete_eq_ok_iff.mp hcomplete).1 (by decide)
    · rintro ⟨start, chunks, done, hevents, hstart, hchunks, hlast⟩
      obtain ⟨rfl, rfl⟩ := List.cons.inj hevents
      obtain ⟨rate, hpositive, hrate⟩ := hstart.sampleRate
      have hstep : initial.start event = .ok _ := start_eq_ok_iff.mpr
        ⟨rfl, rate, chunks.length, ⟨hrate, hpositive⟩,
          ⟨hstart.chunks, Int.natCast_pos.mpr hstart.positive⟩, rfl⟩
      refine ⟨_, validateEvent_eq_ok_iff.mpr ⟨hstart.answers, rfl,
        validateKind_eq_ok_iff.mpr (.inl ⟨hstart.kind, hstep⟩)⟩, ?_⟩
      refine (finishes_started_iff 0 rfl rfl rfl).mpr ⟨chunks, done, rfl, ?_, ?_, ?_⟩
      · simpa only [Nat.zero_add] using hchunks
      · simpa only [Nat.zero_add] using hlast
      · simp

end StreamProgress

/-! ### Lines -/

variable [JsonText]

/-- The line is the text of the event: a JSON object without a newline. -/
def IsEventLine (line : List Char) (event : Dict) : Prop :=
  '\n' ∉ line ∧ line ≠ [] ∧ JsonText.loads line = some (.obj event)

namespace Parser

/-- Lines of events are read as their events are checked. -/
theorem readLines_events {requestId : String} {progress : StreamProgress}
    {lines : List (List Char)} {events : List Dict} (hlines : List.Forall₂ IsEventLine lines events) :
    match progress.validateAll requestId events with
    | .ok final => readLines requestId progress lines = (events, .ok final)
    | .error error => (readLines requestId progress lines).2 = .error error := by
  induction hlines generalizing progress with
  | nil => rfl
  | @cons line event lines events hline hlines ih =>
    have hdecoded : decodeLine line = .ok event := by
      rw [decodeLine, if_neg hline.2.1, hline.2.2]
    rw [StreamProgress.validateAll]
    cases hevent : progress.validateEvent requestId event with
    | error error =>
      have hread : readLine requestId progress line = .error error := by
        simp only [readLine, hdecoded, hevent]
      rw [readLines_cons_of_error hread]
    | ok next =>
      have hread : readLine requestId progress line = .ok (event, next) := by
        simp only [readLine, hdecoded, hevent]
      have hlater := @ih next
      rw [readLines_cons_of_ok hread]
      cases hrest : next.validateAll requestId events with
      | error error =>
        simp only [hrest] at hlater ⊢
        exact hlater
      | ok final =>
        simp only [hrest] at hlater ⊢
        rw [hlater]

/-- All calls succeed if the reading line by line does. -/
theorem feedAll_eq (parser : Parser) (fragments : List (List Char)) :
    parser.feedAll fragments =
      match parser.deliver fragments with
      | (events, .ok final) => .ok (events, final)
      | (_, .error error) => .error error := by
  induction fragments generalizing parser with
  | nil => rfl
  | cons fragment fragments ih =>
    rw [feedAll, deliver]
    rcases parser.feed fragment with error | ⟨events, next⟩
    · rfl
    · simp only [ih]
      rcases next.deliver fragments with ⟨later, error | final⟩ <;> rfl

omit [JsonText] in
theorem finish_isOk_iff {requestId : String} {progress : StreamProgress} :
    (∃ event, (⟨requestId, [], progress⟩ : Parser).finish = .ok event) ↔ progress.IsFinished := by
  unfold finish StreamProgress.IsFinished
  cases progress.done with
  | false => simp
  | true =>
    cases progress.doneEvent with
    | none => simp
    | some event =>
      by_cases hcancelled : event.get? "cancelled" = some (.bool true)
      · simp [hcancelled]
      · simp [hcancelled]

/-- A new parser that is fed lines of JSON objects, cut anywhere, accepts them and finishes if and only if
they are a stream of the grammar, and then it gives back their events in order. -/
theorem readStream_isOk_iff {requestId : String} {lines : List (List Char)} {events : List Dict}
    (hlines : List.Forall₂ IsEventLine lines events) {fragments : List (List Char)}
    (hstream : fragments.flatten = encodeLines '\n' lines) :
    ((∃ heard done, (new requestId).readStream fragments = .ok (heard, done)) ↔
        IsSpeechStream requestId events) ∧
      ∀ heard done, (new requestId).readStream fragments = .ok (heard, done) → heard = events := by
  have hnewline : ∀ line ∈ lines, '\n' ∉ line := by
    intro line hline
    obtain ⟨index, hlt, rfl⟩ := List.mem_iff_getElem.mp hline
    exact (hlines.get hlt (hlines.length_eq ▸ hlt)).1
  have hsplit : cutLines '\n' fragments.flatten = (lines, []) := by
    rw [hstream, ← List.append_nil (encodeLines '\n' lines)]
    exact cutLines_encodeLines hnewline List.not_mem_nil
  have hread := @readLines_events _ requestId .initial lines events hlines
  rw [← StreamProgress.finishes_initial_iff]
  unfold readStream StreamProgress.Finishes
  rw [feedAll_eq]
  cases hevents : StreamProgress.initial.validateAll requestId events with
  | error error =>
    rw [hevents] at hread
    obtain ⟨heard, hheard⟩ : ∃ heard, readLines requestId .initial
        (cutLines '\n' fragments.flatten).1 = (heard, .error error) :=
      ⟨_, Prod.ext rfl (hsplit ▸ hread)⟩
    rw [deliver_of_error (.new requestId) List.not_mem_nil hheard]
    simp
  | ok final =>
    rw [hevents] at hread
    have hheard : readLines requestId .initial (cutLines '\n' fragments.flatten).1 =
        (events, .ok final) := hsplit ▸ hread
    have hdelivered : (new requestId).deliver fragments = (events, .ok ⟨requestId, [], final⟩) := by
      rw [deliver_of_ok (.new requestId) List.not_mem_nil hheard]
      have hrest : (cutLines '\n' ((new requestId).buffer ++ fragments.flatten)).2 = [] :=
        congrArg Prod.snd hsplit
      rw [hrest]
      rfl
    rw [hdelivered]
    have hfinish := @finish_isOk_iff requestId final
    cases hend : (⟨requestId, [], final⟩ : Parser).finish with
    | error error =>
      rw [hend] at hfinish
      simp only [hend]
      simpa using hfinish
    | ok event =>
      rw [hend] at hfinish
      simp only [hend]
      simpa using hfinish

def oneStart : Dict :=
  [("ok", .bool true), ("request_id", .str "reply-1"), ("event", .str "start"),
    ("sample_rate", .int 24000), ("chunks", .int 1)]

def oneDone : Dict :=
  [("ok", .bool true), ("request_id", .str "reply-1"), ("event", .str "done"),
    ("cancelled", .bool false), ("chunks", .int 1)]

omit [JsonText] in
theorem isSpeechStream_one : IsSpeechStream "reply-1" [oneStart, chunkLine, oneDone] := by
  refine ⟨oneStart, [chunkLine], oneDone, rfl, ?_, fun index hlt ↦ ?_, ?_⟩
  · exact ⟨⟨by decide, by decide⟩, by decide, ⟨24000, by decide, by decide⟩, by decide, by decide⟩
  · obtain rfl : index = 0 := Nat.lt_one_iff.mp hlt
    have hchunk : IsChunk "reply-1" 0 chunkLine := ⟨⟨by decide, by decide⟩, by decide, by decide, ⟨_, by decide, rfl⟩, ⟨_, rfl⟩⟩
    exact hchunk
  · exact ⟨⟨by decide, by decide⟩, by decide, by decide, by decide⟩

omit [JsonText] in
theorem isReadBack_one : ∀ event ∈ [oneStart, chunkLine, oneDone],
    @IsReadBack (StreamRequest.recordsText [oneStart, chunkLine, oneDone]) event := by
  decide +kernel

omit [JsonText] in
theorem readStream_isOk_one :
    let _ := StreamRequest.recordsText [oneStart, chunkLine, oneDone]
    ∃ heard done, (new "reply-1").readStream
      [StreamRequest.recordText oneStart ++ ['\n'] ++ StreamRequest.recordText chunkLine,
        '\n' :: StreamRequest.recordText oneDone ++ ['\n']] = .ok (heard, done) := by
  intro text
  have hlines : List.Forall₂ IsEventLine
      ([oneStart, chunkLine, oneDone].map StreamRequest.recordText) [oneStart, chunkLine, oneDone] := by
    rw [List.forall₂_map_left_iff, List.forall₂_same]
    exact isReadBack_one
  have hstream : [StreamRequest.recordText oneStart ++ ['\n'] ++ StreamRequest.recordText chunkLine,
      '\n' :: StreamRequest.recordText oneDone ++ ['\n']].flatten =
      encodeLines '\n' ([oneStart, chunkLine, oneDone].map StreamRequest.recordText) := by
    simp [encodeLines]
  exact ((readStream_isOk_iff hlines hstream).1).mpr isSpeechStream_one

end Parser

end VoiceHarness.Tts
